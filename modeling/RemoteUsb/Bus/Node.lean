import RemoteUsb.Bus.Fault
import RemoteUsb.Text.Utf8

/-!
The devices on a native bus, with the answers that the bus gives to every question about them.
-/
namespace RemoteUsb.Bus

/-- A string that a device's descriptor names: what the bus delivers, or the code of the failure to
read it. -/
inductive StoredText where
  | bytes (content : List UInt8)
  | failing (code : Code)
  deriving DecidableEq, Repr

def StoredText.limit : Nat := 255

/-- The text, if it can be read and is UTF-8. -/
def StoredText.read? : StoredText → Option String
  | .bytes content => (Text.Utf8.decode (content.take limit)).toOption
  | .failing _ => none

def StoredText.code : StoredText → Code
  | .bytes _ => 0
  | .failing code => code

/-- One of the settings of an interface; endpoints are given by their attributes. -/
structure Setting where
  number : UInt8
  interfaceClass : UInt8
  endpoints : List UInt8
  deriving DecidableEq, Repr

/-- Whether an endpoint with these attributes transfers isochronously. -/
def isIsochronous (attributes : UInt8) : Bool := attributes &&& 0x03 == 0x01

/-- An interface, with the result codes of the calls for it. `kernel` is one if a kernel driver is
attached and zero if none is. -/
structure Interface where
  number : UInt8
  kernel : Code := 0
  detach : Code := 0
  claim : Code := 0
  release : Code := 0
  attach : Code := 0
  settings : List Setting
  hasSetting : settings ≠ [] := by decide
  deriving DecidableEq, Repr

/-- What the bus library breaks off with when it comes to an interface without settings. -/
def Interface.withoutSetting : String := "assertion failed: !descriptors.is_empty()"

def Interface.described (number : UInt8) (kernel detach claim release attach : Code)
    (settings : List Setting) : Except String Interface :=
  if hasSetting : settings ≠ [] then
    .ok { number, kernel, detach, claim, release, attach, settings, hasSetting }
  else .error withoutSetting

/-- A device on the bus. The three codes are those of reading its descriptor, of reading its
configuration and of opening it; a string that the descriptor does not name is missing. -/
structure Node where
  present : Bool := true
  bus : UInt8
  address : UInt8
  vendor : UInt16 := 0
  product : UInt16 := 0
  release : UInt16 := 0
  deviceClass : UInt8 := 0
  subclass : UInt8 := 0
  protocol : UInt8 := 0
  descriptorCode : Code := 0
  configurationCode : Code := 0
  openCode : Code := 0
  manufacturerName : Option StoredText := none
  productName : Option StoredText := none
  serialNumber : Option StoredText := none
  interfaces : List Interface := []
  deriving DecidableEq, Repr

/-- A version number as the bus library reports it: the first two digits as one number. -/
structure Release where
  major : Nat
  minor : Nat
  patch : Nat
  deriving DecidableEq, Repr

/-- The version that four digits of binary coded decimal stand for; the digits are not checked. -/
def Release.ofCoded (coded : UInt16) : Release :=
  let n := coded.toNat
  { major := 10 * (n / 4096) + n / 256 % 16, minor := n / 16 % 16, patch := n % 16 }

/-- A version in binary coded decimal. What does not fit into sixteen bits is lost at the top. -/
def Release.coded (r : Release) : UInt16 :=
  (r.major / 10 * 4096 + r.major % 10 * 256 + r.minor % 16 * 16 + r.patch % 16).toUInt16

/-- An operation on a device or on one of its interfaces. -/
inductive Operation where
  | openDevice
  | closeDevice
  | queryKernel (interface : UInt8)
  | detachKernel (interface : UInt8)
  | claim (interface : UInt8)
  | release (interface : UInt8)
  | attachKernel (interface : UInt8)
  | readText (index : Nat)
  deriving DecidableEq, Repr

/-- A call into the bus and the code with which it came back. -/
inductive Call where
  | device (bus address : UInt8) (operation : Operation) (code : Code)
  | register (code : Code)
  | deregister
  deriving DecidableEq, Repr

/-- One line for a call: the operation, the place of the device and the number. -/
def Call.text : Call → String
  | .register _ => "register"
  | .deregister => "deregister"
  | .device bus address operation _ =>
    let place := (DeviceKey.busAddress bus address).text
    match operation with
    | .openDevice => s!"open {place}"
    | .closeDevice => s!"close {place}"
    | .queryKernel n => s!"kernel {place} {n.toNat}"
    | .detachKernel n => s!"detach {place} {n.toNat}"
    | .claim n => s!"claim {place} {n.toNat}"
    | .release n => s!"release {place} {n.toNat}"
    | .attachKernel n => s!"attach {place} {n.toNat}"
    | .readText index => s!"string {place} {index}"

namespace Node

def call (node : Node) (operation : Operation) (code : Code) : Call :=
  .device node.bus node.address operation code

/-- The name of the device under an addressing. Vendor and product are known only if the descriptor
can be read. -/
def key? (node : Node) : Addressing → Option DeviceKey
  | .busAddress => some (.busAddress node.bus node.address)
  | .vendorProduct =>
    if node.descriptorCode < 0 then none else some (.vendorProduct node.vendor node.product)

/-- The settings that the active configuration shows; none if it cannot be read. -/
def settings (node : Node) : List Setting :=
  if node.configurationCode < 0 then [] else node.interfaces.flatMap (·.settings)

/-- What is known of the device without opening it. -/
def describe (node : Node) : Except Fault DeviceInfo := do
  node.descriptorCode.check
  return {
    bus := node.bus, address := node.address, vendor := node.vendor, product := node.product,
    release := (Release.ofCoded node.release).coded, deviceClass := node.deviceClass,
    subclass := node.subclass, protocol := node.protocol,
    interfaceClasses := (node.settings.filter (·.number == 0)).map (·.interfaceClass),
    isochronous := node.settings.any fun s => s.endpoints.any isIsochronous }

/-- The strings that the descriptor names, each under its index. -/
def texts (node : Node) : List (Nat × StoredText) :=
  [(1, node.manufacturerName), (2, node.productName), (3, node.serialNumber)].filterMap
    fun (index, text) => text.map (index, ·)

/-- The calls that read the strings: nothing but the attempt if the device cannot be opened. -/
def textCalls (node : Node) : List Call :=
  let opening := node.call .openDevice node.openCode
  if node.openCode < 0 then [opening]
  else opening :: node.texts.map (fun (index, text) => node.call (.readText index) text.code) ++
    [node.call .closeDevice 0]

/-- Adds the strings, as far as they can be read. -/
def withTexts (node : Node) (info : DeviceInfo) : DeviceInfo :=
  if node.openCode < 0 then info
  else { info with
    manufacturerName := node.manufacturerName.bind StoredText.read?
    productName := node.productName.bind StoredText.read?
    serialNumber := node.serialNumber.bind StoredText.read? }

end Node
end RemoteUsb.Bus
