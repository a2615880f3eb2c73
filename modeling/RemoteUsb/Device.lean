import RemoteUsb.Text.Blank
import RemoteUsb.Text.Digits
import RemoteUsb.Text.Parts

/-!
USB devices as the bus reports them: what is known of one, the key that names it, and the part of it
that filter rules look at.
-/
namespace RemoteUsb

/-- How devices are told apart: by the place on the bus, or by vendor and product. -/
inductive Addressing where
  | busAddress
  | vendorProduct
  deriving DecidableEq, Repr, Inhabited

/-- The name of a device under one of the addressings. -/
inductive DeviceKey where
  | busAddress (bus address : UInt8)
  | vendorProduct (vendor product : UInt16)
  deriving DecidableEq, Repr, Inhabited

/-- A key as text: `bus-address` in decimal, or `vendor:product` in four hexadecimal digits each. -/
def DeviceKey.text : DeviceKey → String
  | .busAddress bus address => s!"{bus.toNat}-{address.toNat}"
  | .vendorProduct vendor product => s!"{Text.hex 4 vendor.toNat}:{Text.hex 4 product.toNat}"

def DeviceKey.ofText? (s : String) : Option DeviceKey :=
  let number (base bound : Nat) (cs : List Char) : Option Nat :=
    (Text.readNatural? base cs).filter (· < bound)
  match Text.splitAt ':' s.toList, Text.splitAt '-' s.toList with
  | [v, p], _ => do
    return .vendorProduct (← number 16 0x10000 v).toUInt16 (← number 16 0x10000 p).toUInt16
  | _, [b, a] => do return .busAddress (← number 10 0x100 b).toUInt8 (← number 10 0x100 a).toUInt8
  | _, _ => none

/-- The codes of a device that filter rules decide on. -/
structure Descriptor where
  deviceClass : UInt8
  vendor : UInt16
  product : UInt16
  release : UInt16
  interfaceClasses : List UInt8
  deriving DecidableEq, Repr

/-- What is known of a device. `release` is its version as binary coded decimal, and `isochronous`
says that one of its endpoints transfers isochronously. -/
structure DeviceInfo where
  bus : UInt8
  address : UInt8
  vendor : UInt16 := 0
  product : UInt16 := 0
  release : UInt16 := 0
  deviceClass : UInt8 := 0
  subclass : UInt8 := 0
  protocol : UInt8 := 0
  interfaceClasses : List UInt8 := []
  isochronous : Bool := false
  manufacturerName : Option String := none
  productName : Option String := none
  serialNumber : Option String := none
  deriving DecidableEq, Repr, Inhabited

namespace DeviceInfo

def hubClass : UInt8 := 0x09

def key (d : DeviceInfo) : Addressing → DeviceKey
  | .busAddress => .busAddress d.bus d.address
  | .vendorProduct => .vendorProduct d.vendor d.product

def descriptor (d : DeviceInfo) : Descriptor :=
  { deviceClass := d.deviceClass, vendor := d.vendor, product := d.product, release := d.release,
    interfaceClasses := d.interfaceClasses }

def isHub (d : DeviceInfo) : Bool := d.deviceClass == hubClass

/-- One line for people: the names without blanks around them, or stand-ins for missing ones, then
the codes and the place. -/
def description (d : DeviceInfo) : String :=
  let manufacturer := Text.trim (d.manufacturerName.getD "USB")
  let product := Text.trim (d.productName.getD "Device")
  let codes := (DeviceKey.vendorProduct d.vendor d.product).text
  let place := (DeviceKey.busAddress d.bus d.address).text
  s!"{manufacturer} {product} [{codes}] at {place}"

end DeviceInfo

inductive DeviceFault where
  /-- The peer sent something that cannot be read. -/
  | parse
  /-- The peer refused the device. -/
  | rejected
  /-- The device is gone. -/
  | lost
  | unknown
  deriving DecidableEq, Repr

instance : Inhabited DeviceFault := ⟨.unknown⟩

def DeviceFault.message : DeviceFault → String
  | .parse => "redirection protocol parse error"
  | .rejected => "rejected by the remote side"
  | .lost => "disconnected (fatal I/O error)"
  | .unknown => "unknown error"

end RemoteUsb
