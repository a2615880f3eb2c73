import RemoteUsb.Device

/-!
Sample devices, for trying the library without hardware. Their names and serial numbers are made
from the place on the bus.
-/
namespace RemoteUsb.DeviceInfo

/-- A device of the given class, named after its address. -/
def sample (bus address : UInt8) (vendor product : UInt16) (deviceClass : UInt8) : DeviceInfo :=
  { bus, address, vendor, product, release := 0x0100, deviceClass,
    manufacturerName := some s!"Test Manufacturer {address.toNat}",
    productName := some s!"Test Product {address.toNat}",
    serialNumber := some s!"SN{Text.decimal 3 bus.toNat}{Text.decimal 3 address.toNat}" }

def sampleStorage (bus address : UInt8) : DeviceInfo := sample bus address 0x0781 0x5581 0x08

def sampleInput (bus address : UInt8) : DeviceInfo := sample bus address 0x046d 0xc52b 0x03

def sampleHub (bus address : UInt8) : DeviceInfo := sample bus address 0x05e3 0x0608 hubClass

/-- A composite device with two video and two audio interfaces and isochronous endpoints. -/
def sampleWebcam (bus address : UInt8) : DeviceInfo :=
  { sample bus address 0x046d 0x0825 0xef with
    interfaceClasses := [0x0e, 0x0e, 0x01, 0x01], isochronous := true }

/-- The sample of a kind; a plain device has the given codes, and other kinds have their own. -/
def sampleOf (kind : String) (bus address : UInt8) (vendor product : UInt16) (deviceClass : UInt8) :
    DeviceInfo :=
  match kind with
  | "info" => sample bus address vendor product 0
  | "class" => sample bus address vendor product deviceClass
  | "storage" => sampleStorage bus address
  | "hid" => sampleInput bus address
  | "hub" => sampleHub bus address
  | "webcam" => sampleWebcam bus address
  | _ => { bus, address }

/-- Devices at the addresses 1 to `count` of bus 1, with codes of their own. -/
def sampleList (count : UInt8) : List DeviceInfo :=
  (List.range count.toNat).map fun i =>
    sample 1 (i + 1).toUInt8 (0x1000 + i + 1).toUInt16 (0x2000 + i + 1).toUInt16 0

end RemoteUsb.DeviceInfo
