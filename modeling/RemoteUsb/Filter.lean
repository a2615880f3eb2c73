import RemoteUsb.Device

/-!
Filters: lists of rules of which the first that matches decides. A device that no rule matches is
denied.
-/
namespace RemoteUsb

/-- One rule. A field without a value matches anything. -/
structure FilterRule where
  deviceClass : Option UInt8 := none
  vendor : Option UInt16 := none
  product : Option UInt16 := none
  release : Option UInt16 := none
  allow : Bool
  deriving DecidableEq, Repr

/-- Rules, of which the first that matches decides. -/
abbrev Filter := List FilterRule

namespace FilterRule

def admits {α : Type} [DecidableEq α] (field : Option α) (value : α) : Bool :=
  field.all (decide <| · = value)

/-- Whether the rule applies to a device judged under the class `c`. -/
def applies (rule : FilterRule) (c : UInt8) (d : Descriptor) : Bool :=
  admits rule.deviceClass c && admits rule.vendor d.vendor && admits rule.product d.product &&
    admits rule.release d.release

end FilterRule

namespace Filter

/-- The verdict of the first rule that applies to the device under the class `c`. -/
def verdict (f : Filter) (c : UInt8) (d : Descriptor) : Option Bool :=
  (f.find? (·.applies c d)).map (·.allow)

/-- The verdict on the device class; no rule means no. -/
def matchesDevice (f : Filter) (d : Descriptor) : Bool := (f.verdict d.deviceClass d).getD false

/-- Devices of these classes say what they are by their interfaces. -/
def isComposite (c : UInt8) : Bool := c == 0x00 || c == 0xef

/-- The classes under which a device is judged: those of its interfaces and, unless it is a composite
device with interfaces, the device class in front of them. -/
def judgedClasses (d : Descriptor) : List UInt8 :=
  if isComposite d.deviceClass && !d.interfaceClasses.isEmpty then d.interfaceClasses
  else d.deviceClass :: d.interfaceClasses

/-- Whether the verdict is yes under every class that the device is judged under. -/
def permits (f : Filter) (d : Descriptor) : Bool :=
  (judgedClasses d).all fun c => (f.verdict c d).getD false

end Filter
end RemoteUsb
