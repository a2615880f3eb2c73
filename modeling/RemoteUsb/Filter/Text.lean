import RemoteUsb.Filter
import RemoteUsb.Text.Parts

/-!
The text of filters: rules between bars, and in each rule five fields between commas, which are the
class, the vendor, the product, the version and whether to allow. Numbers are decimal, or hexadecimal
after `0x`, and `-1` stands for any value.
-/
namespace RemoteUsb

/-- The numeric fields of a rule, in the order in which they are written and checked. -/
inductive FilterField where
  | deviceClass
  | vendor
  | product
  | release
  deriving DecidableEq, Repr

def FilterField.name : FilterField → String
  | .deviceClass => "class"
  | .vendor => "vendor"
  | .product => "product"
  | .release => "version"

def FilterField.max : FilterField → Nat
  | .deviceClass => 0xff
  | _ => 0xffff

/-- Why a text is no filter. Rules are counted from zero. -/
inductive FilterError where
  | fieldCount (rule found : Nat)
  | invalidAllow (rule : Nat) (text : String)
  /-- The field is no numeral of a 64-bit number. -/
  | invalidNumber (rule : Nat) (field : FilterField) (text : String)
  | outOfRange (rule : Nat) (field : FilterField) (value : Int)
  deriving DecidableEq, Repr

def FilterError.message : FilterError → String
  | .fieldCount rule found => s!"rule {rule}: expected 5 fields, found {found}"
  | .invalidAllow rule text => s!"rule {rule}: allow must be 0 or 1, got '{text}'"
  | .invalidNumber rule field text => s!"rule {rule}: invalid {field.name} value '{text}'"
  | .outOfRange rule field value => s!"rule {rule}: {field.name} value {value} out of range"

namespace FilterRule

def readNumber? : List Char → Option Int
  | '0' :: 'x' :: cs => Text.readInt64? 16 cs
  | '0' :: 'X' :: cs => Text.readInt64? 16 cs
  | cs => Text.readInt64? 10 cs

/-- Reads a numeric field of the rule with the given index; `-1` is any value. -/
def readField (rule : Nat) (field : FilterField) (cs : List Char) : Except FilterError (Option Nat) :=
  let cs := Text.strip cs
  match readNumber? cs with
  | none => .error (.invalidNumber rule field (String.ofList cs))
  | some value =>
    if value = -1 then .ok none
    else if 0 ≤ value ∧ value ≤ field.max then .ok (some value.toNat)
    else .error (.outOfRange rule field value)

def readAllow (rule : Nat) (cs : List Char) : Except FilterError Bool :=
  match Text.strip cs with
  | ['0'] => .ok false
  | ['1'] => .ok true
  | other => .error (.invalidAllow rule (String.ofList other))

/-- Reads one rule. The count of fields is checked first, then the last field, then the others from
the left. -/
def read (rule : Nat) (cs : List Char) : Except FilterError FilterRule :=
  match Text.splitAt ',' cs with
  | [c, v, p, r, a] => do
    let allow ← readAllow rule a
    let deviceClass ← readField rule .deviceClass c
    let vendor ← readField rule .vendor v
    let product ← readField rule .product p
    let release ← readField rule .release r
    return { deviceClass := deviceClass.map Nat.toUInt8, vendor := vendor.map Nat.toUInt16,
             product := product.map Nat.toUInt16, release := release.map Nat.toUInt16, allow }
  | fields => .error (.fieldCount rule fields.length)

/-- A numeric field as text: hexadecimal of a fixed width, or `-1`. -/
def writeField (width : Nat) : Option Nat → List Char
  | none => ['-', '1']
  | some n => '0' :: 'x' :: Text.hexDigits width n

def write (rule : FilterRule) : List Char :=
  Text.joinWith ',' [
    writeField 2 (rule.deviceClass.map UInt8.toNat), writeField 4 (rule.vendor.map UInt16.toNat),
    writeField 4 (rule.product.map UInt16.toNat), writeField 4 (rule.release.map UInt16.toNat),
    [if rule.allow then '1' else '0']]

end FilterRule

namespace Filter

/-- Reads rules, the first of which has the given index. -/
def readRules : Nat → List (List Char) → Except FilterError Filter
  | _, [] => .ok []
  | index, part :: parts => do
    let rule ← FilterRule.read index part
    let rules ← readRules (index + 1) parts
    return rule :: rules

/-- Reads a filter from characters; nothing but blanks is the filter without rules. -/
def read (cs : List Char) : Except FilterError Filter :=
  match Text.strip cs with
  | [] => .ok []
  | cs => readRules 0 (Text.splitAt '|' cs)

def parse (s : String) : Except FilterError Filter := read s.toList

def write (f : Filter) : List Char := Text.joinWith '|' (f.map FilterRule.write)

/-- The text of a filter, which `parse` reads back. -/
def text (f : Filter) : String := String.ofList f.write

/-- Everything except human-interface devices. -/
def standard : Filter := [{ deviceClass := some 0x03, allow := false }, { allow := true }]

end Filter
end RemoteUsb
