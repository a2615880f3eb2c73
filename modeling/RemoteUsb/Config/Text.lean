import RemoteUsb.Config
import RemoteUsb.Toml.Document

/-!
The text of a configuration: TOML with the tables `client` and `usb`. The log level must be there;
everything else has its usual value if it is missing. What is not known is passed over.
-/
namespace RemoteUsb.Config

open Toml (Value Entries)

/-! ## Names -/

def addressingName : Addressing → String
  | .busAddress => "bus-address"
  | .vendorProduct => "vendor-product"

def addressingOfName? (name : String) : Option Addressing :=
  [.busAddress, .vendorProduct].find? (addressingName · == name)

/-! ## Reading -/

/-- The fields of a record, by place and by name. Records are tables; the values of their fields may
also stand one after another in an array. A moment has no known field. -/
def fields? : Value → Option (Nat → String → Option Value)
  | .inline entries => some fun _ name => entries.lookup name
  | .table _ entries => some fun _ name => entries.lookup name
  | .array items => some fun place _ => items[place]?
  | .tables tables => some fun place _ => tables[place]?.map (.table .opened)
  | .moment => some fun _ _ => none
  | _ => none

def text? : Value → Option String
  | .text s => some s
  | _ => none

def boolean? : Value → Option Bool
  | .boolean b => some b
  | _ => none

def natural? : Value → Option Nat
  | .integer (.ofNat n) => some n
  | _ => none

def isVacant : Value → Bool
  | .inline [] | .table _ [] | .array [] | .tables [] => true
  | _ => false

/-- An addressing is given by its name, or by a table with nothing but the name and nothing under
it. -/
def addressing? : Value → Option Addressing
  | .text s => addressingOfName? s
  | .inline [(name, v)] | .table _ [(name, v)] =>
    if isVacant v then addressingOfName? name else none
  | _ => none

def ofEntries? (entries : Entries) : Option Config := do
  let client ← fields? (← entries.lookup "client")
  let logLevel ← text? (← client 0 "log_level")
  let usb ← fields? ((entries.lookup "usb").getD (.inline []))
  let field {α : Type} (place : Nat) (name : String) (read : Value → Option α) (usual : α) :
      Option α :=
    match usb place name with
    | some v => read v
    | none => some usual
  let c : Config := { logLevel }
  return { c with
    redirectionEnabled := ← field 0 "redirection_enabled" boolean? c.redirectionEnabled
    autoConnect := ← field 1 "auto_connect" boolean? c.autoConnect
    autoConnectFilter := ← field 2 "auto_connect_filter" text? c.autoConnectFilter
    redirectOnConnect := ← field 3 "redirect_on_connect" (some <$> text? ·) none
    compressionThreshold := ← field 4 "compression_threshold" natural? c.compressionThreshold
    accessHelper := ← field 5 "acl_helper" (some <$> text? ·) none
    addressing := ← field 6 "addressing" addressing? c.addressing }

/-- The configuration in a text; nothing if it is none. -/
def read? (s : String) : Option Config := Toml.parse? s >>= ofEntries?

/-! ## Writing -/

/-- The text of a configuration. Numbers that TOML does not have cannot be written. -/
def write (c : Config) : Except ConfigError String :=
  if Text.signedBound ≤ c.compressionThreshold then .error .unwritableNumber
  else
    let optional (name : String) (value : Option String) : List String :=
      (value.map fun s => s!"{name} = {Toml.writeText s}").toList
    let lines := ["[client]", s!"log_level = {Toml.writeText c.logLevel}", "", "[usb]",
        s!"redirection_enabled = {c.redirectionEnabled}", s!"auto_connect = {c.autoConnect}",
        s!"auto_connect_filter = {Toml.writeText c.autoConnectFilter}"] ++
      optional "redirect_on_connect" c.redirectOnConnect ++
      [s!"compression_threshold = {c.compressionThreshold}"] ++
      optional "acl_helper" c.accessHelper ++
      [s!"addressing = {Toml.writeText (addressingName c.addressing)}"]
    .ok (String.join (lines.map (· ++ "\n")))

end RemoteUsb.Config
