import RemoteUsb.Client.Arguments
import RemoteUsb.Client.Watch
import RemoteUsb.Config.Store
import RemoteUsb.Logging

/-!
The client as a program: it saves a configuration, checks a filter, lists the devices of a native bus
with what the configuration makes of them, or watches them.
-/
namespace RemoteUsb.Client

/-! ## Failures -/

/-- Why the client cannot do what it was told. -/
inductive Fault where
  | notSaved (error : ConfigError)
  | invalidFilter (text : String) (error : FilterError)
  | notLoaded (error : ConfigError)
  | configuration (error : ConfigError)
  | logging (fault : Logging.Fault)
  | noBus (error : BackendError)
  | notListed (error : BackendError)
  | noManager (error : RedirectError)
  deriving Repr

/-- What failed, and behind it each time what caused it. -/
def Fault.texts : Fault → List String
  | .notSaved error => "Failed to save configuration" :: error.texts
  | .invalidFilter text error => [s!"Invalid filter '{text}'", error.message]
  | .notLoaded error => "Failed to load configuration" :: error.texts
  | .configuration error => error.texts
  | .logging fault => ["Failed to setup logging", fault.message]
  | .noBus error => ["Failed to initialize libusb", error.message]
  | .notListed error => ["Failed to enumerate USB devices", error.message]
  | .noManager error =>
    "Failed to start USB device manager" :: error.message :: match error with
      | .usb cause => [cause.message]
      | _ => []

/-- A text behind a mark; its other lines begin below the text. -/
def indented (mark : String) (text : String) : String :=
  let margin := String.ofList (List.replicate mark.length ' ')
  mark ++ s!"\n{margin}".intercalate (text.splitOn "\n")

/-- A report of what failed and why. Several causes are numbered. -/
def report : List String → String
  | [] => ""
  | [message] => s!"Error: {message}\n"
  | [message, cause] => s!"Error: {message}\n\nCaused by:\n" ++ indented "    " cause ++ "\n"
  | message :: causes =>
    let numbered := causes.zipIdx.map fun (cause, n) =>
      let mark := s!"{n}: "
      indented (String.ofList (List.replicate (7 - mark.length) ' ') ++ mark) cause ++ "\n"
    s!"Error: {message}\n\nCaused by:\n" ++ String.join numbered

/-! ## Running -/

/-- What the client leaves behind. -/
structure Outcome where
  code : UInt8 := 0
  output : String := ""
  errors : String := ""
  deriving DecidableEq, Repr

/-- How a run goes: it ends at once, or goes on watching until somebody ends it. -/
inductive Course where
  | ended (outcome : Outcome)
  | watching (errors : String) (watch : Watch)

/-- The outcome of a run that is ended by the user if it goes on. -/
def Course.outcome : Course → Outcome
  | .ended outcome => outcome
  | .watching errors watch => { output := String.join (watch.lines.map (· ++ "\n")), errors }

def Course.change (course : Course) (change : Bus.Change) : Course :=
  match course with
  | .ended outcome => .ended outcome
  | .watching errors watch => .watching errors (watch.change change)

def versionText : String := "usb-redirect-client 0.1.0\n"

def helpText : String := "\n".intercalate [
  "USB redirection client - redirect local USB devices to a remote VM", "",
  "Usage: usb-redirect-client [OPTIONS]", "",
  "Options:",
  "  -c, --config <PATH>          Path to configuration file",
  "      --save-config            Save default configuration to default location and exit",
  "      --list-devices           List local USB devices and exit",
  "      --check-filter <RULES>   Parse a filter rule string, print it normalized and exit",
  "      --watch                  Print device manager notifications until Ctrl+C",
  "  -l, --log-level <LEVEL>      Log level (trace, debug, info, warn, error)",
  "  -h, --help                   Print help",
  "  -V, --version                Print version", ""]

def padded (width : Nat) (s : String) : String :=
  s ++ String.ofList (List.replicate (width - s.length) ' ')

/-- A device with whether it is connected when it is plugged in. -/
def verdictLine (addressing : Addressing) (filter : Filter) (info : DeviceInfo) : String :=
  let verdict := if filter.matchesDevice info.descriptor then "auto-connect" else "manual"
  s!"{padded 10 (info.key addressing).text} {padded 12 verdict} {info.description}\n"

/-- The devices on a bus, less the hubs, with what the filter makes of them. -/
def list (bus : Bus) (addressing : Addressing) (filter : Filter) : Except Fault Outcome := do
  let devices ← bus.enumerate.2.mapError .notListed
  let lines := (devices.filter (!·.isHub)).map (verdictLine addressing filter)
  return { output := String.join lines }

/-- The outcome of a filter that is to be checked: its normal form. -/
def checkFilter (text : String) : Except Fault Outcome :=
  match Filter.parse text with
  | .ok filter => .ok { output := s!"{filter.text}\n" }
  | .error error => .error (.invalidFilter text error)

/-- What the client does with a configuration. `notes` is what it has said about errors before. -/
def work (env : Environment) (bus : Bus) (a : Arguments) (c : Config) (notes : String) :
    Except Fault Course := do
  (Logging.setUp false env.logging (a.logLevel.getD c.logLevel)).2.mapError .logging
  let settings ← (c.settings env.home).mapError .configuration
  bus.start.mapError .noBus
  if a.listDevices then
    let outcome ← list bus c.addressing settings.autoConnectFilter
    return .ended { outcome with errors := notes }
  else
    return .watching notes (← (Watch.start bus c.addressing settings).mapError .noManager)

/-- A failed run ends with a report behind what was said before. -/
def settled (notes : String) : Except Fault Course → Course
  | .ok course => course
  | .error fault => .ended { code := 1, errors := notes ++ report fault.texts }

variable {m : Type → Type} [Monad m]

def saveConfig (files : Files m) (env : Environment) : m (Except Fault Outcome) := do
  match ← Config.save files {} env.configPath with
  | .error error => return .error (.notSaved error)
  | .ok () => return .ok { output := s!"Configuration saved to: {env.configPath}\n" }

/-- The configuration to work with, and what is said about it. One that nobody asked for is replaced
by the usual one if it cannot be had. -/
def configuration (files : Files m) (env : Environment) (path : Option String) :
    m (Except Fault (Config × String)) := do
  match path with
  | some path =>
    return (← Config.loadPath files env path).mapError Fault.notLoaded |>.map (·, "")
  | none =>
    match ← Config.load files env with
    | .ok c => return .ok (c, "")
    | .error error => return .ok ({}, s!"Config: {error.message}\n")

def run (files : Files m) (env : Environment) (bus : Bus) (words : List String) : m Course := do
  match Arguments.read words with
  | .misuse => return .ended { code := 2 }
  | .help => return .ended { output := helpText }
  | .version => return .ended { output := versionText }
  | .work a =>
    if a.saveConfig then return settled "" ((← saveConfig files env).map .ended)
    else if let some text := a.checkFilter then
      return settled "" ((checkFilter text).map .ended)
    else
      match ← configuration files env a.config with
      | .error fault => return settled "" (.error fault)
      | .ok (c, notes) => return settled notes (work env bus a c notes)

end RemoteUsb.Client
