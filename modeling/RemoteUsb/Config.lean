import RemoteUsb.Files
import RemoteUsb.Manager.Settings

/-!
The configuration of the client, as its user writes it, and what can be wrong with it.
-/
namespace RemoteUsb

/-- The configuration. Filters and the path of the helper are texts as they were written. -/
structure Config where
  logLevel : String := "info"
  redirectionEnabled : Bool := true
  autoConnect : Bool := true
  autoConnectFilter : String := Filter.standard.text
  redirectOnConnect : Option String := none
  compressionThreshold : Nat := 1000
  accessHelper : Option String := none
  addressing : Addressing := .busAddress
  deriving DecidableEq, Repr

instance : Inhabited Config := ⟨{}⟩

inductive FilterSetting where
  | autoConnect
  | redirectOnConnect
  deriving DecidableEq, Repr

def FilterSetting.name : FilterSetting → String
  | .autoConnect => "auto_connect_filter"
  | .redirectOnConnect => "redirect_on_connect"

inductive ConfigError where
  /-- There is no file at any of the usual places. -/
  | notFound
  | unreadable (path : String) (fault : FileFault)
  /-- The text is no configuration. -/
  | malformed (path : String)
  | invalidLevel (level : String)
  | invalidFilter (setting : FilterSetting) (text : String) (error : FilterError)
  /-- A number is too large to be written. -/
  | unwritableNumber
  | noDirectory (path : String) (fault : FileFault)
  | unwritable (path : String) (fault : FileFault)
  deriving DecidableEq, Repr

namespace Config

def levels : List String := ["trace", "debug", "info", "warn", "error"]

end Config

/-- What went wrong, and behind it each time what caused it. -/
def ConfigError.texts : ConfigError → List String
  | .notFound => ["No configuration file found, using defaults"]
  | .unreadable path fault => [s!"Failed to read config file: {path}", fault.message]
  | .malformed path => [s!"Failed to parse config file: {path}"]
  | .invalidLevel level =>
    [s!"Invalid log level '{level}', must be one of: " ++ ", ".intercalate Config.levels]
  | .invalidFilter setting text error => [s!"Invalid {setting.name} '{text}'", error.message]
  | .unwritableNumber =>
    ["Failed to serialize configuration", "out-of-range value for u64 type"]
  | .noDirectory path fault => [s!"Failed to create config directory: {path}", fault.message]
  | .unwritable path fault => [s!"Failed to write config file: {path}", fault.message]

/-- What went wrong, without its causes. -/
def ConfigError.message (error : ConfigError) : String := error.texts.headD ""

namespace Config

def readFilter (setting : FilterSetting) (text : String) : Except ConfigError Filter :=
  (Filter.parse text).mapError (.invalidFilter setting text)

/-- The path with the home directory for a `~` that is its first part. -/
def expandHome (home path : String) : String :=
  match path.toList with
  | '~' :: rest =>
    if rest.isEmpty || rest.head? == some '/' then home ++ String.ofList rest else path
  | _ => path

def settings (c : Config) (home : String) : Except ConfigError Settings := do
  let autoConnectFilter ← readFilter .autoConnect c.autoConnectFilter
  let redirectOnConnect ← c.redirectOnConnect.mapM (readFilter .redirectOnConnect)
  return { redirectionEnabled := c.redirectionEnabled, autoConnect := c.autoConnect
           autoConnectFilter, redirectOnConnect, compressionThreshold := c.compressionThreshold
           accessHelper := c.accessHelper.map fun path => { program := expandHome home path } }

/-- The first thing that is wrong with a configuration: the log level, then the filters. -/
def validate (c : Config) : Except ConfigError Unit := do
  if !levels.contains c.logLevel then throw (.invalidLevel c.logLevel)
  discard (c.settings "")

end Config
end RemoteUsb
