import RemoteUsb.Config.Text
import RemoteUsb.Files.Path
import RemoteUsb.Text.Utf8

/-!
Configurations in files: where they are looked for, and how they are loaded and saved.
-/
namespace RemoteUsb

/-- What the client finds in its environment. -/
structure Environment where
  home : String
  /-- Where configurations are kept, if the user has said so. -/
  configHome : Option String := none
  /-- What is to be logged, if the user has said so. -/
  logging : Option String := none

/-- The path of the user's configuration. Only an absolute path says where configurations are kept. -/
def Environment.configPath (env : Environment) : String :=
  let base := (env.configHome.filter Path.isAbsolute).getD (Path.join env.home ".config")
  Path.join base "usb-redirect/client.toml"

namespace Config

def systemPath : String := "/etc/usb-redirect/client.toml"

def ofBytes (path : String) (bytes : List UInt8) : Except ConfigError Config := do
  let s ← (Text.Utf8.decode bytes).mapError fun _ => .unreadable path .notText
  match read? s with
  | none => throw (.malformed path)
  | some c =>
    c.validate
    return c

variable {m : Type → Type} [Monad m]

def loadFile (files : Files m) (path : String) : m (Except ConfigError Config) := do
  match ← files.read path with
  | .error fault => return .error (.unreadable path fault)
  | .ok bytes => return ofBytes path bytes

/-- Loads the configuration under a path that may begin with the home directory. -/
def loadPath (files : Files m) (env : Environment) (path : String) :
    m (Except ConfigError Config) :=
  loadFile files (expandHome env.home path)

/-- Loads the first configuration there is: the user's, or the one for all users. -/
def load (files : Files m) (env : Environment) : m (Except ConfigError Config) := do
  if ← files.holds env.configPath then loadFile files env.configPath
  else if ← files.holds systemPath then loadFile files systemPath
  else return .error .notFound

/-- Saves a configuration, with the directories above its file. -/
def save (files : Files m) (c : Config) (path : String) : m (Except ConfigError Unit) := do
  match c.write with
  | .error error => return .error error
  | .ok s =>
    let write := return (← files.write path (Text.Utf8.encode s)).mapError (.unwritable path)
    match Path.parent? path with
    | none => write
    | some parent =>
      match ← files.makeDirectories parent with
      | .error fault => return .error (.noDirectory parent fault)
      | .ok () => write

end Config
end RemoteUsb
