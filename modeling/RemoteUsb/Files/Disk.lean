import RemoteUsb.Files
import RemoteUsb.Files.Path

/-!
Files in memory. A path is followed part by part, and every place on its way has to be a directory that
is there.
-/
namespace RemoteUsb

/-- What is under a path. -/
inductive DiskEntry where
  | directory
  | file (bytes : List UInt8)
  deriving DecidableEq, Repr

/-- Directories and files by the names that lead to them from the root. -/
structure Disk where
  entries : List (List String × DiskEntry) := []
  deriving DecidableEq, Repr

namespace Disk

/-- What is at a place. The root is always there. -/
def entry? (disk : Disk) (place : List String) : Option DiskEntry :=
  if place.isEmpty then some .directory else disk.entries.lookup place

def put (disk : Disk) (place : List String) (entry : DiskEntry) : Disk :=
  { entries := (place, entry) :: disk.entries.filter (·.1 != place) }

/-! ## Following paths -/

/-- The names in a path, with the dots that mean directories. -/
def names (path : String) : List String := (Path.parts path).filter (· != "")

def maxName : Nat := 255

def maxPath : Nat := 4095

/-- Nothing can be below a file or below what is not there. -/
def requireDirectory (disk : Disk) (place : List String) : Except FileFault Unit :=
  match disk.entry? place with
  | some .directory => .ok ()
  | some (.file _) => .error .notDirectory
  | none => .error .absent

def follow (disk : Disk) (place : List String) (name : String) : Except FileFault (List String) := do
  disk.requireDirectory place
  if maxName < name.utf8ByteSize then throw .tooLong
  return match name with
    | "." => place
    | ".." => place.dropLast
    | name => place ++ [name]

/-- The place to which a path leads. There may be nothing at it. -/
def locate (disk : Disk) (path : String) : Except FileFault (List String) :=
  if path.contains '\x00' then .error .zeroByte
  else if path.isEmpty then .error .absent
  else if maxPath < path.utf8ByteSize then .error .tooLong
  else (names path).foldlM disk.follow []

def find (disk : Disk) (path : String) : Except FileFault DiskEntry := do
  match disk.entry? (← disk.locate path) with
  | none => throw .absent
  | some .directory => return .directory
  | some (.file bytes) => if Path.endsInSlash path then throw .notDirectory else return .file bytes

def holds (disk : Disk) (path : String) : Bool := disk.find path matches .ok _

def isDirectory (disk : Disk) (path : String) : Bool := disk.find path matches .ok .directory

def read (disk : Disk) (path : String) : Except FileFault (List UInt8) := do
  match ← disk.find path with
  | .directory => throw .isDirectory
  | .file bytes => return bytes

/-! ## Changing -/

/-- Something that may change a disk. What was done before a failure stays done. -/
abbrev Attempt := ExceptT FileFault (StateM Disk)

/-- Makes one directory, in one that is there. -/
def makeDirectory (path : String) : Attempt Unit := do
  let disk ← get
  let place ← disk.locate path
  if (disk.entry? place).isSome then throw .occupied
  set (disk.put place .directory)

/-- Makes a directory under a path, unless there is one. -/
def requireOrMake (path : String) : Attempt Unit :=
  tryCatch (makeDirectory path) fun fault => do
    unless (← get).isDirectory path do throw fault

/-- Makes a directory and what is missing above it, at most `fuel` directories above. -/
def makeWithin : Nat → String → Attempt Unit
  | 0, path => requireOrMake path
  | fuel + 1, path =>
    if path.isEmpty then return
    else tryCatch (requireOrMake path) fun fault => do
      if fault != .absent then throw fault
      match Path.parent? path with
      | none => throw fault
      | some parent =>
        makeWithin fuel parent
        requireOrMake path

def makeDirectories (path : String) : Attempt Unit := makeWithin (Path.parts path).length path

def write (path : String) (bytes : List UInt8) : Attempt Unit := do
  let disk ← get
  let place ← disk.locate path
  if disk.entry? place == some .directory || Path.endsInSlash path then throw .isDirectory
  set (disk.put place (.file bytes))

/-- The disk with a file, and with the directories above it. -/
def addFile (disk : Disk) (path : String) (bytes : List UInt8) : Disk :=
  let act : Attempt Unit := do
    makeDirectories ((Path.parent? path).getD "")
    write path bytes
  (act.run disk).2

def files : Files (StateM Disk) where
  holds path := return (← get).holds path
  read path := return (← get).read path
  makeDirectories path := makeDirectories path
  write path bytes := write path bytes

end Disk
end RemoteUsb
