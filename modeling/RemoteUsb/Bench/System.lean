import RemoteUsb.Files.Disk

/-!
The system that the bench is on: its files and programs.
-/
namespace RemoteUsb.Bench

def programPlaces : List String := ["/usr/local/bin", "/usr/bin", "/bin"]

def programs : List String :=
  ["sh", "dash", "bash", "cat", "head", "tail", "tr", "cut", "wc", "seq", "tee", "grep", "yes", "true",
    "false", "echo", "printf", "sleep", "test", "[", "env", "kill"]

def shells : List String := ["sh", "dash", "bash"]

def system : Disk :=
  let files := ["/dev/null", "/dev/zero", "/etc/passwd", "/etc/hosts"] ++
    ["/usr/bin", "/bin"].flatMap fun place => programs.map (Path.join place)
  let directories := [["usr", "local", "bin"], ["usr"], ["local"], ["tmp"], ["root"], ["home"],
    ["var"], ["proc"], ["sys"], ["opt"], ["lib"]]
  let disk := files.foldl (fun (disk : Disk) path => disk.addFile path []) {}
  directories.foldl (fun (disk : Disk) place => disk.put place .directory) disk

def programAt (path : String) : Except FileFault String := do
  match ← system.find path with
  | .directory => throw .forbidden
  | .file _ =>
    let place ← system.locate path
    match place.getLast? with
    | some name => if programs.contains name then return name else throw .forbidden
    | none => throw .forbidden

/-- The name of a program that is given by a path, or by a name to be looked for in the directories with
programs. A name that cannot be used where it is first found is still looked for elsewhere. -/
def programOf (name : String) : Except FileFault String :=
  if name.contains '/' || name.isEmpty then programAt name
  else
    let found := programPlaces.map fun place => programAt (Path.join place name)
    let faults := found.filterMap fun
      | .error fault => some fault
      | .ok _ => none
    match found.find? (· matches .ok _) with
    | some program => program
    | none => .error (if faults.contains .forbidden then .forbidden else faults.head?.getD .absent)

end RemoteUsb.Bench
