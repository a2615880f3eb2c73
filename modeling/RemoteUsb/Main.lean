import RemoteUsb.Client

/-!
The client on the command line. There is no native bus to reach here: the bus is empty, and what
happens on it is read from the standard input, one change a line, until that ends.
-/
namespace RemoteUsb.Client

def faultOf : IO.Error → FileFault
  | .noFileOrDirectory .. => .absent
  | error => .other (toString error)

def tryFile {α : Type} (act : IO α) : IO (Except FileFault α) :=
  try return .ok (← act) catch error => return .error (faultOf error)

def systemFiles : Files IO where
  holds path := try
      discard (IO.FS.Handle.mk path .read)
      return true
    catch _ => return false
  read path := tryFile do return (← IO.FS.readBinFile path).toList
  makeDirectories path := tryFile (IO.FS.createDirAll path)
  write path bytes := tryFile (IO.FS.writeBinFile path ⟨bytes.toArray⟩)

/-- Prints the lines that are new, and goes on with the next change. -/
partial def watchInput (input : IO.FS.Stream) (printed : Nat) (watch : Watch) : IO Unit := do
  for line in watch.lines.drop printed do IO.println line
  let line ← input.getLine
  if line.isEmpty then return
  let next := match Bus.Change.ofLine? line.trimAscii.toString with
    | some change => watch.change change
    | none => watch
  watchInput input watch.lines.length next

end RemoteUsb.Client

open RemoteUsb Client in
def main (words : List String) : IO UInt32 := do
  let env : Environment := {
    home := (← IO.getEnv "HOME").getD "", configHome := ← IO.getEnv "XDG_CONFIG_HOME"
    logging := ← IO.getEnv "RUST_LOG" }
  match ← run systemFiles env {} words with
  | .ended outcome =>
    IO.print outcome.output
    IO.eprint outcome.errors
    return outcome.code.toUInt32
  | .watching errors watch =>
    IO.eprint errors
    watchInput (← IO.getStdin) 0 watch
    return 0
