/-!
Files by their paths: what can be asked of them, and what goes wrong.
-/
namespace RemoteUsb

inductive FileFault where
  | absent
  /-- Something on the way is a file. -/
  | notDirectory
  | isDirectory
  /-- There is something already where a directory was to be made. -/
  | occupied
  /-- What is there must not be used like this. -/
  | forbidden
  /-- A part of the path, or all of it, is longer than paths may be. -/
  | tooLong
  /-- The path holds the byte that ends paths. -/
  | zeroByte
  /-- The bytes of the file are no text. -/
  | notText
  | other (text : String)
  deriving DecidableEq, Repr

def FileFault.message : FileFault → String
  | .absent => "No such file or directory (os error 2)"
  | .notDirectory => "Not a directory (os error 20)"
  | .isDirectory => "Is a directory (os error 21)"
  | .occupied => "File exists (os error 17)"
  | .forbidden => "Permission denied (os error 13)"
  | .tooLong => "File name too long (os error 36)"
  | .zeroByte => "file name contained an unexpected NUL byte"
  | .notText => "stream did not contain valid UTF-8"
  | .other text => text

/-- What can be done with files, wherever they are. -/
structure Files (m : Type → Type) where
  /-- Whether there is anything under a path. -/
  holds : String → m Bool
  read : String → m (Except FileFault (List UInt8))
  /-- Makes a directory and all that are missing on the way to it. -/
  makeDirectories : String → m (Except FileFault Unit)
  /-- Replaces what is in a file, or makes it. -/
  write : String → List UInt8 → m (Except FileFault Unit)

end RemoteUsb
