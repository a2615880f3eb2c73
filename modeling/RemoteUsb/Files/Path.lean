import RemoteUsb.Text.Parts

/-!
Paths as texts: their parts, and the path that is left when the last part is taken off.
-/
namespace RemoteUsb.Path

def isAbsolute (path : String) : Bool := path.startsWith "/"

/-- A path below another one; an absolute one stays as it is. -/
def join (base path : String) : String :=
  if isAbsolute path || base.isEmpty then path
  else if base.endsWith "/" then base ++ path
  else s!"{base}/{path}"

def parts (path : String) : List String :=
  (Text.splitAt '/' path.toList).map String.ofList

/-- Whether a part counts. Those between two slashes without anything do not, and neither does a dot,
except at the beginning of a relative path. -/
def counts (part : String × Nat) : Bool := part.1 != "" && (part.1 != "." || part.2 == 0)

/-- The path without the last part that counts and without what stood before it and does not count;
a path in which nothing counts has none. -/
def parent? (path : String) : Option String :=
  match (parts path).zipIdx.reverse.dropWhile (!counts ·) with
  | [] => none
  | _ :: rest =>
    let kept := ((rest.dropWhile (!counts ·)).map (·.1)).reverse
    some (if kept.isEmpty && isAbsolute path then "/" else "/".intercalate kept)

/-- Whether a path ends in a slash, so that it can mean a directory only. -/
def endsInSlash (path : String) : Bool := path.endsWith "/"

end RemoteUsb.Path
