/-!
The version that every message carries.
-/
namespace RemoteUsb.Wire

structure Version where
  major : UInt8
  minor : UInt8
  patch : UInt8
  deriving DecidableEq, Repr

namespace Version

def current : Version := ⟨1, 1, 0⟩

instance : Inhabited Version := ⟨current⟩

/-- Peers from version 1.1 on read compressed data. -/
def supportsCompression (v : Version) : Bool := 1 < v.major || (v.major == 1 && 1 ≤ v.minor)

/-- Versions with the same first number understand each other. -/
def isCompatible (v : Version) : Bool := v.major == current.major

def text (v : Version) : String := s!"{v.major.toNat}.{v.minor.toNat}.{v.patch.toNat}"

end Version
end RemoteUsb.Wire
