import RemoteUsb.Text.Digits
import RemoteUsb.Text.Hidden

/-!
Texts as they are shown between quotes, with everything escaped that would not be seen there.
-/
namespace RemoteUsb.Text

def escapeChar (c : Char) : List Char :=
  match c with
  | '\x00' => ['\\', '0']
  | '\t' => ['\\', 't']
  | '\n' => ['\\', 'n']
  | '\r' => ['\\', 'r']
  | '"' => ['\\', '"']
  | '\x27' => ['\\', '\x27']
  | '\\' => ['\\', '\\']
  | c => if isHidden c then "\\u\x7b".toList ++ hexDigits 1 c.toNat ++ ['\x7d'] else [c]

def escaped (s : String) : String := String.ofList (s.toList.flatMap escapeChar)

end RemoteUsb.Text
