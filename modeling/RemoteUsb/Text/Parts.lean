/-!
Texts, and lists of anything, in parts with a separator between them.
-/
namespace RemoteUsb.Text

/-- The parts of a text between the separators; one more than there are separators. -/
def splitAt {α : Type} [DecidableEq α] (separator : α) : List α → List (List α)
  | [] => [[]]
  | c :: cs =>
    if c = separator then [] :: splitAt separator cs
    else match splitAt separator cs with
      | [] => [[c]]
      | part :: parts => (c :: part) :: parts

def joinWith {α : Type} (separator : α) : List (List α) → List α
  | [] => []
  | [part] => part
  | part :: parts => part ++ separator :: joinWith separator parts

end RemoteUsb.Text
