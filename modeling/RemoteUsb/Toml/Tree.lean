/-!
Trees of values under keys, and how the expressions of a TOML text build one.

Every table is filled in one place only. A header opens a table; tables on the way to it come to be
without being opened, and may be opened later. A dotted key makes tables that only further dotted keys
may fill.
-/
namespace RemoteUsb.Toml

inductive Origin where
  /-- By a header. -/
  | opened
  /-- On the way to a table with a header. -/
  | passed
  /-- By a dotted key. -/
  | dotted
  deriving DecidableEq, Repr

/-- A value. Of floats and moments only that they are ones is kept. -/
inductive Value where
  | text (text : String)
  | integer (value : Int)
  | boolean (value : Bool)
  | float
  | moment
  | array (items : List Value)
  /-- A table between braces, to which nothing can be added. -/
  | inline (entries : List (String × Value))
  | table (origin : Origin) (entries : List (String × Value))
  /-- Tables with headers of the same name. -/
  | tables (tables : List (List (String × Value)))
  deriving Repr

/-- The entries of a table, in the order in which their keys came. -/
abbrev Entries := List (String × Value)

/-- What one header or one table between braces says: values under dotted keys. -/
abbrev Pairs := List (List String × Value)

namespace Entries

def replace (entries : Entries) (key : String) (value : Value) : Entries :=
  entries.map fun entry => if entry.1 == key then (key, value) else entry

/-- Changes the table at the end of a path and makes tables that are missing on the way. A path goes
through the last one of several tables with the same name. Dotted keys do not go through tables that
were opened elsewhere. -/
def change (made : Origin) (act : Origin → Entries → Option Entries) :
    List String → Origin → Entries → Option Entries
  | [], origin, entries => act origin entries
  | key :: path, _, entries =>
    match entries.lookup key with
    | none => do
      let inner ← change made act path made []
      return entries ++ [(key, .table made inner)]
    | some (.table origin inner) =>
      if made = .dotted ∧ origin = .opened then none
      else do
        let inner ← change made act path origin inner
        return entries.replace key (.table origin inner)
    | some (.tables tables) => do
      let inner ← change made act path .opened (← tables.getLast?)
      return entries.replace key (.tables (tables.dropLast ++ [inner]))
    | some _ => none

/-- Adds a value under a dotted key to a table that was opened. Its last table is one that dotted keys
made, or that table itself. No key comes twice. -/
def put (entries : Entries) (path : List String) (value : Value) : Option Entries := do
  let key ← path.getLast?
  let way := path.dropLast
  let add (origin : Origin) (inner : Entries) : Option Entries :=
    if (origin == .dotted) == way.isEmpty then none
    else if (inner.lookup key).isSome then none
    else some (inner ++ [(key, value)])
  change .dotted add way .opened entries

/-- Adds values under dotted keys, one after another. -/
def fill (entries : Entries) (pairs : Pairs) : Option Entries :=
  pairs.foldlM (fun entries (path, value) => entries.put path value) entries

def openTable (entries : Entries) (path : List String) (pairs : Pairs) : Option Entries := do
  let key ← path.getLast?
  let act (_ : Origin) (outer : Entries) : Option Entries :=
    match outer.lookup key with
    | none => return outer ++ [(key, .table .opened (← fill [] pairs))]
    | some (.table .passed inner) => return outer.replace key (.table .opened (← fill inner pairs))
    | some _ => none
  change .passed act path.dropLast .opened entries

/-- Adds one more table with the name at the end of a path and fills it. -/
def addTable (entries : Entries) (path : List String) (pairs : Pairs) : Option Entries := do
  let key ← path.getLast?
  let inner ← fill [] pairs
  let act (_ : Origin) (outer : Entries) : Option Entries :=
    match outer.lookup key with
    | none => some (outer ++ [(key, .tables [inner])])
    | some (.tables tables) => some (outer.replace key (.tables (tables ++ [inner])))
    | some _ => none
  change .passed act path.dropLast .opened entries

end Entries
end RemoteUsb.Toml
