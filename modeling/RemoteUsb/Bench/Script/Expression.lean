import RemoteUsb.Text.Digits
import RemoteUsb.Bench.Script.Token

/-!
The value of an expression in a script: whole numbers, names, and the usual operators.
-/
namespace RemoteUsb.Bench.Script.Expression

inductive Sign where
  | number (n : Int)
  | name (name : String)
  | operator (text : String)
  deriving DecidableEq, Repr

def all : List String :=
  ["<=", ">=", "==", "!=", "&&", "||", "<<", ">>", "+", "-", "*", "/", "%", "<", ">", "!", "(", ")",
    "&", "|", "^", "~", "?", ":"]

/-- The number that a numeral is; a zero in front makes it octal or hexadecimal. -/
def numeral (cs : List Char) : Option Int :=
  let value := match cs with
    | '0' :: 'x' :: rest | '0' :: 'X' :: rest => Text.readNatural? 16 rest
    | '0' :: d :: rest => Text.readNatural? 8 (d :: rest)
    | cs => Text.readNatural? 10 cs
  value.map Int.ofNat

/-- The signs of an expression. `fuel` is as many as there can be. -/
def readFor : Nat → List Char → Option (List Sign)
  | 0, cs => if cs.isEmpty then some [] else none
  | _ + 1, [] => some []
  | fuel + 1, c :: rest =>
    if c.isWhitespace then readFor fuel rest
    else if c.isDigit then do
      let digits := (c :: rest).takeWhile isNamePart
      return .number (← numeral digits) :: (← readFor fuel ((c :: rest).drop digits.length))
    else if isNameStart c then do
      let name := (c :: rest).takeWhile isNamePart
      return .name (String.ofList name) :: (← readFor fuel ((c :: rest).drop name.length))
    else do
      let operator ← all.find? fun o => o.toList.isPrefixOf (c :: rest)
      return .operator operator :: (← readFor fuel ((c :: rest).drop operator.length))

def strength (operator : String) : Option Nat :=
  match operator with
  | "||" => some 1
  | "&&" => some 2
  | "|" => some 3
  | "^" => some 4
  | "&" => some 5
  | "==" | "!=" => some 6
  | "<" | "<=" | ">" | ">=" => some 7
  | "<<" | ">>" => some 8
  | "+" | "-" => some 9
  | "*" | "/" | "%" => some 10
  | _ => none

def ofBool (b : Bool) : Int := if b then 1 else 0

/-- The value of two numbers under an operator; nothing when it is divided by zero. -/
def combine (operator : String) (a b : Int) : Option Int :=
  match operator with
  | "||" => some (ofBool (a != 0 || b != 0))
  | "&&" => some (ofBool (a != 0 && b != 0))
  | "|" => some (Int64.ofInt a ||| Int64.ofInt b).toInt
  | "^" => some (Int64.ofInt a ^^^ Int64.ofInt b).toInt
  | "&" => some (Int64.ofInt a &&& Int64.ofInt b).toInt
  | "==" => some (ofBool (a == b))
  | "!=" => some (ofBool (a != b))
  | "<" => some (ofBool (a < b))
  | "<=" => some (ofBool (a ≤ b))
  | ">" => some (ofBool (b < a))
  | ">=" => some (ofBool (b ≤ a))
  | "<<" => some (Int64.ofInt a <<< Int64.ofInt b).toInt
  | ">>" => some (Int64.ofInt a >>> Int64.ofInt b).toInt
  | "+" => some (a + b)
  | "-" => some (a - b)
  | "*" => some (a * b)
  | "/" => if b = 0 then none else some (a.tdiv b)
  | "%" => if b = 0 then none else some (a.tmod b)
  | _ => none

mutual

def operand (value : String → Int) : Nat → List Sign → Option (Int × List Sign)
  | 0, _ => none
  | fuel + 1, signs =>
    match signs with
    | .number n :: rest => some (n, rest)
    | .name name :: rest => some (value name, rest)
    | .operator "-" :: rest => (operand value fuel rest).map fun (n, rest) => (-n, rest)
    | .operator "+" :: rest => operand value fuel rest
    | .operator "!" :: rest => (operand value fuel rest).map fun (n, rest) => (ofBool (n == 0), rest)
    | .operator "~" :: rest => (operand value fuel rest).map fun (n, rest) => (-n - 1, rest)
    | .operator "(" :: rest => do
      let (n, rest) ← choice value fuel rest
      match rest with
      | .operator ")" :: rest => return (n, rest)
      | _ => none
    | _ => none

/-- The value of what is at the front, up to an operator that binds less than `least`. -/
def expression (value : String → Int) : Nat → Nat → List Sign → Option (Int × List Sign)
  | 0, _, _ => none
  | fuel + 1, least, signs => do
    let (n, rest) ← operand value fuel signs
    more value fuel least n rest

def more (value : String → Int) : Nat → Nat → Int → List Sign → Option (Int × List Sign)
  | 0, _, _, _ => none
  | fuel + 1, least, n, signs =>
    match signs with
    | .operator o :: rest =>
      match strength o with
      | some s =>
        if s < least then some (n, signs)
        else do
          let (m, rest) ← expression value fuel (s + 1) rest
          more value fuel least (← combine o n m) rest
      | none => some (n, signs)
    | _ => some (n, signs)

def choice (value : String → Int) : Nat → List Sign → Option (Int × List Sign)
  | 0, _ => none
  | fuel + 1, signs => do
    let (n, rest) ← expression value fuel 1 signs
    match rest with
    | .operator "?" :: rest =>
      let (yes, rest) ← choice value fuel rest
      match rest with
      | .operator ":" :: rest =>
        let (no, rest) ← choice value fuel rest
        return (if n = 0 then no else yes, rest)
      | _ => none
    | _ => return (n, rest)

end

/-- The value of an expression, given the values of names; nothing if it is none. -/
def eval? (value : String → Int) (cs : List Char) : Option Int := do
  let signs ← readFor (cs.length + 1) cs
  if signs.isEmpty then return 0
  match ← choice value (16 * signs.length + 16) signs with
  | (n, []) => return n
  | _ => none

end RemoteUsb.Bench.Script.Expression
