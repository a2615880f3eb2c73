import RemoteUsb.Bench.Script.Token

/-!
The commands of a helper script: simple commands, their sequences, choices, loops and functions.
-/
namespace RemoteUsb.Bench.Script

structure Redirection where
  source : Nat
  flow : Flow
  target : Word
  deriving DecidableEq, Repr

/-- A redirection as it is written; without a number it is of the input or of the output. -/
def Redirection.read (source : Option Nat) (flow : Flow) (target : Word) : Redirection :=
  ⟨source.getD (if flow = .input ∨ flow = .sameInput then 0 else 1), flow, target⟩

inductive Command where
  | nothing
  | simple (words : List Word) (redirections : List Redirection)
  | sequence (first second : Command)
  | both (first second : Command)
  | either (first second : Command)
  | inverse (command : Command)
  | branch (condition yes no : Command)
  /-- Runs the body as long as the condition ends with the given kind of success. -/
  | loop (wanted : Bool) (condition body : Command)
  /-- Runs the body for each word; without words for each argument. -/
  | forEach (name : String) (words : Option (List Word)) (body : Command)
  /-- Runs the first command that has a pattern for the word. -/
  | choose (subject : Word) (arms : List (List Word × Command))
  /-- Runs the second on what the first writes. -/
  | pipe (first second : Command)
  /-- What the command changes stays its own. -/
  | apart (command : Command)
  /-- Nobody waits for the command. -/
  | background (command : Command)
  | define (name : String) (body : Command)
  | redirected (command : Command) (redirections : List Redirection)
  | failing

/-- The keyword that a token is, if it is a word without quotes. -/
def keyword? : List Token → Option String
  | .word [.literal cs false] :: _ => some (String.ofList cs)
  | _ => none

def closers : List String := ["then", "elif", "else", "fi", "do", "done", "esac", "\x7d"]

def endsList (ts : List Token) : Bool :=
  match ts with
  | [] => true
  | .closeGroup :: _ | .endArm :: _ => true
  | _ => (keyword? ts).any closers.contains

def readWords : List Token → List Word → List Redirection → Command × List Token
  | .word w :: rest, words, redirections => readWords rest (words ++ [w]) redirections
  | .redirect source flow :: .word target :: rest, words, redirections =>
    readWords rest words (redirections ++ [.read source flow target])
  | rest, words, redirections => (.simple words redirections, rest)

def readRedirections : List Token → List Redirection × List Token
  | .redirect source flow :: .word target :: rest =>
    let (more, rest) := readRedirections rest
    (.read source flow target :: more, rest)
  | rest => ([], rest)

def withRedirections (command : Command) (rest : List Token) : Command × List Token :=
  match readRedirections rest with
  | ([], rest) => (command, rest)
  | (redirections, rest) => (.redirected command redirections, rest)

def expect? (word : String) (ts : List Token) : Option (List Token) :=
  if keyword? ts = some word then some ts.tail else none

def skipNext : List Token → List Token
  | .next :: rest => skipNext rest
  | rest => rest

def readUntilNext : List Token → List Word × List Token
  | .word w :: rest =>
    let (words, rest) := readUntilNext rest
    (w :: words, rest)
  | rest => ([], rest)

def readPatterns : List Token → Option (List Word × List Token)
  | .word w :: .pipe :: rest => (readPatterns rest).map fun (ws, rest) => (w :: ws, rest)
  | .word w :: .closeGroup :: rest => some ([w], rest)
  | _ => none

mutual

/-- Reads commands up to a word that closes the list. `fuel` bounds the nesting and the length; the
number of tokens is always enough. -/
def readList : Nat → List Token → Option (Command × List Token)
  | 0, _ => none
  | fuel + 1, ts =>
    match ts with
    | .next :: rest => readList fuel rest
    | _ =>
      if endsList ts then some (.nothing, ts)
      else do
        let (first, rest) ← readChain fuel ts
        match rest with
        | .background :: rest =>
          let (second, rest) ← readList fuel rest
          return (.sequence (.background first) second, rest)
        | .next :: _ =>
          let (second, rest) ← readList fuel rest
          return (.sequence first second, rest)
        | _ => if endsList rest then some (first, rest) else none

def readChain : Nat → List Token → Option (Command × List Token)
  | 0, _ => none
  | fuel + 1, ts => do
    let (first, rest) ← readPipe fuel ts
    readChainTail fuel first rest

def readChainTail : Nat → Command → List Token → Option (Command × List Token)
  | 0, _, _ => none
  | fuel + 1, first, .andThen :: rest => do
    let (second, rest) ← readPipe fuel (skipNext rest)
    readChainTail fuel (.both first second) rest
  | fuel + 1, first, .orElse :: rest => do
    let (second, rest) ← readPipe fuel (skipNext rest)
    readChainTail fuel (.either first second) rest
  | _ + 1, first, rest => some (first, rest)

def readPipe : Nat → List Token → Option (Command × List Token)
  | 0, _ => none
  | fuel + 1, ts =>
    if keyword? ts = some "!" then do
      let (command, rest) ← readPipe fuel ts.tail
      return (.inverse command, rest)
    else do
      let (first, rest) ← readCommand fuel ts
      match rest with
      | .pipe :: rest =>
        let (second, rest) ← readPipe fuel (skipNext rest)
        return (.pipe first second, rest)
      | _ => return (first, rest)

def readCommand : Nat → List Token → Option (Command × List Token)
  | 0, _ => none
  | fuel + 1, ts =>
    match ts with
    | .openGroup :: rest => do
      let (body, rest) ← readList fuel rest
      match rest with
      | .closeGroup :: rest => return withRedirections (.apart body) rest
      | _ => none
    | .word [.literal name false] :: .openGroup :: .closeGroup :: rest => do
      let (body, rest) ← readCommand fuel (skipNext rest)
      return (.define (String.ofList name) body, rest)
    | .word _ :: rest =>
      match keyword? ts with
      | some "\x7b" => do
        let (body, rest) ← readList fuel rest
        let rest ← expect? "\x7d" rest
        return withRedirections body rest
      | some "if" => do
        let (command, rest) ← readBranch fuel rest
        return withRedirections command rest
      | some "while" => readLoop fuel true rest
      | some "until" => readLoop fuel false rest
      | some "for" => readFor fuel rest
      | some "case" =>
        match rest with
        | .word subject :: rest => do
          let rest ← expect? "in" (skipNext rest)
          let (arms, rest) ← readArms fuel rest
          return withRedirections (.choose subject arms) rest
        | _ => none
      | some word => if closers.contains word then none else some (readWords ts [] [])
      | none => some (readWords ts [] [])
    | .redirect .. :: .word _ :: _ => some (readWords ts [] [])
    | _ => none

def readBranch : Nat → List Token → Option (Command × List Token)
  | 0, _ => none
  | fuel + 1, ts => do
    let (condition, rest) ← readList fuel ts
    let rest ← expect? "then" rest
    let (yes, rest) ← readList fuel rest
    match keyword? rest with
    | some "elif" =>
      let (no, rest) ← readBranch fuel rest.tail
      return (.branch condition yes no, rest)
    | some "else" =>
      let (no, rest) ← readList fuel rest.tail
      let rest ← expect? "fi" rest
      return (.branch condition yes no, rest)
    | some "fi" => return (.branch condition yes .nothing, rest.tail)
    | _ => none

def readArms : Nat → List Token → Option (List (List Word × Command) × List Token)
  | 0, _ => none
  | fuel + 1, ts =>
    match skipNext ts with
    | .openGroup :: rest => readArm fuel rest
    | rest =>
      match expect? "esac" rest with
      | some rest => some ([], rest)
      | none => readArm fuel rest

def readArm : Nat → List Token → Option (List (List Word × Command) × List Token)
  | 0, _ => none
  | fuel + 1, ts => do
    let (patterns, rest) ← readPatterns ts
    let (body, rest) ← readList fuel rest
    let (arms, rest) ← readArms fuel (match rest with
      | .endArm :: rest => rest
      | rest => rest)
    return ((patterns, body) :: arms, rest)

def readLoop : Nat → Bool → List Token → Option (Command × List Token)
  | 0, _, _ => none
  | fuel + 1, wanted, ts => do
    let (condition, rest) ← readList fuel ts
    let (body, rest) ← readBody fuel rest
    return withRedirections (.loop wanted condition body) rest

def readFor : Nat → List Token → Option (Command × List Token)
  | 0, _ => none
  | fuel + 1, .word [.literal name false] :: rest => do
    let (words, rest) := match expect? "in" (skipNext rest) with
      | some rest =>
        let (words, rest) := readUntilNext rest
        (some words, rest)
      | none => (none, rest)
    let (body, rest) ← readBody fuel (skipNext rest)
    return withRedirections (.forEach (String.ofList name) words body) rest
  | _ + 1, _ => none

def readBody : Nat → List Token → Option (Command × List Token)
  | 0, _ => none
  | fuel + 1, ts => do
    let rest ← expect? "do" ts
    let (body, rest) ← readList fuel rest
    let rest ← expect? "done" rest
    return (body, rest)

end

/-- The command that a script is; a script that cannot be read fails. -/
def Command.ofScript (script : List Char) : Command :=
  match tokens? script with
  | none => .failing
  | some ts =>
    match readList (8 * ts.length + 16) ts with
    | some (command, []) => command
    | _ => .failing

end RemoteUsb.Bench.Script
