import RemoteUsb.Bench.Script.Builtin

/-!
Running a helper script on what it was given to read so far. A script that wants more than that waits;
it is run again from the start once there is more.
-/
namespace RemoteUsb.Bench.Script

/-! ## Redirections -/

def Process.sinkAt (p : Process) (number : Nat) : Sink :=
  match number with
  | 1 => p.sink
  | 2 => p.errors
  | n => (p.others.lookup n).getD .nowhere

def Process.sendTo (p : Process) (number : Nat) (sink : Sink) : Process :=
  match number with
  | 1 => { p with sink }
  | 2 => { p with errors := sink }
  | n => { p with others := (n, sink) :: p.others.filter (·.1 != n) }

def isVoid (path : String) : Bool := path == "/dev/null"

/-- Sets up a redirection to what is named; answers whether that can be. An input has to be there. -/
def redirectTo (p : Process) (r : Redirection) (path : String) : Process × Bool :=
  match r.flow with
  | .input =>
    if isVoid path then (p.readFrom [] true, true)
    else match p.files.lookup path with
      | some content => (p.readFrom content true, true)
      | none => (p.complain s!"cannot open {path}: No such file" 2, false)
  | .sameInput => (if path = "-" then p.readFrom [] true else p, true)
  | .same =>
    let sink := if path = "-" then .nowhere else (path.toNat?.map p.sinkAt).getD .nowhere
    (p.sendTo r.source sink, true)
  | flow =>
    if isVoid path then (p.sendTo r.source .nowhere, true)
    else
      let content := if flow = .truncate then [] else p.file path
      ((p.setFile path content).sendTo r.source (.file path), true)

def restore (before after : Process) (redirections : List Redirection) : Process :=
  let after := { after with sink := before.sink, errors := before.errors, others := before.others }
  if redirections.any fun r => r.flow == .input || r.flow == .sameInput then
    after.readLike before
  else after

/-- Sets up redirections, in order, until one cannot be; answers whether all could. -/
def redirectAll (runText : List Char → Work Unit) : List Redirection → Work Bool
  | [] => return true
  | r :: redirections => do
    let path := textOf (← expandWhole runText r.target)
    let (p, done) := redirectTo (← get) r path
    set p
    if done then redirectAll runText redirections else return false

/-! ## Simple commands -/

/-- The name and the word for its value if a word gives a name a value. -/
def assignment? : Word → Option (String × Word)
  | .literal cs false :: rest =>
    let name := cs.takeWhile isNamePart
    match cs.drop name.length with
    | '=' :: value =>
      if name.head?.any isNameStart then some (String.ofList name, .literal value false :: rest)
      else none
    | _ => none
  | _ => none

def assign (runText : List Char → Work Unit) (assignments : List (String × Word)) : Work Unit := do
  for (name, word) in assignments do
    let value ← expandWhole runText word
    modify (·.setValue name value)

def lastPart (path : String) : String := ((path.splitOn "/").getLast?).getD path

def isWrapper (name : String) : Bool := ["command", "exec", "builtin", "env", "nohup"].contains name

/-- What a shell that is started with words runs: the script behind its options, with the words
behind that as its arguments. A shell without one reads commands, and answers none that is asked
here. -/
def shellScript? (name : Content) (words : List Content) : Option (List Char × List Content) :=
  let options := words.takeWhile fun word => word.head? == some 0x2d
  let asked := options.any fun word => word.contains 0x63
  match words.drop options.length with
  | script :: words =>
    let arguments := if words.isEmpty then [name] else words
    if asked then some ((textOf script).toList, arguments) else none
  | [] => if asked then none else some ("cat > /dev/null".toList, [name])

/-- Runs a command by name. `runFunction` runs the body of a function. -/
def runNamed (runFunction : Command → Work Unit) (runText : List Char → Work Unit)
    (name : String) (arguments : List Content) : Work Unit := do
  let p ← get
  match p.functions.lookup name with
  | some body =>
    set { p with arguments := p.arguments.take 1 ++ arguments }
    runFunction body
    modify fun q => { q with
      arguments := p.arguments, state := if q.state = .returning then .running else q.state }
  | none =>
    if name = "eval" then runText (textOf ([space].intercalate arguments)).toList
    else if shells.contains (lastPart name) then
      match shellScript? (bytesOf name) arguments with
      | some (script, arguments) =>
        set (p.apart fun p => (runText script { p with
          arguments, bindings := [], functions := [], strict := false, namesNeeded := false }).2)
      | none => set (p.done 2)
    else match (builtin? name).or (builtin? (lastPart name)) with
      | some act => set (act p arguments)
      | none =>
        match tool? (lastPart name) with
        | some act =>
          let q := act p (arguments.map textOf)
          set (if q.state = .ended then { q with state := .running, farewell := p.farewell } else q)
        | none =>
          set (p.complain s!"{name}: not found" 127)

def Process.settleOutput (p : Process) : Process :=
  let sinks := p.sink :: p.errors :: p.others.map (·.2)
  { p with outputClosed := p.outputClosed || !sinks.contains .output }

/-- Runs a simple command. Where there is nothing but assignments they last; before a command they last
as long as the command. A command that replaces the script ends it. -/
def runWords (runFunction : Command → Work Unit) (runText : List Char → Work Unit)
    (words : List Word) (redirections : List Redirection) : Work Unit := do
  modify fun p => { p with answered := none }
  let assignments := (words.takeWhile fun w => (assignment? w).isSome).filterMap assignment?
  let fields := (← (words.drop assignments.length).mapM (expand runText)).flatten
  let replaces := fields.head?.map textOf == some "exec"
  let before ← get
  if !before.isRunning then return
  else if !(← redirectAll runText redirections) then modify fun p => restore before p redirections
  else
    if replaces then modify Process.settleOutput
    match fields.dropWhile fun field => isWrapper (textOf field) with
    | [] =>
      assign runText assignments
      modify fun p => p.done (p.answered.getD 0)
      unless replaces do modify fun p => restore before p redirections
    | name :: arguments =>
      assign runText assignments
      runNamed runFunction runText (textOf name) arguments
      let back (p : Process) : Process :=
        assignments.foldl (fun p (name, _) =>
          match before.value? name with
          | some value => p.setValue name value
          | none => p.unset name) p
      modify fun p => restore before (back p) redirections
      if replaces then
        modify fun p => if p.state = .running then { p with state := .ended, farewell := [] } else p

/-! ## Commands -/

def Process.afterRound (p : Process) : Process × Bool :=
  match p.state with
  | .leaving n => ({ p with state := if n ≤ 1 then .running else .leaving (n - 1) }, false)
  | .repeating n =>
    if n ≤ 1 then ({ p with state := .running }, true)
    else ({ p with state := .repeating (n - 1) }, false)
  | .running => (p, true)
  | _ => (p, false)

def asked (act : Work Unit) : Work Unit := do
  let tested := (← get).tested
  modify fun p => { p with tested := true }
  act
  modify fun p => { p with tested }

/-- After a command whose success nobody asked for: a strict script ends if it failed. -/
def Process.judgeStrictly (p : Process) : Process :=
  if p.strict && !p.tested && p.isRunning && p.status != 0 then p.exit p.status else p

mutual

/-- Runs a command that is still to run. A script that takes more than `fuel` rounds counts as
waiting. -/
def run : Nat → Command → Work Unit
  | 0, _ => modify fun p => { p with state := .waiting }
  | fuel + 1, command => do
    let p ← get
    if !p.isRunning then return
    match command with
    | .nothing => return
    | .failing => set ((p.complain "Syntax error" 2).exit 2)
    | .simple words redirections =>
      runWords (run fuel) (runText fuel) words redirections
      modify Process.judgeStrictly
    | .sequence first second =>
      run fuel first
      run fuel second
    | .both first second =>
      asked (run fuel first)
      if (← get).status = 0 then run fuel second
    | .either first second =>
      asked (run fuel first)
      if (← get).status != 0 then run fuel second
    | .inverse command =>
      asked (run fuel command)
      modify fun p => if p.isRunning then p.judged (p.status != 0) else p
    | .branch condition yes no =>
      asked (run fuel condition)
      if (← get).isRunning then
        if (← get).status = 0 then run fuel yes
        else
          modify (·.done 0)
          run fuel no
    | .loop wanted condition body =>
      asked (run fuel condition)
      if (← get).isRunning then
        if ((← get).status == 0) == wanted then
          run fuel body
          let (q, goes) := (← get).afterRound
          set q
          if goes then run fuel command
        else modify (·.done 0)
    | .forEach name words body =>
      let fields ← match words with
        | some words => pure (← words.mapM (expand (runText fuel))).flatten
        | none => pure p.arguments.tail
      modify (·.done 0)
      runEach fuel name fields body
    | .choose subject arms =>
      let content ← expandWhole (runText fuel) subject
      modify (·.done 0)
      runChoice fuel content arms
    | .pipe first second =>
      let (q, content) := p.capture fun p => (run fuel first p).2
      let closed : Bool := q.state ≠ State.waiting
      let right := ({ q with state := .running }.readFrom content closed).apart
        fun q => (run fuel second q).2
      set { right.readLike q with state := if closed then right.state else .waiting }
      modify Process.judgeStrictly
    | .apart command =>
      set (p.apart fun p => (run fuel command p).2)
      modify Process.judgeStrictly
    | .background command =>
      let q := p.apart fun p => (run fuel command (p.readFrom [] true)).2
      set { q.readLike p with elapsed := p.elapsed, status := 0 }
    | .define name body =>
      set { p with functions := (name, body) :: p.functions.filter (·.1 != name), status := 0 }
    | .redirected command redirections =>
      if ← redirectAll (runText fuel) redirections then run fuel command
      modify fun q => restore p q redirections

def runEach : Nat → String → List Content → Command → Work Unit
  | 0, _, _, _ => modify fun p => { p with state := .waiting }
  | _, _, [], _ => return
  | fuel + 1, name, word :: words, body => do
    modify (·.setValue name word)
    run fuel body
    let (q, goes) := (← get).afterRound
    set q
    if goes then runEach fuel name words body

def runChoice : Nat → Content → List (List Word × Command) → Work Unit
  | 0, _, _ => modify fun p => { p with state := .waiting }
  | _, _, [] => return
  | fuel + 1, content, (patterns, body) :: arms => do
    let fits ← patterns.anyM fun w => return (← expandGlob (runText fuel) w).fits content
    if fits then run fuel body else runChoice fuel content arms

def runText : Nat → List Char → Work Unit
  | 0, _ => modify fun p => { p with state := .waiting }
  | fuel + 1, cs => run fuel (.ofScript cs)

end

structure Program where
  command : Command
  arguments : List Content := []
  /-- How long its text is. -/
  length : Nat

def Program.ofShell (name : Content) (words : List Content) : Program :=
  match shellScript? name words with
  | some (script, arguments) => { command := .ofScript script, arguments, length := script.length }
  | none => { command := .failing, length := 0 }

def roundsPerCharacter : Nat := 100

/-- The program after reading `input`, which is all that there will be if `closed`. -/
def execute (program : Program) (input : Content) (closed : Bool) : Process :=
  let rounds := roundsPerCharacter * (program.length + input.length + 1)
  let p : Process := { input, inputClosed := closed, arguments := program.arguments }
  let (_, p) := run rounds program.command p
  if p.state = .waiting then p
  else
    let action := (textOf p.farewell).toList
    let (_, q) := run rounds (.ofScript action) { p with state := .running, farewell := [] }
    { q with state := if q.state = .waiting then .waiting else .ended, status := p.status }

end RemoteUsb.Bench.Script
