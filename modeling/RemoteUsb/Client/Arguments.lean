/-!
The arguments of the client. They are read from the left, and the first one that decides what happens,
or cannot be understood, ends the reading.
-/
namespace RemoteUsb.Client

/-- What the client is told to do. -/
structure Arguments where
  config : Option String := none
  saveConfig : Bool := false
  listDevices : Bool := false
  checkFilter : Option String := none
  watch : Bool := false
  logLevel : Option String := none
  deriving DecidableEq, Repr

inductive Request where
  | work (arguments : Arguments)
  | help
  | version
  /-- The arguments cannot be understood. -/
  | misuse
  deriving DecidableEq, Repr

inductive Setting where
  | config
  | checkFilter
  | logLevel
  deriving DecidableEq, Repr

inductive Switch where
  | saveConfig
  | listDevices
  | watch
  | help
  | version
  deriving DecidableEq, Repr

/-- An argument as an option, with the value that is written into it. -/
inductive OptionWord where
  | setting (setting : Setting) (value : Option String)
  | switch (switch : Switch)
  | unknown
  deriving DecidableEq, Repr

/-- An option by its long name. A value stands behind `=`. -/
def longOption (name : String) (value : Option String) : OptionWord :=
  match name, value with
  | "config", value => .setting .config value
  | "check-filter", value => .setting .checkFilter value
  | "log-level", value => .setting .logLevel value
  | "save-config", none => .switch .saveConfig
  | "list-devices", none => .switch .listDevices
  | "watch", none => .switch .watch
  | "help", none => .switch .help
  | "version", none => .switch .version
  | _, _ => .unknown

/-- An option by its letter. A value stands right behind it, or behind `=`. -/
def shortOption (letter : Char) (rest : List Char) : OptionWord :=
  let value : Option String := match rest with
    | [] => none
    | '=' :: cs => some (String.ofList cs)
    | cs => some (String.ofList cs)
  match letter with
  | 'c' => .setting .config value
  | 'l' => .setting .logLevel value
  | 'h' => .switch .help
  | 'V' => .switch .version
  | _ => .unknown

def OptionWord.of (word : String) : OptionWord :=
  match word.toList with
  | '-' :: '-' :: cs =>
    let name := String.ofList (cs.takeWhile (· != '='))
    match cs.dropWhile (· != '=') with
    | [] => longOption name none
    | _ :: value => longOption name (some (String.ofList value))
  | '-' :: letter :: rest => shortOption letter rest
  | _ => .unknown

/-- Whether a word can be the value of an option in front of it. -/
def isValue (word : String) : Bool := word == "-" || !word.startsWith "-"

namespace Arguments

def set? (a : Arguments) (setting : Setting) (value : String) : Option Arguments :=
  match setting with
  | .config => if a.config.isSome then none else some { a with config := some value }
  | .checkFilter => if a.checkFilter.isSome then none else some { a with checkFilter := some value }
  | .logLevel => if a.logLevel.isSome then none else some { a with logLevel := some value }

/-- Switches an option on that was off before, or says what happens instead. -/
def turnOn (a : Arguments) : Switch → Except Request Arguments
  | .saveConfig => if a.saveConfig then .error .misuse else .ok { a with saveConfig := true }
  | .listDevices => if a.listDevices then .error .misuse else .ok { a with listDevices := true }
  | .watch => if a.watch then .error .misuse else .ok { a with watch := true }
  | .help => .error .help
  | .version => .error .version

/-- Reads arguments on top of those already read. Behind `--` there can be nothing. -/
def readOn (a : Arguments) : List String → Request
  | [] => .work a
  | word :: rest =>
    if word = "--" then if rest.isEmpty then .work a else .misuse
    else match OptionWord.of word with
      | .unknown => .misuse
      | .switch s =>
        match a.turnOn s with
        | .error request => request
        | .ok a => readOn a rest
      | .setting s (some value) =>
        match a.set? s value with
        | none => .misuse
        | some a => readOn a rest
      | .setting s none =>
        match rest with
        | [] => .misuse
        | value :: rest =>
          if !isValue value then .misuse
          else match a.set? s value with
            | none => .misuse
            | some a => readOn a rest

def read (words : List String) : Request := readOn {} words

end Arguments
end RemoteUsb.Client
