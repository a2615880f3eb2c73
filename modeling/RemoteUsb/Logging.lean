import RemoteUsb.Error
import RemoteUsb.Logging.Pattern
import RemoteUsb.Text.Parts
import RemoteUsb.Text.Utf8

/-!
What is to be logged. A filter is a list of directives between commas; each names a level, or a target
and spans with the level for them. Here it is only decided which filters are valid.
-/
namespace RemoteUsb.Logging

/-! ## Filters -/

/-- A level is one of six names in letters of either case, a number up to five, or nothing. -/
def isLevel (cs : List Char) : Bool :=
  let number := match cs with
    | '+' :: rest => Text.readNatural? 10 rest
    | _ => Text.readNatural? 10 cs
  match number with
  | some n => n ≤ 5
  | none => ["", "off", "error", "warn", "info", "debug", "trace"].contains
      (String.ofList cs).toLower

def opensName (c : Char) : Bool :=
  Text.isLetter c || Text.isNumber c || c == '-' || c == ':' || c == '_'

def isSigned (cs : List Char) : Bool :=
  let isDigit (c : Char) : Bool := c.isDigit
  match cs with
  | '+' :: rest =>
    if ["inf", "infinity", "nan"].contains (String.ofList rest).toLower then true
    else
      let whole := rest.takeWhile isDigit
      let rest := rest.drop whole.length
      let (fraction, rest) := match rest with
        | '.' :: rest => (rest.takeWhile isDigit, rest.dropWhile isDigit)
        | rest => ([], rest)
      !(whole.isEmpty && fraction.isEmpty) && match rest with
        | [] => true
        | c :: rest =>
          let digits := match rest with
            | '+' :: digits => digits
            | '-' :: digits => digits
            | digits => digits
          (c == 'e' || c == 'E') && !digits.isEmpty && digits.all isDigit
  | _ => false

/-- A field is a name, with a value behind `=` if any. A value is a number or else a pattern; whatever
stands behind another `=` does not count. -/
def isField (cs : List Char) : Bool :=
  match Text.splitAt '=' cs with
  | _ :: value :: _ => isSigned value || Pattern.isValid value
  | _ => !cs.isEmpty

inductive Place where
  | name
  | span
  /-- Among the fields of a span, the first of which begins so many bytes behind the start. -/
  | field (start : Nat)
  | fieldsEnd
  | spanEnd
  deriving DecidableEq, Repr

/-- A directive is read without the blanks around it, but places in it count from its own start: with
blanks in front everything is looked up too far ahead. These are the bytes from one place to another. -/
def cut (whole : List UInt8) (start stop : Nat) : List Char :=
  match Text.Utf8.decode ((whole.take stop).drop start) with
  | .ok s => s.toList
  | .error _ => []

/-- Reads a directive on from a place that is `index` bytes behind the start. A level behind `=` is the
rest of it; `exact` says whether there are no blanks around the directive, without which there is no
level. -/
def readOn (whole : List UInt8) (exact : Bool) (index : Nat) : Place → List Char → Bool
  | .name, [] => true
  | .spanEnd, [] => true
  | _, [] => false
  | .name, c :: rest =>
    if c = '=' then exact && isLevel rest
    else readOn whole exact (index + c.utf8Size) (if c = '[' then .span else .name) rest
  | .spanEnd, c :: rest => c == '=' && exact && isLevel rest
  | .span, c :: rest =>
    let next := index + c.utf8Size
    readOn whole exact next
      (if c = ']' then .spanEnd else if c = '\x7b' then .field next else .span) rest
  | .field start, c :: rest =>
    if c = '\x7d' then isField (cut whole start index) && readOn whole exact (index + 1) .fieldsEnd rest
    else readOn whole exact (index + c.utf8Size) (.field start) rest
  | .fieldsEnd, c :: rest => c == ']' && readOn whole exact (index + 1) .spanEnd rest

def isDirective (cs : List Char) : Bool :=
  let inner := Text.strip cs
  let whole := Text.Utf8.encode (String.ofList cs)
  match inner with
  | [] => false
  | '[' :: rest => readOn whole (inner == cs) 1 .span rest
  | c :: rest => opensName c && readOn whole (inner == cs) c.utf8Size .name rest

/-- Whether a text is a filter. Empty directives do not count. -/
def isFilter (s : String) : Bool :=
  (Text.splitAt ',' s.toList).all fun cs => cs.isEmpty || isDirective cs

/-! ## Setting up -/

inductive Fault where
  | invalidFilter
  /-- Logging was set up before. -/
  | alreadySetUp
  deriving DecidableEq, Repr

def Fault.message : Fault → String
  | .invalidFilter => (ServiceError.configuration "Invalid log filter:").message
  | .alreadySetUp => (ServiceError.configuration "Logging already initialized:").message

/-- Sets up logging by the filter that the environment asks for, or else by a level. A filter of the
environment that is none counts as missing. Answers whether logging is set up afterwards. -/
def setUp (done : Bool) (asked : Option String) (level : String) : Bool × Except Fault Unit :=
  if asked.any isFilter || isFilter level then
    (true, if done then .error .alreadySetUp else .ok ())
  else (done, .error .invalidFilter)

end RemoteUsb.Logging
