/-!
# Command line options

What a survey is asked for on the command line. An option has a long name, and some have a letter.
Most have a value: the next argument, or what follows an equals sign, or what directly follows the
letter. An argument that starts with a dash is never taken for the value of the option before it,
unless it is the dash alone. Every option may be given once, and there are no other arguments.
-/

namespace LteReceiver

/-- The options of a survey. -/
structure Options where
  /-- The file with the settings. -/
  config : String
  /-- The level of messages, in place of that of the settings. -/
  logLevel? : Option String
  /-- The recording, in place of that of the settings. -/
  input? : Option String
  /-- The only sector to search for. -/
  sector? : Option Nat
  /-- Whether to print the findings. -/
  json : Bool
deriving DecidableEq, Repr

/-- The names of options. -/
inductive OptionName where
  | config
  | logLevel
  | input
  | sector
  | json
deriving DecidableEq, Repr

namespace OptionName

/-- All names. -/
def all : List OptionName := [config, logLevel, input, sector, json]

/-- The long name of an option. -/
def text : OptionName → String
  | config => "config"
  | logLevel => "log-level"
  | input => "input"
  | sector => "nid2"
  | json => "json"

/-- The option with a letter. -/
def ofLetter? : Char → Option OptionName
  | 'c' => some config
  | 'l' => some logLevel
  | 'i' => some input
  | _ => none

/-- The option with a long name. -/
def ofText? (name : String) : Option OptionName :=
  all.find? (·.text = name)

end OptionName

/-- Why a command line is refused. -/
inductive OptionsFault where
  | unexpected (argument : String)
  | repeated (name : OptionName)
  | noValue (name : OptionName)
  | needlessValue (name : OptionName)
  | sectorNumber (text : String)
deriving DecidableEq, Repr

/-- The wording of a refusal. -/
def OptionsFault.message : OptionsFault → String
  | unexpected argument => s!"unexpected argument '{argument}'"
  | repeated name => s!"'--{name.text}' is given more than once"
  | noValue name => s!"a value is required for '--{name.text}'"
  | needlessValue name => s!"'--{name.text}' takes no value"
  | sectorNumber text => s!"invalid value '{text}' for '--{OptionName.sector.text}'"

/-! ## Arguments -/

/-- What an argument of a command line is. -/
inductive Argument where
  | option (name : OptionName) (value? : Option String)
  /-- Something that is no option, such as the value of one. -/
  | value (text : String)
  /-- The end of the options. -/
  | separator
  /-- An option that there is not. -/
  | unknown (text : String)
deriving DecidableEq, Repr

namespace Argument

/-- An argument by its text. -/
def ofText (text : String) : Argument :=
  match text.toList with
  | ['-', '-'] => .separator
  | '-' :: '-' :: rest =>
    let name := String.ofList (rest.takeWhile (· ≠ '='))
    let value? := (rest.dropWhile (· ≠ '=')).tail?.map String.ofList
    (OptionName.ofText? name).elim (.unknown text) (.option · value?)
  | '-' :: letter :: rest =>
    let value? := match rest with
      | [] => none
      | '=' :: chars => some (String.ofList chars)
      | chars => some (String.ofList chars)
    (OptionName.ofLetter? letter).elim (.unknown text) (.option · value?)
  | _ => .value text

end Argument

/-! ## Reading -/

namespace Options

/-- No options given. -/
def usual : Options := ⟨"ue.yml", none, none, none, false⟩

/-- The sector of a text: a whole number of eight bits, which may have a sign. -/
def sectorOfText? (text : String) : Option Nat := do
  let (negative, digits) := match text.toList with
    | '-' :: digits => (true, digits)
    | '+' :: digits => (false, digits)
    | digits => (false, digits)
  if digits = [] ∨ !digits.all Char.isDigit then none
  else
    let n := digits.foldl (fun n c => 10 * n + (c.toNat - '0'.toNat)) 0
    if 256 ≤ n ∨ (negative ∧ n ≠ 0) then none else some n

/-- The options with the value of one more. -/
def setValue (options : Options) (name : OptionName) (value : String) :
    Except OptionsFault Options :=
  match name with
  | .config => .ok { options with config := value }
  | .logLevel => .ok { options with logLevel? := some value }
  | .input => .ok { options with input? := some value }
  | .sector =>
    match sectorOfText? value with
    | some sector => .ok { options with sector? := some sector }
    | none => .error (.sectorNumber value)
  | .json => .error (.needlessValue .json)

/-- Take the value of an option, unless it was given already. -/
def give (given : List OptionName) (options : Options) (name : OptionName) (value : String) :
    Except OptionsFault Options :=
  if name ∈ given then .error (.repeated name) else options.setValue name value

/-- Take arguments one after the other, of which the first can be the value of a pending option. -/
def readFrom (given : List OptionName) (options : Options) :
    Option OptionName → List String → Except OptionsFault Options
  | none, [] => .ok options
  | some name, [] => .error (.noValue name)
  | pending?, text :: rest =>
    match pending?, Argument.ofText text with
    | some name, .value value => do
      readFrom (name :: given) (← options.give given name value) none rest
    | some name, _ => .error (.noValue name)
    | none, .option .json none =>
      if .json ∈ given then .error (.repeated .json)
      else readFrom (.json :: given) { options with json := true } none rest
    | none, .option name none => readFrom given options (some name) rest
    | none, .option name (some value) => do
      readFrom (name :: given) (← options.give given name value) none rest
    | none, .separator =>
      match rest with
      | [] => .ok options
      | next :: _ => .error (.unexpected next)
    | none, .value _ | none, .unknown _ => .error (.unexpected text)

/-- The options of a command line. -/
def read (arguments : List String) : Except OptionsFault Options :=
  readFrom [] usual none arguments

end Options

end LteReceiver
