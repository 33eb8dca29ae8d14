import Sluice.Config.Expansion
import Sluice.Decimal.Numeral

/-! Command lines: the commands, their options, and how arguments are read. -/

set_option autoImplicit false

namespace Sluice

inductive Command.Topic where
  | program
  | serve
  | validate
  | version
  | help
  deriving DecidableEq, Repr

inductive Command where
  | serve (config : String) (port : Option UInt16) (level : Option String)
  | validate (config : String)
  | version
  | help (topic : Command.Topic)
  | programVersion
  deriving DecidableEq, Repr

namespace Command

inductive Setting where
  | config
  | port
  | level
  deriving DecidableEq, Repr

namespace Setting

def short : Setting → Char
  | .config => 'c'
  | .port => 'p'
  | .level => 'l'

def long : Setting → String
  | .config => "config"
  | .port => "port"
  | .level => "log-level"

end Setting

/-- A port in decimal notation, possibly with a sign. -/
def port? (text : String) : Option UInt16 :=
  let (negative, digits) := match text.toList with
    | '-' :: rest => (true, rest)
    | '+' :: rest => (false, rest)
    | digits => (false, digits)
  let n := Decimal.natOfDigits digits
  if digits.isEmpty || !digits.all Ascii.isDigit || 65535 < n || (negative && 0 < n) then none
  else some (UInt16.ofNat n)

structure Given where
  config : Option String
  port : Option UInt16
  level : Option String

namespace Given

def nothing : Given := ⟨none, none, none⟩

/-- Takes a value; no option is given twice, and a path is not empty. -/
def put (given : Given) (setting : Setting) (value : String) : Option Given :=
  match setting with
  | .config => if given.config.isSome || value.isEmpty then none else some { given with config := value }
  | .port =>
    match given.port, port? value with
    | none, some port => some { given with port }
    | _, _ => none
  | .level => if given.level.isSome then none else some { given with level := value }

end Given

/-- What an argument does on its own. -/
inductive Word where
  | help
  | setting (setting : Setting) (value : Option String)
  | ending
  | refused

/-- Whether an argument looks like an option and so is no value of one. -/
def isOption (argument : String) : Bool :=
  match argument.toList with
  | '-' :: _ :: _ => true
  | _ => false

/-- An option by its name, with the value after an equals sign if there is one. -/
def longWord (allowed : List Setting) (text : List Char) : Word :=
  let name := String.ofList (text.takeWhile (· != '='))
  let value? := match text.dropWhile (· != '=') with
    | [] => none
    | _ :: value => some (String.ofList value)
  if text.isEmpty then .ending
  else if name == "help" then (if value?.isSome then .refused else .help)
  else match allowed.find? (·.long == name) with
    | some setting => .setting setting value?
    | none => .refused

/-- An option by its letter; what follows the letter is its value, possibly after an equals sign. -/
def shortWord (allowed : List Setting) (letter : Char) (rest : List Char) : Word :=
  if letter == 'h' then .help
  else match allowed.find? (·.short == letter) with
    | none => .refused
    | some setting => .setting setting (match rest with
      | [] => none
      | '=' :: value => some (String.ofList value)
      | value => some (String.ofList value))

def word (allowed : List Setting) (argument : String) : Word :=
  match argument.toList with
  | '-' :: '-' :: text => longWord allowed text
  | '-' :: letter :: rest => shortWord allowed letter rest
  | _ => .refused

/-- Whether arguments ask for help, or the values that they give. Nothing stands behind the end of the options. -/
def readOptions (allowed : List Setting) (given : Given) : List String → Option (Option Given)
  | [] => some (some given)
  | argument :: rest =>
    match word allowed argument with
    | .help => some none
    | .refused => none
    | .ending => if rest.isEmpty then some (some given) else none
    | .setting setting (some value) => do readOptions allowed (← given.put setting value) rest
    | .setting setting none =>
      match rest with
      | value :: rest => if isOption value then none else do readOptions allowed (← given.put setting value) rest
      | [] => none

def defaultConfig : String := "spindle.yaml"

def portVariable : String := "SPINDLE_PORT"

/-- The port that is given, or else the one of the environment, which must then be a port. -/
def portOf (environment : Environment) (given : Given) : Option (Option UInt16) :=
  match given.port, environment.lookup portVariable with
  | some port, _ => some (some port)
  | none, none => some none
  | none, some value => (port? value).map some

def topic? : List String → Option Topic
  | [] => some .program
  | ["serve"] => some .serve
  | ["validate"] => some .validate
  | ["version"] => some .version
  | ["help"] => some .help
  | _ => none

def ofOptions (allowed : List Setting) (topic : Topic) (make : Given → Option Command) (rest : List String) :
    Option Command := do
  match ← readOptions allowed .nothing rest with
  | none => return .help topic
  | some given => make given

/-- Reads arguments; nothing comes of arguments that are not understood. -/
def ofArguments? (environment : Environment) (arguments : List String) : Option Command :=
  match arguments with
  | "serve" :: rest =>
    ofOptions [.config, .port, .level] .serve (fun given => do
      let port ← portOf environment given
      return .serve (given.config.getD defaultConfig) port given.level) rest
  | "validate" :: rest =>
    ofOptions [.config] .validate (fun given => some (.validate (given.config.getD defaultConfig))) rest
  | "version" :: rest => ofOptions [] .version (fun _ => some .version) rest
  | "help" :: rest => (topic? rest).map .help
  | first :: _ =>
    match first.toList with
    | '-' :: 'h' :: _ => some (.help .program)
    | '-' :: 'V' :: _ => some .programVersion
    | _ => if first == "--help" then some (.help .program)
      else if first == "--version" then some .programVersion
      else none
  | [] => none

end Command

end Sluice
