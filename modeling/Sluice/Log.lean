import Sluice.Fault
import Sluice.Text.Ascii
import Sluice.Text.Quoted

/-! Log lines, and computations that write them. -/

set_option autoImplicit false

namespace Sluice

inductive Level where
  | trace | debug | info | warn | error
  deriving DecidableEq, Repr

namespace Level

def text : Level → String
  | .trace => "TRACE"
  | .debug => "DEBUG"
  | .info => "INFO"
  | .warn => "WARN"
  | .error => "ERROR"

def weight : Level → Nat
  | .trace => 0
  | .debug => 1
  | .info => 2
  | .warn => 3
  | .error => 4

def ofText? (text : String) : Option Level :=
  [trace, debug, info, warn, error].find? fun level => Ascii.sameText level.text.toList text.toList

end Level

/-- The value of a field of a log line. A shown text is written as it is, a quoted one between quotes. -/
inductive LogValue where
  | flag (b : Bool)
  | nat (n : Nat)
  | shown (text : String)
  | quoted (text : String)
  deriving DecidableEq, Repr

def LogValue.text : LogValue → String
  | .flag b => if b then "true" else "false"
  | .nat n => toString n
  | .shown text => text
  | .quoted text => Text.quote text

structure LogLine where
  level : Level
  message : String
  fields : List (String × LogValue)
  deriving DecidableEq, Repr

namespace LogLine

/-- The message with its fields behind it. -/
def text (line : LogLine) : String :=
  line.fields.foldl (fun text (name, value) => text ++ " " ++ name ++ "=" ++ value.text) line.message

/-- Whether a line is written when lines below a level are left out. -/
def isAtLeast (line : LogLine) (threshold : Level) : Bool := threshold.weight ≤ line.level.weight

end LogLine

/-- A computation that may fail and writes log lines either way. -/
abbrev Logged (α : Type) := List LogLine × Except Fault α

namespace Logged

variable {α β : Type}

def pure (value : α) : Logged α := ([], .ok value)

def fail (fault : Fault) : Logged α := ([], .error fault)

def ofExcept (result : Except Fault α) : Logged α := ([], result)

/-- Goes on with the value; lines already written stay. -/
def andThen (first : Logged α) (next : α → Logged β) : Logged β :=
  match first with
  | (lines, .error fault) => (lines, .error fault)
  | (lines, .ok value) =>
    let (later, result) := next value
    (lines ++ later, result)

def say (line : LogLine) : Logged Unit := ([line], .ok ())

theorem andThen_eq_ok_iff {first : Logged α} {next : α → Logged β} {result : β} :
    (first.andThen next).2 = .ok result ↔ ∃ value, first.2 = .ok value ∧ (next value).2 = .ok result := by
  obtain ⟨lines, outcome⟩ := first
  cases outcome <;> simp [andThen]

end Logged

end Sluice
