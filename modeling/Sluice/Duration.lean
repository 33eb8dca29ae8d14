import Sluice.Decimal.Numeral
import Sluice.Text.Blank

/-! Spans of time in seconds and nanoseconds: the texts people write, such as 1m 30s or 1.5h, and the text they are
written back in. -/

set_option autoImplicit false

namespace Sluice

structure Duration where
  seconds : Nat
  nanos : Nat
  deriving DecidableEq, Repr

namespace Duration

def zero : Duration := ⟨0, 0⟩

def ofSeconds (seconds : Nat) : Duration := ⟨seconds, 0⟩

def ofMillis (millis : Nat) : Duration := ⟨millis / 1000, millis % 1000 * 1000000⟩

/-- Numbers in a text, and whole seconds, fit 64 bits. -/
def maxWord : Nat := 18446744073709551615

def word? (n : Nat) : Option Nat := if n ≤ maxWord then some n else none

inductive TimeUnit where
  | nanosecond | microsecond | millisecond | second | minute | hour | day | week | month | year
  deriving DecidableEq, Repr

namespace TimeUnit

def spellings : List (String × TimeUnit) := [
  ("nanos", .nanosecond), ("nsec", .nanosecond), ("ns", .nanosecond),
  ("usec", .microsecond), ("us", .microsecond), ("µs", .microsecond),
  ("millis", .millisecond), ("msec", .millisecond), ("ms", .millisecond),
  ("seconds", .second), ("second", .second), ("secs", .second), ("sec", .second), ("s", .second),
  ("minutes", .minute), ("minute", .minute), ("mins", .minute), ("min", .minute), ("m", .minute),
  ("hours", .hour), ("hour", .hour), ("hrs", .hour), ("hr", .hour), ("h", .hour),
  ("days", .day), ("day", .day), ("d", .day),
  ("weeks", .week), ("week", .week), ("wks", .week), ("wk", .week), ("w", .week),
  ("months", .month), ("month", .month), ("M", .month),
  ("years", .year), ("year", .year), ("yrs", .year), ("yr", .year), ("y", .year)]

def ofText? (text : String) : Option TimeUnit := (spellings.find? (·.1 == text)).map (·.2)

def seconds? : TimeUnit → Option Nat
  | .second => some 1
  | .minute => some 60
  | .hour => some 3600
  | .day => some 86400
  | .week => some 604800
  | .month => some 2630016
  | .year => some 31557600
  | _ => none

def nanos : TimeUnit → Nat
  | .nanosecond => 1
  | .microsecond => 1000
  | .millisecond => 1000000
  | _ => 0

/-- The parts of a unit in seconds and nanoseconds: units up to a minute are divided into nanoseconds, longer
ones into seconds, and the shortest cannot be divided. -/
def fractionScale? : TimeUnit → Option (Nat × Bool)
  | .nanosecond => none
  | .microsecond => some (1000, true)
  | .millisecond => some (1000000, true)
  | .second => some (1000000000, true)
  | .minute => some (60000000000, true)
  | unit => unit.seconds?.map (·, false)

end TimeUnit

def plus? (total : Duration) (seconds nanos : Nat) : Option Duration := do
  let nanos ← word? (total.nanos + nanos)
  let seconds ← word? (total.seconds + seconds + nanos / 1000000000)
  return ⟨seconds, nanos % 1000000000⟩

def plusWhole? (total : Duration) (n : Nat) (unit : TimeUnit) : Option Duration :=
  match unit.seconds? with
  | some scale => do total.plus? (← word? (n * scale)) 0
  | none => do total.plus? 0 (← word? (n * unit.nanos))

/-- Adds a fraction of a unit, rounded down. -/
def plusFraction? (total : Duration) (num den : Nat) (unit : TimeUnit) : Option Duration := do
  let (scale, inNanos) ← unit.fractionScale?
  let part := (← word? (num * scale)) / den
  if inNanos then total.plus? 0 part else total.plus? part 0

def isUnitChar (c : Char) : Bool := Ascii.isLetter c || c == 'µ'

/-- A number under way: its value, and the fraction if there is a point. -/
structure Amount where
  whole : Nat
  fraction : Option (Nat × Nat)

/-- Where a text stands: before a number, in its digits, in its fraction, or in a unit. -/
inductive Place where
  | before
  | whole (n : Nat)
  | fraction (n : Nat) (num den : Nat)
  | unit (amount : Amount) (spelling : List Char)

def finishUnit (total : Duration) (amount : Amount) (spelling : List Char) : Option Duration := do
  let unit ← TimeUnit.ofText? (String.ofList spelling)
  let total ← total.plusWhole? amount.whole unit
  match amount.fraction with
  | none => return total
  | some (num, den) => total.plusFraction? num den unit

/-- Reads amounts with their units; blanks may stand between and inside the numbers, and the next number ends a
unit. -/
def scan (total : Duration) : Place → List Char → Option Duration
  | .before, [] => some total
  | .whole _, [] => none
  | .fraction .., [] => none
  | .unit amount spelling, [] => finishUnit total amount spelling
  | .before, c :: rest =>
    if Ascii.isDigit c then scan total (.whole (c.toNat - 48)) rest
    else if Text.isBlank c then scan total .before rest
    else none
  | .whole n, c :: rest =>
    if Ascii.isDigit c then
      match word? (10 * n + (c.toNat - 48)) with
      | some n => scan total (.whole n) rest
      | none => none
    else if Text.isBlank c then scan total (.whole n) rest
    else if isUnitChar c then scan total (.unit ⟨n, none⟩ [c]) rest
    else if c == '.' then scan total (.fraction n 0 1) rest
    else none
  | .fraction n num den, c :: rest =>
    if Ascii.isDigit c then
      match word? (10 * num + (c.toNat - 48)), word? (10 * den) with
      | some num, some den => scan total (.fraction n num den) rest
      | _, _ => none
    else if Text.isBlank c then scan total (.fraction n num den) rest
    -- a point without a digit after it is an error
    else if isUnitChar c && den != 1 then scan total (.unit ⟨n, some (num, den)⟩ [c]) rest
    else none
  | .unit amount spelling, c :: rest =>
    if Ascii.isDigit c then
      match finishUnit total amount spelling with
      | some total => scan total (.whole (c.toNat - 48)) rest
      | none => none
    else if Text.isBlank c then
      match finishUnit total amount spelling with
      | some total => scan total .before rest
      | none => none
    else if isUnitChar c then scan total (.unit amount (spelling ++ [c])) rest
    else none

/-- Reads a duration: at least one amount, or a bare zero. -/
def ofText? (text : String) : Option Duration :=
  let chars := text.toList
  if text == "0" then some zero
  else if chars.all Text.isBlank then none
  else scan zero .before chars

def plural (n : Nat) (unit : String) : List String :=
  if n = 0 then [] else [toString n ++ unit ++ (if n = 1 then "" else "s")]

def item (n : Nat) (unit : String) : List String := if n = 0 then [] else [toString n ++ unit]

/-- The written parts of a duration, largest first. -/
def parts (d : Duration) : List String :=
  let rest := d.seconds % 31557600
  let days := rest % 2630016
  let clock := days % 86400
  plural (d.seconds / 31557600) "year" ++ plural (rest / 2630016) "month" ++ plural (days / 86400) "day" ++
    item (clock / 3600) "h" ++ item (clock % 3600 / 60) "m" ++ item (clock % 60) "s" ++
    item (d.nanos / 1000000) "ms" ++ item (d.nanos / 1000 % 1000) "us" ++ item (d.nanos % 1000) "ns"

def text (d : Duration) : String :=
  match d.parts with
  | [] => "0s"
  | parts => " ".intercalate parts

/-- The digits of a fraction of a unit, without zeros at the end. -/
def fractionDigits (width n : Nat) : List Char :=
  let digits := (toString n).toList
  let padded := List.replicate (width - digits.length) '0' ++ digits
  (padded.reverse.dropWhile (· == '0')).reverse

def withFraction (whole width n : Nat) (unit : String) : String :=
  let digits := fractionDigits width n
  toString whole ++ (if digits.isEmpty then "" else "." ++ String.ofList digits) ++ unit

/-- The text of a duration in outlines: one number in the largest unit that is not zero. -/
def outlineText (d : Duration) : String :=
  if 0 < d.seconds then withFraction d.seconds 9 d.nanos "s"
  else if 1000000 ≤ d.nanos then withFraction (d.nanos / 1000000) 6 (d.nanos % 1000000) "ms"
  else if 1000 ≤ d.nanos then withFraction (d.nanos / 1000) 3 (d.nanos % 1000) "µs"
  else toString d.nanos ++ "ns"

end Duration

end Sluice
