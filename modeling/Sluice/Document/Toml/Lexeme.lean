import Sluice.Decimal.Numeral

/-! The words of TOML: blanks, comments and line ends, keys, strings, numbers and dates. Every reader takes what it
reads from the front of a text and returns the rest. -/

set_option autoImplicit false

namespace Sluice.Toml

/-- Takes something from the front of a text. -/
abbrev Lexer (α : Type) := List Char → Option (α × List Char)

def isBlank (c : Char) : Bool := c == ' ' || c == '\t'

def skipBlanks (text : List Char) : List Char := text.dropWhile isBlank

/-- The characters that comments and strings may hold: a tab and everything that is no control character. -/
def isPlain (c : Char) : Bool := c == '\t' || !Ascii.isControl c

/-- A line feed, which a carriage return may precede. -/
def newline? : List Char → Option (List Char)
  | '\n' :: rest => some rest
  | '\r' :: '\n' :: rest => some rest
  | _ => none

/-- A comment may stand before the end of a line. -/
def skipComment : List Char → List Char
  | '#' :: rest => rest.dropWhile isPlain
  | text => text

/-- What may follow a statement on its line. -/
def lineEnd? (text : List Char) : Option (List Char) :=
  match skipComment (skipBlanks text) with
  | [] => some []
  | rest => newline? rest

/-- Blanks, line ends and comments that a line end closes. -/
def skipLines : Nat → List Char → List Char
  | 0, text => text
  | fuel + 1, text =>
    match text with
    | [] => []
    | c :: rest =>
      if isBlank c then skipLines fuel rest
      else match newline? (skipComment (c :: rest)) with
        | some rest => skipLines fuel rest
        | none => c :: rest

def skipSpace (text : List Char) : List Char := skipLines text.length text

/-! Strings -/

/-- A character by its number in a given count of hexadecimal digits. -/
def scalar? (count : Nat) (text : List Char) : Option (Char × List Char) := do
  let digits := text.take count
  if digits.length != count || !digits.all Ascii.isHexDigit then none
  let n := Decimal.natOfHexDigits digits
  if h : n.isValidChar then some (Char.ofNatAux n h, text.drop count) else none

/-- An escape after its backslash. -/
def escape? : Lexer Char
  | 'b' :: rest => some ('\x08', rest)
  | 't' :: rest => some ('\t', rest)
  | 'n' :: rest => some ('\n', rest)
  | 'f' :: rest => some ('\x0c', rest)
  | 'r' :: rest => some ('\r', rest)
  | '"' :: rest => some ('"', rest)
  | '\\' :: rest => some ('\\', rest)
  | 'u' :: rest => scalar? 4 rest
  | 'U' :: rest => scalar? 8 rest
  | _ => none

/-- A string of one line up to its closing quote. -/
def quoted? (quote : Char) (escapes : Bool) : Nat → Lexer (List Char)
  | 0, _ => none
  | fuel + 1, text =>
    match text with
    | [] => none
    | c :: rest =>
      if c == quote then some ([], rest)
      else if escapes && c == '\\' then do
        let (c, rest) ← escape? rest
        let (tail, rest) ← quoted? quote escapes fuel rest
        return (c :: tail, rest)
      else if isPlain c then do
        let (tail, rest) ← quoted? quote escapes fuel rest
        return (c :: tail, rest)
      else none

/-- The rest after a backslash that ends a line: the blanks and line ends that follow are left out. -/
def foldedLine? (text : List Char) : Option (List Char) := do
  let rest ← newline? (skipBlanks text)
  return rest.dropWhile fun c => isBlank c || c == '\n' || c == '\r'

/-- A carriage return that no line feed follows. -/
def hasLoneReturn : List Char → Bool
  | '\r' :: '\n' :: rest => hasLoneReturn rest
  | '\r' :: _ => true
  | _ :: rest => hasLoneReturn rest
  | [] => false

/-- A string of several lines up to three closing quotes. One or two quotes stand for themselves, also before the
closing ones; a line end is a line feed. -/
def multiline? (quote : Char) (escapes : Bool) : Nat → Lexer (List Char)
  | 0, _ => none
  | fuel + 1, text =>
    match text with
    | [] => none
    | c :: rest =>
      if c == quote then
        let run := (text.takeWhile (· == quote)).length
        -- the last three close the string, and at most two before them belong to it
        if 6 ≤ run then none
        else if 3 ≤ run then some (List.replicate (run - 3) quote, text.drop run)
        else do
          let (tail, rest) ← multiline? quote escapes fuel rest
          return (c :: tail, rest)
      else if escapes && c == '\\' then
        match foldedLine? rest with
        | some next =>
          if hasLoneReturn (rest.take (rest.length - next.length)) then none
          else multiline? quote escapes fuel next
        | none => do
          let (c, rest) ← escape? rest
          let (tail, rest) ← multiline? quote escapes fuel rest
          return (c :: tail, rest)
      else match newline? text with
        | some rest => do
          let (tail, rest) ← multiline? quote escapes fuel rest
          return ('\n' :: tail, rest)
        | none =>
          if isPlain c then do
            let (tail, rest) ← multiline? quote escapes fuel rest
            return (c :: tail, rest)
          else none

/-- A string in any of the four forms. A line end after three opening quotes is left out. -/
def string? (text : List Char) : Option (String × List Char) := do
  let (content, rest) ← match text with
    | '"' :: '"' :: '"' :: rest => multiline? '"' true text.length ((newline? rest).getD rest)
    | '\'' :: '\'' :: '\'' :: rest => multiline? '\'' false text.length ((newline? rest).getD rest)
    | '"' :: rest => quoted? '"' true text.length rest
    | '\'' :: rest => quoted? '\'' false text.length rest
    | _ => none
  return (String.ofList content, rest)

/-! Keys -/

def isKeyChar (c : Char) : Bool := Ascii.isLetter c || Ascii.isDigit c || c == '-' || c == '_'

/-- A bare or quoted part of a key. -/
def keyPart? (text : List Char) : Option (String × List Char) :=
  match text with
  | '"' :: rest => (quoted? '"' true text.length rest).map fun (s, rest) => (String.ofList s, rest)
  | '\'' :: rest => (quoted? '\'' false text.length rest).map fun (s, rest) => (String.ofList s, rest)
  | _ =>
    let bare := text.takeWhile isKeyChar
    if bare.isEmpty then none else some (String.ofList bare, text.dropWhile isKeyChar)

/-- Parts between points; blanks may stand around each. -/
def keyParts? : Nat → Lexer (List String)
  | 0, _ => none
  | fuel + 1, text => do
    let (part, rest) ← keyPart? (skipBlanks text)
    match skipBlanks rest with
    | '.' :: rest =>
      let (parts, rest) ← keyParts? fuel rest
      return (part :: parts, rest)
    | rest => return ([part], rest)

/-- The greatest depth of keys and values. -/
def maxDepth : Nat := 79

/-- A key: the path to a table, and a name in it. -/
def key? (text : List Char) : Option ((List String × String) × List Char) := do
  let (parts, rest) ← keyParts? maxDepth text
  let name ← parts.getLast?
  return ((parts.dropLast, name), rest)

/-! Numbers -/

def isSign (c : Char) : Bool := c == '+' || c == '-'

/-- Digits of a class, between which single underscores may stand. -/
def digits? (isDigit : Char → Bool) : Nat → Lexer (List Char)
  | 0, _ => none
  | fuel + 1, text =>
    match text with
    | [] => none
    | c :: rest =>
      if !isDigit c then none
      else match rest with
        | '_' :: after => (digits? isDigit fuel after).map fun (digits, rest) => (c :: digits, rest)
        | next :: _ =>
          if isDigit next then (digits? isDigit fuel rest).map fun (digits, rest) => (c :: digits, rest)
          else some ([c], rest)
        | [] => some ([c], rest)

/-- The digits of a whole decimal number, which no zero begins unless it is alone. -/
def wholeDigits? : Lexer (List Char)
  | '0' :: rest => some (['0'], rest)
  | text => digits? Ascii.isDigit text.length text

def takeSign : List Char → Bool × List Char
  | '-' :: rest => (true, rest)
  | '+' :: rest => (false, rest)
  | text => (false, text)

/-- The digits of a fraction, if there is a point. -/
def fraction? : Lexer (Option (List Char))
  | '.' :: rest => (digits? Ascii.isDigit rest.length rest).map fun (digits, rest) => (some digits, rest)
  | text => some (none, text)

/-- An exponent, if there is one. -/
def exponent? (text : List Char) : Option (Option Int × List Char) :=
  match text with
  | c :: rest =>
    if c == 'e' || c == 'E' then
      let (negative, rest) := takeSign rest
      (digits? Ascii.isDigit rest.length rest).map fun (digits, rest) =>
        let n : Int := Decimal.natOfDigits digits
        (some (if negative then -n else n), rest)
    else some (none, text)
  | [] => some (none, text)

inductive Number where
  | integer (n : Int)
  | real (x : Binary)

/-- A whole number of 64 bits. -/
def integer (negative : Bool) (n : Nat) : Option Number :=
  let value : Int := if negative then -n else n
  if -9223372036854775808 ≤ value && value ≤ 9223372036854775807 then some (.integer value) else none

/-- A number after the mark of its base. -/
def based? (isDigit : Char → Bool) (base : Nat) (text : List Char) : Option (Number × List Char) := do
  let (digits, rest) ← digits? isDigit text.length text
  let n := digits.foldl (fun n c => base * n + (Ascii.hexValue? c).getD 0) 0
  return (← integer false n, rest)

def isBinaryDigit (c : Char) : Bool := c == '0' || c == '1'

def isOctalDigit (c : Char) : Bool := '0' ≤ c && c ≤ '7'

/-- A decimal number. One with a point or an exponent is real, and must not be above every double. -/
def decimal? (text : List Char) : Option (Number × List Char) := do
  let (negative, rest) := takeSign text
  match rest with
  | 'i' :: 'n' :: 'f' :: rest => return (.real (.infinite negative), rest)
  | 'n' :: 'a' :: 'n' :: rest => return (.real .nan, rest)
  | _ =>
    let (whole, rest) ← wholeDigits? rest
    let (fraction, rest) ← fraction? rest
    let (exponent, rest) ← exponent? rest
    match fraction, exponent with
    | none, none => return (← integer negative (Decimal.natOfDigits whole), rest)
    | _, _ =>
      let numeral : Decimal.Numeral := ⟨negative, whole, fraction, exponent⟩
      match numeral.toBinary .double with
      -- below every double is no error
      | .infinite false => none
      | x => return (.real x, rest)

def number? : Lexer Number
  | '0' :: 'x' :: rest => based? Ascii.isHexDigit 16 rest
  | '0' :: 'o' :: rest => based? isOctalDigit 8 rest
  | '0' :: 'b' :: rest => based? isBinaryDigit 2 rest
  | text => decimal? text

/-! Dates and times -/

/-- A number of a fixed count of digits within bounds. -/
def bounded? (count least greatest : Nat) (text : List Char) : Option (Nat × List Char) :=
  let digits := text.take count
  let n := Decimal.natOfDigits digits
  if digits.length == count && digits.all Ascii.isDigit && least ≤ n && n ≤ greatest then
    some (n, text.drop count)
  else none

def expect? (c : Char) : List Char → Option (List Char)
  | d :: rest => if c == d then some rest else none
  | [] => none

def isLeapYear (year : Nat) : Bool := year % 4 == 0 && (year % 100 != 0 || year % 400 == 0)

def daysIn (year month : Nat) : Nat :=
  if month == 2 then (if isLeapYear year then 29 else 28)
  else if month == 4 || month == 6 || month == 9 || month == 11 then 30
  else 31

def date? (text : List Char) : Option (List Char) := do
  let (year, rest) ← bounded? 4 0 9999 text
  let rest ← expect? '-' rest
  let (month, rest) ← bounded? 2 1 12 rest
  let rest ← expect? '-' rest
  let (_, rest) ← bounded? 2 1 (daysIn year month) rest
  return rest

def time? (text : List Char) : Option (List Char) := do
  let (_, rest) ← bounded? 2 0 23 text
  let rest ← expect? ':' rest
  let (_, rest) ← bounded? 2 0 59 rest
  let rest ← expect? ':' rest
  let (_, rest) ← bounded? 2 0 60 rest
  match rest with
  | '.' :: digits => if (digits.takeWhile Ascii.isDigit).isEmpty then none else digits.dropWhile Ascii.isDigit
  | rest => return rest

def offset? (text : List Char) : Option (List Char) :=
  match text with
  | 'Z' :: rest | 'z' :: rest => some rest
  | c :: rest =>
    if isSign c then do
      let (_, rest) ← bounded? 2 0 23 rest
      let rest ← expect? ':' rest
      let (_, rest) ← bounded? 2 0 59 rest
      return rest
    else some text
  | [] => some text

/-- Whether a text begins with a time of day, as far as its first colon tells. -/
def beginsTime (text : List Char) : Bool := ((bounded? 2 0 23 text).bind fun (_, rest) => expect? ':' rest).isSome

def moment? (text : List Char) : Option (List Char) :=
  match date? text with
  | none => time? text
  | some rest =>
    match rest with
    | c :: after =>
      if (c == 'T' || c == 't' || c == ' ') && beginsTime after then (time? after).bind offset? else some rest
    | [] => some rest

end Sluice.Toml
