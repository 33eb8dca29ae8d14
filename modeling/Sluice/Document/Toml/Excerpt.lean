import Sluice.Document.Toml.Statement

/-! Excerpts that show where the reading of a TOML text stops: the line, a mark under the place, and what is wrong
there or would have been expected. -/

set_option autoImplicit false

namespace Sluice.Toml

/-- Where reading stops, by what is left of the text, and what is said about it. -/
structure Stop where
  rest : List Char
  remarks : List String
  deriving DecidableEq, Repr

namespace Stop

def lineEnd : String := "expected newline, `#`"

/-- Characters that begin a value that is neither a string nor unknown. -/
def beginsOther (c : Char) : Bool := Ascii.isDigit c || "+-_.tfin[\x7b".toList.contains c

/-- In a string of one line, reading stops at the first character that cannot stand there. -/
def ofQuoted (quote : Char) (label : String) (content : List Char) : Stop :=
  ⟨content.dropWhile fun c => isPlain c && c != quote, ["invalid " ++ label]⟩

/-- Nothing is said about a value that is missing at the end of the text. -/
def ofValue (text : List Char) : Stop :=
  match text with
  | [] => ⟨[], []⟩
  | '"' :: content => ofQuoted '"' "basic string" content
  | '\'' :: content => ofQuoted '\'' "literal string" content
  | c :: _ => ⟨text, if beginsOther c then [] else ["invalid string", "expected `\"`, `'`"]⟩

/-- A statement that gives a value to a key. -/
def ofPair (text : List Char) : Stop :=
  match key? text with
  | none => ⟨skipBlanks text, ["invalid key"]⟩
  | some (_, rest) =>
    match expect? '=' rest with
    | none => ⟨rest, ["expected `.`, `=`"]⟩
    | some rest =>
      match value? (2 * text.length + 2) maxDepth (skipBlanks rest) with
      | none => ofValue (skipBlanks rest)
      | some (_, rest) => ⟨skipComment (skipBlanks rest), [lineEnd]⟩

/-- A header, after its opening brackets; so many close it. -/
def ofHeader (closing : List Char) (text : List Char) : Stop :=
  let label := "invalid table header"
  match key? text with
  | none => ⟨skipBlanks text, ["invalid key"]⟩
  | some (_, rest) =>
    if closing.isPrefixOf rest then ⟨skipComment (skipBlanks (rest.drop closing.length)), [label, lineEnd]⟩
    else ⟨rest, [label, "expected `.`, `" ++ String.ofList closing ++ "`"]⟩

def ofStatement : List Char → Stop
  | '[' :: '[' :: rest => ofHeader [']', ']'] rest
  | '[' :: rest => ofHeader [']'] rest
  | text => ofPair text

/-- Where the statements of a text stop, if they do. -/
def ofText? : Nat → List Char → Option Stop
  | 0, _ => none
  | fuel + 1, text =>
    match skipBlanks text with
    | [] => none
    | rest =>
      match lineEnd? rest with
      | some rest => ofText? fuel rest
      | none =>
        match statement? rest with
        | none => some (ofStatement rest)
        | some (_, rest) => ofText? fuel rest

end Stop

def spaces (count : Nat) : String := String.ofList (List.replicate count ' ')

/-- The lines that show a place in a text. -/
def showPlace (text : List Char) (stop : Stop) : List String :=
  let read := text.take (text.length - stop.rest.length)
  let number := toString (read.count '\n' + 1)
  let column := (read.reverse.takeWhile (· != '\n')).length
  let line := (read.reverse.takeWhile (· != '\n')).reverse ++ stop.rest.takeWhile (· != '\n')
  [spaces (number.length + 1) ++ "|", number ++ " | " ++ String.ofList line,
    spaces (number.length + 1) ++ "|" ++ spaces (column + 1) ++ "^"]

/-- What is shown of a text whose statements cannot be read. -/
def excerpt (text : String) : List String :=
  let chars := text.toList
  match Stop.ofText? (chars.length + 1) chars with
  | none => []
  | some stop => showPlace chars stop ++ (if stop.remarks.isEmpty then [""] else stop.remarks) ++ [""]

end Sluice.Toml
