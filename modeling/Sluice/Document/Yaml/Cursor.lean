import Sluice.Text.Ascii

/-! A place in a YAML text: what follows it, and where it is. -/

set_option autoImplicit false

namespace Sluice.Yaml

def isAllowed (c : Char) : Bool :=
  let n := c.toNat
  n == 0x09 || n == 0x0A || n == 0x0D || (0x20 ≤ n && n ≤ 0x7E) || n == 0x85 || (0xA0 ≤ n && n ≤ 0xFFFD) ||
    0x10000 ≤ n

def isBreak (c : Char) : Bool :=
  c == '\n' || c == '\r' || c == '\u0085' || c == '\u2028' || c == '\u2029'

def isBlank (c : Char) : Bool := c == ' ' || c == '\t'

def isSpace (c : Char) : Bool := isBlank c || isBreak c

/-- The characters of names of anchors, tag handles and directives. -/
def isNameChar (c : Char) : Bool := Ascii.isLetter c || Ascii.isDigit c || c == '-' || c == '_'

/-- Whether a text ends, or goes on with a blank or a line break. -/
def endsWord : List Char → Bool
  | [] => true
  | c :: _ => isSpace c

/-- A position with the text that follows it; lines and columns count from zero. -/
structure Cursor where
  rest : List Char
  line : Nat
  column : Nat
  index : Nat

namespace Cursor

def start (text : List Char) : Cursor := ⟨text, 0, 0, 0⟩

def ahead? (cursor : Cursor) (offset : Nat) : Option Char := cursor.rest[offset]?

def isAt (cursor : Cursor) (c : Char) : Bool := cursor.rest.head? == some c

def isAtEnd (cursor : Cursor) : Bool := cursor.rest.isEmpty

def sees (cursor : Cursor) (p : Char → Bool) : Bool :=
  match cursor.rest with
  | [] => false
  | c :: _ => p c

def skip (cursor : Cursor) (count : Nat) : Cursor :=
  { cursor with rest := cursor.rest.drop count, column := cursor.column + count, index := cursor.index + count }

/-- The characters of a class up to the first other one. The class holds no line breaks. -/
def take (cursor : Cursor) (p : Char → Bool) : List Char × Cursor :=
  let taken := cursor.rest.takeWhile p
  (taken, cursor.skip taken.length)

def skipWhile (cursor : Cursor) (p : Char → Bool) : Cursor := (cursor.take p).2

/-- Takes a line break: the common ones are read as a line feed. At the end nothing is taken. -/
def takeBreak (cursor : Cursor) : List Char × Cursor :=
  let next (rest : List Char) (count : Nat) : Cursor := ⟨rest, cursor.line + 1, 0, cursor.index + count⟩
  match cursor.rest with
  | [] => ([], cursor)
  | '\r' :: '\n' :: rest => (['\n'], next rest 2)
  | c :: rest =>
    if c == '\u2028' || c == '\u2029' then ([c], next rest 1)
    else if isBreak c then (['\n'], next rest 1)
    else ([], cursor)

def skipBreak (cursor : Cursor) : Cursor := cursor.takeBreak.2

/-- Whether a line begins with three equal marks that separate documents. -/
def atSeparator (cursor : Cursor) (mark : Char) : Bool :=
  cursor.column == 0 && cursor.rest.take 3 == [mark, mark, mark] && endsWord (cursor.rest.drop 3)

def atDocumentMark (cursor : Cursor) : Bool := cursor.atSeparator '-' || cursor.atSeparator '.'

/-- Goes past blanks and a comment to the end of the line and past its break; none if something else stands there. -/
def finishLine? (cursor : Cursor) : Option Cursor :=
  let cursor := cursor.skipWhile isBlank
  let cursor := if cursor.isAt '#' then cursor.skipWhile (!isBreak ·) else cursor
  if cursor.isAtEnd || cursor.sees isBreak then some cursor.skipBreak else none

end Cursor

end Sluice.Yaml
