import Sluice.Decimal.Numeral
import Sluice.Document.Yaml.Cursor

/-! The three kinds of YAML scalars. Plain and quoted ones may go on over several lines: a single line break becomes a
space, and of several the first one is dropped. -/

set_option autoImplicit false

namespace Sluice.Yaml

/-- What stands between two words: blanks, or line breaks with the blanks around them. The first break may have been
taken away by a backslash. -/
inductive Gap where
  | blanks (text : List Char)
  | lines (first : List Char) (more : List Char)

namespace Gap

def isLines : Gap → Bool
  | .blanks _ => false
  | .lines .. => true

def text : Gap → List Char
  | .blanks text => text
  | .lines ['\n'] [] => [' ']
  | .lines ['\n'] more => more
  | .lines first more => first ++ more

/-- Takes blanks and line breaks. In a line below the first one no tab may stand left of a column. -/
def take? (bound : Int) : Nat → Gap → Cursor → Option (Gap × Cursor)
  | 0, gap, cursor => some (gap, cursor)
  | fuel + 1, gap, cursor =>
    match cursor.rest with
    | [] => some (gap, cursor)
    | c :: _ =>
      if isBlank c then
        match gap with
        | .blanks text => take? bound fuel (.blanks (text ++ [c])) (cursor.skip 1)
        | .lines .. =>
          if c == '\t' && (cursor.column : Int) < bound then none else take? bound fuel gap (cursor.skip 1)
      else if isBreak c then
        let (taken, cursor) := cursor.takeBreak
        match gap with
        | .blanks _ => take? bound fuel (.lines taken []) cursor
        | .lines first more => take? bound fuel (.lines first (more ++ taken)) cursor
      else some (gap, cursor)

end Gap

/-! Plain scalars -/

/-- The characters that end a plain scalar inside brackets. -/
def isFlowMark (c : Char) : Bool := c == ',' || c == '[' || c == ']' || c == '{' || c == '}'

/-- The length of a word of a plain scalar; none if a colon stands before a bracket, a comma or a question mark inside
brackets. -/
def wordLength? (inFlow : Bool) : List Char → Option Nat
  | [] => some 0
  | c :: rest =>
    if isSpace c then some 0
    else if inFlow && c == ':' && (match rest with
      | next :: _ => isFlowMark next || next == '?'
      | [] => false) then none
    else if (c == ':' && endsWord rest) || (inFlow && isFlowMark c) then some 0
    else (wordLength? inFlow rest).map (· + 1)

/-- A plain scalar: words and the gaps between them. Outside of brackets its lines are indented at least to a column.
Also tells whether line breaks follow it. -/
def plain? (inFlow : Bool) (indent : Int) : Nat → List Char → Gap → Cursor → Option (List Char × Bool × Cursor)
  | 0, _, _, _ => none
  | fuel + 1, before, gap, cursor =>
    if cursor.atDocumentMark || cursor.isAt '#' then some (before, gap.isLines, cursor)
    else do
      let count ← wordLength? inFlow cursor.rest
      let (text, gap) :=
        if count = 0 then (before, gap)
        else (before ++ gap.text ++ cursor.rest.take count, Gap.blanks [])
      let cursor := cursor.skip count
      if !cursor.sees isSpace then return (text, gap.isLines, cursor)
      let (gap, cursor) ← Gap.take? indent (cursor.rest.length + 1) gap cursor
      if !inFlow && (cursor.column : Int) < indent then return (text, gap.isLines, cursor)
      plain? inFlow indent fuel text gap cursor

/-! Quoted scalars -/

def shortEscape? : Char → Option Char
  | '0' => some (Char.ofNat 0)
  | 'a' => some '\x07'
  | 'b' => some '\x08'
  | 't' | '\t' => some '\t'
  | 'n' => some '\n'
  | 'v' => some '\x0b'
  | 'f' => some '\x0c'
  | 'r' => some '\r'
  | 'e' => some '\x1b'
  | ' ' => some ' '
  | '"' => some '"'
  | '/' => some '/'
  | '\\' => some '\\'
  | 'N' => some '\u0085'
  | '_' => some '\u00a0'
  | 'L' => some '\u2028'
  | 'P' => some '\u2029'
  | _ => none

/-- How many digits follow an escape by number. -/
def escapeDigits? : Char → Option Nat
  | 'x' => some 2
  | 'u' => some 4
  | 'U' => some 8
  | _ => none

/-- An escape at a backslash. -/
def escape? (cursor : Cursor) : Option (Char × Cursor) := do
  let c ← cursor.ahead? 1
  let after := cursor.skip 2
  match escapeDigits? c with
  | none => return (← shortEscape? c, after)
  | some count =>
    let digits := after.rest.take count
    if digits.length != count || !digits.all Ascii.isHexDigit then none
    let n := Decimal.natOfHexDigits digits
    if h : n.isValidChar then some (Char.ofNatAux n h, after.skip count) else none

/-- The words of a quoted scalar up to a gap or the closing quote; whether a backslash ended the line. -/
def quotedWord? (single : Bool) : Nat → List Char → Cursor → Option (List Char × Bool × Cursor)
  | 0, _, _ => none
  | fuel + 1, text, cursor =>
    match cursor.rest with
    | [] => some (text, false, cursor)
    | c :: rest =>
      if isSpace c then some (text, false, cursor)
      else if single then
        match c, rest with
        | '\'', '\'' :: _ => quotedWord? single fuel (text ++ ['\'']) (cursor.skip 2)
        | '\'', _ => some (text, false, cursor)
        | _, _ => quotedWord? single fuel (text ++ [c]) (cursor.skip 1)
      else if c == '"' then some (text, false, cursor)
      else if c == '\\' then
        if (cursor.skip 1).sees isBreak then some (text, true, (cursor.skip 1).skipBreak)
        else do
          let (c, cursor) ← escape? cursor
          quotedWord? single fuel (text ++ [c]) cursor
      else quotedWord? single fuel (text ++ [c]) (cursor.skip 1)

/-- A quoted scalar after its opening quote. -/
def quoted? (single : Bool) : Nat → List Char → Cursor → Option (List Char × Cursor)
  | 0, _, _ => none
  | fuel + 1, text, cursor =>
    if cursor.atDocumentMark || cursor.isAtEnd then none
    else do
      let (text, joined, cursor) ← quotedWord? single (cursor.rest.length + 1) text cursor
      if cursor.isAt (if single then '\'' else '"') then return (text, cursor.skip 1)
      let start := if joined then Gap.lines [] [] else Gap.blanks []
      let (gap, cursor) ← Gap.take? 0 (cursor.rest.length + 1) start cursor
      quoted? single fuel (text ++ gap.text) cursor

/-! Block scalars -/

/-- What becomes of the line breaks at the end. -/
inductive Chomping where
  | strip
  | clip
  | keep
  deriving DecidableEq

def chomping? : List Char → Option Chomping
  | '+' :: _ => some .keep
  | '-' :: _ => some .strip
  | _ => none

/-- A digit from one to nine; none in the outer sense is a zero. -/
def increment? (cursor : Cursor) : Option (Nat × Cursor) :=
  match cursor.rest with
  | c :: _ =>
    if c == '0' then none
    else if Ascii.isDigit c then some (c.toNat - 48, cursor.skip 1)
    else some (0, cursor)
  | [] => some (0, cursor)

/-- The header after the mark: chomping and indentation in any order. -/
def blockHeader? (cursor : Cursor) : Option (Chomping × Nat × Cursor) :=
  match chomping? cursor.rest with
  | some chomping => do
    let (increment, cursor) ← increment? (cursor.skip 1)
    return (chomping, increment, cursor)
  | none => do
    let (increment, cursor) ← increment? cursor
    match chomping? cursor.rest with
    | some chomping => return (chomping, increment, cursor.skip 1)
    | none => return (.clip, increment, cursor)

/-- Takes indentation and empty lines. An indentation of zero is not known yet; also gives the widest one met. -/
def blockBreaks? (indent : Nat) : Nat → Nat → List Char → Cursor → Option (Nat × List Char × Cursor)
  | 0, widest, breaks, cursor => some (widest, breaks, cursor)
  | fuel + 1, widest, breaks, cursor =>
    let spaces := (cursor.rest.takeWhile (· == ' ')).length
    let cursor := cursor.skip (if indent = 0 then spaces else min spaces (indent - cursor.column))
    let widest := max widest cursor.column
    if (indent = 0 || cursor.column < indent) && cursor.isAt '\t' then none
    else if cursor.sees isBreak then
      let (taken, cursor) := cursor.takeBreak
      blockBreaks? indent fuel widest (breaks ++ taken) cursor
    else some (widest, breaks, cursor)

/-- The lines of a block scalar: the text so far, the break that ended the last line, and the empty lines after it. -/
structure BlockLines where
  text : List Char
  ending : List Char
  breaks : List Char
  /-- The last line begins with a blank. -/
  blank : Bool

/-- Adds lines as long as they are indented. In the folded form the break between two lines that begin with no blank
becomes a space or, before empty lines, nothing. -/
def blockLines? (folded : Bool) (indent : Nat) : Nat → BlockLines → Cursor → Option (BlockLines × Cursor)
  | 0, lines, cursor => some (lines, cursor)
  | fuel + 1, lines, cursor =>
    if cursor.column != indent || cursor.isAtEnd then some (lines, cursor)
    else do
      let blank := cursor.sees isBlank
      let joint :=
        if folded && lines.ending == ['\n'] && !lines.blank && !blank then
          (if lines.breaks.isEmpty then [' '] else [])
        else lines.ending
      let (line, cursor) := cursor.take (!isBreak ·)
      let (taken, cursor) := cursor.takeBreak
      let (_, breaks, cursor) ← blockBreaks? indent (cursor.rest.length + 1) 0 [] cursor
      blockLines? folded indent fuel ⟨lines.text ++ joint ++ lines.breaks ++ line, taken, breaks, blank⟩ cursor

/-- A block scalar after its mark. The indentation is given relative to that of the surrounding block, or taken from
the first line. -/
def block? (folded : Bool) (outer : Int) (cursor : Cursor) : Option (List Char × Cursor) := do
  let (chomping, increment, cursor) ← blockHeader? cursor
  let cursor ← cursor.finishLine?
  let given := if increment = 0 then 0 else (max outer 0).toNat + increment
  let (widest, breaks, cursor) ← blockBreaks? given (cursor.rest.length + 1) 0 [] cursor
  let indent := if given = 0 then max widest (max (outer + 1) 1).toNat else given
  let (lines, cursor) ← blockLines? folded indent (cursor.rest.length + 1) ⟨[], [], breaks, false⟩ cursor
  let final := if chomping == .strip then [] else lines.ending
  let empty := if chomping == .keep then lines.breaks else []
  return (lines.text ++ final ++ empty, cursor)

end Sluice.Yaml
