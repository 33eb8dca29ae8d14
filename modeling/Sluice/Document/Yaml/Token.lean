import Sluice.Document.Tree
import Sluice.Document.Yaml.Mark
import Sluice.Document.Yaml.Scalar

/-! The tokens of a YAML text. Indentation becomes tokens that open and close blocks. A key is known as one only at the
colon after it, so every place where a key may begin is remembered, one at each level of brackets, and the tokens
that announce the key are put there later. -/

set_option autoImplicit false

namespace Sluice.Yaml

inductive Token where
  | directive (directive : Directive)
  | documentStart
  | documentEnd
  | streamEnd
  | blockSequence
  | blockMapping
  | blockEnd
  | flowSequence
  | flowSequenceEnd
  | flowMapping
  | flowMappingEnd
  | blockEntry
  | flowEntry
  | key
  | value
  | alias (name : String)
  | anchor (name : String)
  | tag (tag : Tag)
  | scalar (style : ScalarStyle) (text : String)

/-- A place where a key may have begun. It must turn out to be one if it stands where its block needs a key. -/
structure Candidate where
  /-- How many tokens stand before it. -/
  position : Nat
  line : Nat
  column : Nat
  index : Nat
  required : Bool

structure Scanner where
  cursor : Cursor
  tokens : Array Token
  /-- The column of the block, or -1 outside of every block. -/
  indent : Int
  /-- The columns of the blocks around it. -/
  outer : List Int
  /-- The candidate of the innermost brackets, and those of the brackets around them. -/
  candidate : Option Candidate
  suspended : List (Option Candidate)
  keyAllowed : Bool
  isFinished : Bool

namespace Scanner

def start (text : List Char) : Scanner := ⟨Cursor.start text, #[], -1, [], none, [], true, false⟩

def inFlow (scanner : Scanner) : Bool := !scanner.suspended.isEmpty

def column (scanner : Scanner) : Int := scanner.cursor.column

def emit (scanner : Scanner) (token : Token) : Scanner :=
  { scanner with tokens := scanner.tokens.push token }

/-- Puts a token before those from a position on. -/
def insert (scanner : Scanner) (position : Nat) (token : Token) : Scanner :=
  { scanner with tokens := scanner.tokens.insertIdxIfInBounds position token }

def move (scanner : Scanner) (cursor : Cursor) : Scanner := { scanner with cursor }

def allow (scanner : Scanner) (keyAllowed : Bool) : Scanner := { scanner with keyAllowed }

/-! Candidates for keys -/

/-- Gives up the candidate; none if it had to be a key. -/
def dropCandidate? (scanner : Scanner) : Option Scanner :=
  match scanner.candidate with
  | some candidate => if candidate.required then none else some { scanner with candidate := none }
  | none => some scanner

/-- A key ends on its line and is at most 1024 characters long. -/
def isStale (cursor : Cursor) (candidate : Candidate) : Bool :=
  candidate.line < cursor.line || candidate.index + 1024 < cursor.index

/-- Gives up a candidate that is stale; none in the outer sense if it had to be a key. -/
def refresh? (cursor : Cursor) : Option Candidate → Option (Option Candidate)
  | none => some none
  | some candidate =>
    if isStale cursor candidate then (if candidate.required then none else some none) else some (some candidate)

def dropStale? (scanner : Scanner) : Option Scanner := do
  let candidate ← refresh? scanner.cursor scanner.candidate
  let suspended ← scanner.suspended.mapM (refresh? scanner.cursor)
  return { scanner with candidate, suspended }

/-- Remembers that a key may begin here, if one is allowed. -/
def addCandidate? (scanner : Scanner) : Option Scanner :=
  if scanner.keyAllowed then do
    let cursor := scanner.cursor
    let required := !scanner.inFlow && scanner.indent == scanner.column
    let scanner ← scanner.dropCandidate?
    return { scanner with
      candidate := some ⟨scanner.tokens.size, cursor.line, cursor.column, cursor.index, required⟩ }
  else some scanner

/-! Blocks -/

/-- Opens a block if the column is right of the open one; its token goes to a position or to the end. -/
def openBlock (scanner : Scanner) (column : Nat) (position : Option Nat) (token : Token) : Scanner :=
  if !scanner.inFlow && scanner.indent < column then
    let scanner := { scanner with indent := column, outer := scanner.indent :: scanner.outer }
    match position with
    | some position => scanner.insert position token
    | none => scanner.emit token
  else scanner

/-- Closes the blocks right of a column, given the columns around them. -/
def closeFrom (column : Int) : List Int → Scanner → Scanner
  | [], scanner => scanner
  | outer :: rest, scanner =>
    if column < scanner.indent then
      closeFrom column rest { scanner.emit .blockEnd with indent := outer, outer := rest }
    else scanner

def closeBlocks (scanner : Scanner) (column : Int) : Scanner :=
  if scanner.inFlow then scanner else closeFrom column scanner.outer scanner

/-! Single tokens -/

/-- Skips blanks, comments and line breaks. Tabs stand only where no key may begin; a break makes one possible
outside of brackets. -/
def skipSpace : Nat → Scanner → Scanner
  | 0, scanner => scanner
  | fuel + 1, scanner =>
    -- a byte order mark is no space but at the very beginning
    let cursor := if scanner.cursor.index == 0 && scanner.cursor.isAt '\uFEFF' then scanner.cursor.skip 1
      else scanner.cursor
    let cursor := cursor.skipWhile fun c => c == ' ' || (c == '\t' && (scanner.inFlow || !scanner.keyAllowed))
    let cursor := if cursor.isAt '#' then cursor.skipWhile (!isBreak ·) else cursor
    if cursor.sees isBreak then
      skipSpace fuel ((scanner.move cursor.skipBreak).allow (scanner.keyAllowed || !scanner.inFlow))
    else scanner.move cursor

def finish? (scanner : Scanner) : Option Scanner := do
  let scanner ← (scanner.closeBlocks (-1)).dropCandidate?
  return { (scanner.allow false).emit .streamEnd with isFinished := true }

def directive? (scanner : Scanner) : Option Scanner := do
  let scanner ← (scanner.closeBlocks (-1)).dropCandidate?
  let (directive, cursor) ← Yaml.directive? scanner.cursor
  return ((scanner.allow false).move cursor).emit (.directive directive)

def documentMark? (scanner : Scanner) (token : Token) : Option Scanner := do
  let scanner ← (scanner.closeBlocks (-1)).dropCandidate?
  return ((scanner.allow false).move (scanner.cursor.skip 3)).emit token

def openFlow? (scanner : Scanner) (token : Token) : Option Scanner := do
  let scanner ← scanner.addCandidate?
  let scanner := { scanner with candidate := none, suspended := scanner.candidate :: scanner.suspended }
  return ((scanner.allow true).move (scanner.cursor.skip 1)).emit token

def closeFlow? (scanner : Scanner) (token : Token) : Option Scanner := do
  let scanner ← scanner.dropCandidate?
  let scanner := match scanner.suspended with
    | [] => scanner
    | candidate :: suspended => { scanner with candidate, suspended }
  return ((scanner.allow false).move (scanner.cursor.skip 1)).emit token

def flowEntry? (scanner : Scanner) : Option Scanner := do
  let scanner ← scanner.dropCandidate?
  return ((scanner.allow true).move (scanner.cursor.skip 1)).emit .flowEntry

def blockEntry? (scanner : Scanner) : Option Scanner := do
  if !scanner.inFlow && !scanner.keyAllowed then none
  let scanner ← (scanner.openBlock scanner.cursor.column none .blockSequence).dropCandidate?
  return ((scanner.allow true).move (scanner.cursor.skip 1)).emit .blockEntry

def key? (scanner : Scanner) : Option Scanner := do
  if !scanner.inFlow && !scanner.keyAllowed then none
  let scanner ← (scanner.openBlock scanner.cursor.column none .blockMapping).dropCandidate?
  return ((scanner.allow !scanner.inFlow).move (scanner.cursor.skip 1)).emit .key

/-- A colon: what began at the candidate is a key, or the colon stands on its own. -/
def value? (scanner : Scanner) : Option Scanner := do
  let scanner ← match scanner.candidate with
    | some candidate =>
      -- the key goes before what was read since, and the block that it may open before the key
      let scanner := (scanner.insert candidate.position .key).openBlock candidate.column
        (some candidate.position) .blockMapping
      some { scanner with candidate := none, keyAllowed := false }
    | none =>
      if !scanner.inFlow && !scanner.keyAllowed then none
      else some ((scanner.openBlock scanner.cursor.column none .blockMapping).allow !scanner.inFlow)
  return (scanner.move (scanner.cursor.skip 1)).emit .value

/-- A token with which a key may begin. -/
def leading? (scanner : Scanner) (read : Cursor → Option (Token × Cursor)) : Option Scanner := do
  let scanner ← scanner.addCandidate?
  let (token, cursor) ← read scanner.cursor
  return ((scanner.allow false).move cursor).emit token

def quoted? (scanner : Scanner) (single : Bool) : Option Scanner :=
  scanner.leading? fun cursor => do
    let (text, cursor) ← Yaml.quoted? single (cursor.rest.length + 1) [] (cursor.skip 1)
    return (.scalar .quoted (String.ofList text), cursor)

def block? (scanner : Scanner) (folded : Bool) : Option Scanner := do
  let scanner ← scanner.dropCandidate?
  let (text, cursor) ← Yaml.block? folded scanner.indent (scanner.cursor.skip 1)
  return ((scanner.allow true).move cursor).emit
    (.scalar (if folded then .quoted else .literal) (String.ofList text))

def plain? (scanner : Scanner) : Option Scanner := do
  let scanner ← scanner.addCandidate?
  let (text, beforeBreak, cursor) ←
    Yaml.plain? scanner.inFlow (scanner.indent + 1) (scanner.cursor.rest.length + 1) [] (.blanks []) scanner.cursor
  return ((scanner.allow beforeBreak).move cursor).emit (.scalar .plain (String.ofList text))

/-- The characters that cannot begin a plain scalar. -/
def isIndicator (c : Char) : Bool := "-?:,[]\x7b\x7d#&*!|>'\"%@`".toList.contains c

/-- Whether a plain scalar may begin with a character before others. -/
def beginsPlain (inFlow : Bool) (c : Char) (rest : List Char) : Bool :=
  if c == '-' then
    match rest with
    | next :: _ => !isBlank next
    | [] => true
  else if c == '?' || c == ':' then !inFlow && !endsWord rest
  else !isSpace c && !isIndicator c

def next? (scanner : Scanner) : Option Scanner := do
  let scanner ← (scanner.skipSpace (scanner.cursor.rest.length + 1)).dropStale?
  let scanner := scanner.closeBlocks scanner.column
  let cursor := scanner.cursor
  match cursor.rest with
  | [] => scanner.finish?
  | c :: rest =>
    -- the order counts: dashes and points that separate documents could also begin a scalar
    if cursor.column == 0 && c == '%' then scanner.directive?
    else if cursor.atSeparator '-' then scanner.documentMark? .documentStart
    else if cursor.atSeparator '.' then scanner.documentMark? .documentEnd
    else if c == '[' then scanner.openFlow? .flowSequence
    else if c == '{' then scanner.openFlow? .flowMapping
    else if c == ']' then scanner.closeFlow? .flowSequenceEnd
    else if c == '}' then scanner.closeFlow? .flowMappingEnd
    else if c == ',' then scanner.flowEntry?
    else if c == '-' && endsWord rest then scanner.blockEntry?
    else if c == '?' && (scanner.inFlow || endsWord rest) then scanner.key?
    else if c == ':' && (scanner.inFlow || endsWord rest) then scanner.value?
    else if c == '*' then scanner.leading? fun cursor => do
      let (name, cursor) ← anchorName? cursor
      return (.alias name, cursor)
    else if c == '&' then scanner.leading? fun cursor => do
      let (name, cursor) ← anchorName? cursor
      return (.anchor name, cursor)
    else if c == '!' then scanner.leading? fun cursor => do
      let (tag, cursor) ← tag? scanner.inFlow cursor
      return (.tag tag, cursor)
    else if c == '|' && !scanner.inFlow then scanner.block? false
    else if c == '>' && !scanner.inFlow then scanner.block? true
    else if c == '\'' then scanner.quoted? true
    else if c == '"' then scanner.quoted? false
    else if beginsPlain scanner.inFlow c rest then scanner.plain?
    else none

def run? : Nat → Scanner → Option (List Token)
  | 0, _ => none
  | fuel + 1, scanner => if scanner.isFinished then some scanner.tokens.toList else scanner.next?.bind (run? fuel)

end Scanner

def tokens? (text : String) : Option (List Token) :=
  let chars := text.toList
  if chars.all isAllowed then Scanner.run? (chars.length + 2) (Scanner.start chars) else none

end Sluice.Yaml
