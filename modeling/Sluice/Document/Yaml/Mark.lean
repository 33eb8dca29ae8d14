import Sluice.Document.Yaml.Cursor
import Sluice.Text.Utf8

/-! What may stand before a YAML node or document: names of anchors, tags and directives. -/

set_option autoImplicit false

namespace Sluice.Yaml

/-- The characters that may follow a name of an anchor, besides blanks and breaks. -/
def isNameEnd (c : Char) : Bool := "?:,]\x7d%@`".toList.contains c

def anchorName? (cursor : Cursor) : Option (String × Cursor) :=
  let (name, cursor) := (cursor.skip 1).take isNameChar
  if name.isEmpty || !(endsWord cursor.rest || cursor.sees isNameEnd) then none
  else some (String.ofList name, cursor)

/-! Tags -/

def isTagChar (c : Char) : Bool := isNameChar c || ";/?:@&=+$.%!~*'()".toList.contains c

def isVerbatimChar (c : Char) : Bool := isTagChar c || c == ',' || c == '[' || c == ']'

/-- The length of a sequence of UTF-8 that a byte begins. -/
def sequenceLength? (byte : Nat) : Option Nat :=
  if byte < 0x80 then some 1
  else if byte / 0x20 == 6 then some 2
  else if byte / 0x10 == 14 then some 3
  else if byte / 0x08 == 30 then some 4
  else none

/-- A byte written as a percent sign and two hexadecimal digits. -/
def escapedByte? : List Char → Option (Nat × List Char)
  | '%' :: a :: b :: rest => do
    let a ← Ascii.hexValue? a
    let b ← Ascii.hexValue? b
    return (16 * a + b, rest)
  | _ => none

/-- The bytes that continue a sequence. -/
def continuation? : Nat → List Char → Option (Bytes × List Char)
  | 0, rest => some ([], rest)
  | count + 1, text => do
    let (byte, rest) ← escapedByte? text
    if byte / 0x40 != 2 then none
    let (bytes, rest) ← continuation? count rest
    return (Utf8.byte byte :: bytes, rest)

/-- The bytes that the text of a tag stands for. -/
def tagBytes? : Nat → List Char → Option Bytes
  | 0, _ => none
  | fuel + 1, text =>
    match text with
    | [] => some []
    | '%' :: _ => do
      let (byte, rest) ← escapedByte? text
      let (bytes, rest) ← continuation? ((← sequenceLength? byte) - 1) rest
      let tail ← tagBytes? fuel rest
      return Utf8.byte byte :: bytes ++ tail
    | c :: rest => do
      let tail ← tagBytes? fuel rest
      return Bytes.ofText (String.ofList [c]) ++ tail

/-- Takes the text of a tag; what was read of it before may stand in front. -/
def tagText? (p : Char → Bool) (before : List Char) (cursor : Cursor) : Option (Bytes × Cursor) := do
  let (text, cursor) := cursor.take p
  let bytes ← tagBytes? (before.length + text.length + 1) (before ++ text)
  return (bytes, cursor)

/-- A tag: the handle of a prefix and what follows the prefix. Without a handle the tag is complete. -/
structure Tag where
  handle : String
  suffix : Bytes
  deriving DecidableEq

/-- Takes a handle: an exclamation mark, a name and another mark if it is there. -/
def takeHandle (cursor : Cursor) : List Char × Cursor :=
  let (name, cursor) := (cursor.skip 1).take isNameChar
  if cursor.isAt '!' then ('!' :: name ++ ['!'], cursor.skip 1) else ('!' :: name, cursor)

def isClosedHandle (handle : List Char) : Bool := 1 < handle.length && handle.getLast? == some '!'

/-- A tag at its exclamation mark. -/
def tag? (inFlow : Bool) (cursor : Cursor) : Option (Tag × Cursor) := do
  let (tag, cursor) ←
    if cursor.ahead? 1 == some '<' then do
      let (suffix, cursor) ← tagText? isVerbatimChar [] (cursor.skip 2)
      if suffix.isEmpty || !cursor.isAt '>' then none
      pure ((⟨"", suffix⟩ : Tag), cursor.skip 1)
    else do
      let (handle, cursor) := takeHandle cursor
      if isClosedHandle handle then do
        let (suffix, cursor) ← tagText? isTagChar [] cursor
        if suffix.isEmpty then none
        pure ((⟨String.ofList handle, suffix⟩ : Tag), cursor)
      else do
        let (suffix, cursor) ← tagText? isTagChar (handle.drop 1) cursor
        if suffix.isEmpty then pure ((⟨"", Bytes.ofText "!"⟩ : Tag), cursor)
        else pure ((⟨"!", suffix⟩ : Tag), cursor)
  if endsWord cursor.rest || (inFlow && cursor.isAt ',') then return (tag, cursor) else none

/-! Directives -/

inductive Directive where
  | version (major minor : Nat)
  | tag (handle : String) (stem : Bytes)

def versionNumber? (cursor : Cursor) : Option (Nat × Cursor) :=
  let (digits, cursor) := cursor.take Ascii.isDigit
  if digits.isEmpty || 9 < digits.length then none
  else some (digits.foldl (fun n c => 10 * n + (c.toNat - 48)) 0, cursor)

def versionDirective? (cursor : Cursor) : Option (Directive × Cursor) := do
  let (major, cursor) ← versionNumber? (cursor.skipWhile isBlank)
  if !cursor.isAt '.' then none
  let (minor, cursor) ← versionNumber? (cursor.skip 1)
  return (.version major minor, cursor)

def tagDirective? (cursor : Cursor) : Option (Directive × Cursor) := do
  let cursor := cursor.skipWhile isBlank
  if !cursor.isAt '!' then none
  let (handle, cursor) := takeHandle cursor
  if handle.getLast? != some '!' || !cursor.sees isBlank then none
  let (stem, cursor) ← tagText? isVerbatimChar [] (cursor.skipWhile isBlank)
  if stem.isEmpty || !endsWord cursor.rest then none
  return (.tag (String.ofList handle) stem, cursor)

/-- A directive at its percent sign, with the rest of its line. -/
def directive? (cursor : Cursor) : Option (Directive × Cursor) := do
  let (name, cursor) := (cursor.skip 1).take isNameChar
  if !endsWord cursor.rest then none
  let (directive, cursor) ←
    if name == "YAML".toList then versionDirective? cursor
    else if name == "TAG".toList then tagDirective? cursor
    else none
  return (directive, ← cursor.finishLine?)

end Sluice.Yaml
