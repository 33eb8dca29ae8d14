import Sluice.Text.Base64

/-! Texts in the PEM format: sections of base64 between a line that begins with the dashes and the label of a section and
the line that ends it. Other lines between sections are passed over. -/

set_option autoImplicit false

namespace Sluice.Pem

structure Section where
  label : String
  content : Bytes
  deriving DecidableEq, Repr

/-- The sections of a text up to its end, or up to the first that is malformed. -/
structure Reading where
  sections : List Section
  isWhole : Bool
  deriving DecidableEq, Repr

namespace Reading

def isEmpty (reading : Reading) : Bool := reading.sections.isEmpty

def malformed : Reading := ⟨[], false⟩

def cons (first : Section) (reading : Reading) : Reading := ⟨first :: reading.sections, reading.isWhole⟩

end Reading

def isLineEnd (b : UInt8) : Bool := b.toNat == 10 || b.toNat == 13

/-- The lines of a text, without their ends. Each line feed and each carriage return ends one. -/
def lines (text : Bytes) : List Bytes :=
  text.foldr (fun b lines =>
    if isLineEnd b then [] :: lines
    else match lines with
      | line :: rest => (b :: line) :: rest
      | [] => [[b]]) [[]]

def dashes : Bytes := List.replicate 5 45

def opening : Bytes := dashes ++ Bytes.ofText "BEGIN "

def closing (label : Bytes) : Bytes := dashes ++ Bytes.ofText "END " ++ label ++ dashes

/-- What a line does outside of the content of a section. -/
inductive Role where
  | opens (label : Bytes)
  | broken
  | plain

/-- The line that opens a section ends in exactly five dashes, which blanks may follow. -/
def role (line : Bytes) : Role :=
  if opening.isPrefixOf line then
    let trimmed := line.reverse.dropWhile (·.toNat == 32)
    let trailer := trimmed.takeWhile (·.toNat == 45)
    if trailer.length == 5 then
      .opens ((trimmed.drop 5).reverse.drop opening.length)
    else .broken
  else .plain

/-- Reads lines, with the label of the section under way and the content that was collected. A section that opens
inside of another takes its place and keeps its content. -/
def readLines : Option Bytes → Bytes → List Bytes → Reading
  | none, _, [] => ⟨[], true⟩
  | some _, _, [] => .malformed
  | label?, body, line :: rest =>
    match role line with
    | .broken => .malformed
    | .opens label => readLines (some label) body rest
    | .plain =>
      match label? with
      | none => readLines none body rest
      | some label =>
        if (closing label).isPrefixOf line then
          match Base64.decode? body with
          | none => .malformed
          | some content => (readLines none [] rest).cons ⟨Bytes.toTextLossy label, content⟩
        else readLines (some label) (body ++ line) rest

def read (text : Bytes) : Reading := readLines none [] (lines text)

end Sluice.Pem
