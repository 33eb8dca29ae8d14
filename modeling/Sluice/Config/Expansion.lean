import Sluice.Config.Format
import Sluice.Text.Ascii

/-! References to variables of the environment inside a text, and their replacement. A reference is a dollar sign and
a name in braces; a fallback may follow the name after a colon and a minus sign. A text is cut once, from left to
right, into references and single characters; what replaces a reference is not looked at again. -/

set_option autoImplicit false

namespace Sluice

abbrev Environment := List (String × String)

def Environment.find? (environment : Environment) (name : String) : Option String :=
  environment.lookup name

structure Reference where
  name : List Char
  fallback : Option (List Char)
  deriving DecidableEq, Repr

namespace Reference

def isNameStart (c : Char) : Bool := Ascii.isLetter c || c == '_'

def isNameChar (c : Char) : Bool := isNameStart c || Ascii.isDigit c

/-- The rest of a reference after its name. -/
def close? (name : List Char) : List Char → Option (Reference × List Char)
  | '}' :: rest => some (⟨name, none⟩, rest)
  | ':' :: '-' :: rest =>
    match rest.dropWhile (· != '}') with
    | '}' :: tail => some (⟨name, some (rest.takeWhile (· != '}'))⟩, tail)
    | _ => none
  | _ => none

/-- A reference that a text begins with, and the text after it. -/
def read? : List Char → Option (Reference × List Char)
  | '$' :: '\x7b' :: c :: rest =>
    if isNameStart c then close? (c :: rest.takeWhile isNameChar) (rest.dropWhile isNameChar) else none
  | _ => none

theorem length_dropWhile_le (p : Char → Bool) (text : List Char) :
    (text.dropWhile p).length ≤ text.length :=
  (List.dropWhile_suffix p).length_le

theorem close?_length {name text rest : List Char} {reference : Reference}
    (h : close? name text = some (reference, rest)) : rest.length < text.length := by
  unfold close? at h
  split at h
  · simp only [Option.some.injEq, Prod.mk.injEq] at h
    simp [← h.2]
  · rename_i after
    split at h
    · rename_i tail found
      simp only [Option.some.injEq, Prod.mk.injEq] at h
      have := length_dropWhile_le (· != '}') after
      rw [found] at this
      simp only [List.length_cons] at this ⊢
      rw [← h.2]
      omega
    · simp at h
  · simp at h

/-- Reading a reference takes something from the text. -/
theorem read?_length {text rest : List Char} {reference : Reference}
    (h : read? text = some (reference, rest)) : rest.length < text.length := by
  unfold read? at h
  split at h
  · rename_i c tail
    split at h
    · have shorter := close?_length h
      have := length_dropWhile_le isNameChar tail
      simp only [List.length_cons]
      omega
    · simp at h
  · simp at h

def value (environment : Environment) (reference : Reference) : Except LoadProblem (List Char) :=
  let name := String.ofList reference.name
  match environment.find? name, reference.fallback with
  | some value, _ => .ok value.toList
  | none, some fallback => .ok fallback
  | none, none => .error (.unsetVariable name)

end Reference

inductive Piece where
  | literal (c : Char)
  | reference (reference : Reference)
  deriving DecidableEq, Repr

namespace Piece

def split (text : List Char) : List Piece :=
  match _found : Reference.read? text with
  | some (found, rest) => .reference found :: split rest
  | none =>
    match text with
    | [] => []
    | c :: rest => .literal c :: split rest
termination_by text.length
decreasing_by
  · exact Reference.read?_length _found
  · simp

def value (environment : Environment) : Piece → Except LoadProblem (List Char)
  | .literal c => .ok [c]
  | .reference found => found.value environment

end Piece

/-- Replaces all references of a text; the first one without a value and a fallback is an error. -/
def Environment.expand (environment : Environment) (text : String) : Except LoadProblem String := do
  let parts ← (Piece.split text.toList).mapM (Piece.value environment)
  return String.ofList parts.flatten

end Sluice
