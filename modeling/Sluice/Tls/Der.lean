import Sluice.Text.Utf8

/-! Elements in the distinguished encoding: a tag, a length in its shortest form, and the content. -/

set_option autoImplicit false

namespace Sluice.Der

structure Element where
  tag : Nat
  content : Bytes
  deriving DecidableEq, Repr

def boolean : Nat := 0x01
def integer : Nat := 0x02
def bitString : Nat := 0x03
def octetString : Nat := 0x04
def objectId : Nat := 0x06
def sequence : Nat := 0x30

/-- The tag of a constructed element that is told apart by its number in the surrounding type. -/
def numbered (n : Nat) : Nat := 0xA0 + n

/-- Splits a number of bytes off, if there are as many. -/
def split? (count : Nat) (bytes : Bytes) : Option (Bytes × Bytes) :=
  if count ≤ bytes.length then some (bytes.take count, bytes.drop count) else none

/-- Reads a length of up to two bytes, which is never written longer than it has to be. -/
def length? : Bytes → Option (Nat × Bytes)
  | first :: rest =>
    let n := first.toNat
    if n < 0x80 then some (n, rest)
    else match n, rest with
      | 0x81, a :: rest => if 0x80 ≤ a.toNat then some (a.toNat, rest) else none
      | 0x82, a :: b :: rest =>
        let size := a.toNat * 256 + b.toNat
        if 0x100 ≤ size then some (size, rest) else none
      | _, _ => none
  | [] => none

/-- Reads the element at the front. Tags have one byte. -/
def element? : Bytes → Option (Element × Bytes)
  | [] => none
  | tag :: rest => do
    if tag.toNat % 32 == 31 then none
    let (size, rest) ← length? rest
    let (content, rest) ← split? size rest
    return (⟨tag.toNat, content⟩, rest)

/-- The content of the element at the front, which has the given tag, and what follows. -/
def expect? (tag : Nat) (bytes : Bytes) : Option (Bytes × Bytes) := do
  let (element, rest) ← element? bytes
  if element.tag == tag then some (element.content, rest) else none

/-- The content of an element that has the given tag and fills the bytes. -/
def only? (tag : Nat) (bytes : Bytes) : Option Bytes := do
  let (content, rest) ← expect? tag bytes
  if rest.isEmpty then some content else none

/-- The contents of the elements at the front, which have the given tags in order, and what follows. -/
def fields? : List Nat → Bytes → Option (List Bytes × Bytes)
  | [], bytes => some ([], bytes)
  | tag :: tags, bytes => do
    let (content, rest) ← expect? tag bytes
    let (contents, rest) ← fields? tags rest
    return (content :: contents, rest)

/-- The bytes of a length below 2^16 in its shortest form. -/
def encodeLength (size : Nat) : Bytes :=
  if size < 0x80 then [Utf8.byte size]
  else if size < 0x100 then [0x81, Utf8.byte size]
  else [0x82, Utf8.byte (size / 0x100), Utf8.byte (size % 0x100)]

def encode (tag : Nat) (content : Bytes) : Bytes :=
  Utf8.byte tag :: (encodeLength content.length ++ content)

theorem split?_rest_le {count : Nat} {bytes front rest : Bytes} (cut : split? count bytes = some (front, rest)) :
    rest.length ≤ bytes.length := by
  unfold split? at cut
  split at cut
  · simp only [Option.some.injEq, Prod.mk.injEq] at cut
    simp [← cut.2]
  · simp at cut

theorem length?_rest_lt {bytes rest : Bytes} {size : Nat} (sized : length? bytes = some (size, rest)) :
    rest.length < bytes.length := by
  unfold length? at sized
  split at sized
  · simp only at sized
    split at sized
    · simp only [Option.some.injEq, Prod.mk.injEq] at sized
      simp [← sized.2]
    · split at sized
      · split at sized
        · simp only [Option.some.injEq, Prod.mk.injEq] at sized
          simp only [← sized.2, List.length_cons]
          omega
        · simp at sized
      · split at sized
        · simp only [Option.some.injEq, Prod.mk.injEq] at sized
          simp only [← sized.2, List.length_cons]
          omega
        · simp at sized
      · simp at sized
  · simp at sized

/-- An element takes up at least one byte. -/
theorem element?_rest_lt {bytes rest : Bytes} {element : Element}
    (read : element? bytes = some (element, rest)) : rest.length < bytes.length := by
  cases bytes with
  | nil => simp [element?] at read
  | cons tag tail =>
    simp only [element?] at read
    split at read
    · simp at read
    · obtain ⟨⟨size, middle⟩, sized, read⟩ := Option.bind_eq_some_iff.1 read
      obtain ⟨⟨content, last⟩, cut, read⟩ := Option.bind_eq_some_iff.1 read
      simp only [pure, Option.some.injEq, Prod.mk.injEq] at read
      have shorter := length?_rest_lt sized
      have same := split?_rest_le cut
      dsimp only at shorter same
      simp only [← read.2, List.length_cons]
      omega

/-- All elements of the bytes, if they consist of elements of the given tag. -/
def all? (tag : Nat) (bytes : Bytes) : Option (List Bytes) :=
  if bytes.isEmpty then some []
  else match read : element? bytes with
    | none => none
    | some (element, rest) =>
      have := element?_rest_lt read
      if element.tag == tag then (all? tag rest).map (element.content :: ·) else none
  termination_by bytes.length

end Sluice.Der
