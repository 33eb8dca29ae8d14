import Sluice.Text.Ascii
import Sluice.Text.Blank

/-! Cookies of a request. A header is read leniently: a segment that is no pair, or whose name is empty, no token
or begins with a dollar sign, is dropped and disturbs no other. -/

set_option autoImplicit false

namespace Sluice

structure Cookie where
  name : String
  value : String
  deriving DecidableEq, Repr

namespace Cookie

/-- Removes one pair of double quotes around a text. -/
def stripQuotes (text : List Char) : List Char :=
  match text with
  | '"' :: rest => if rest.getLast? == some '"' then rest.dropLast else text
  | _ => text

def ofSegment? (segment : List Char) : Option Cookie :=
  match Text.splitOnce? '=' (Text.trim segment) with
  | none => none
  | some (name, value) =>
    let name := Text.trim name
    if name.isEmpty || name.head? == some '$' || !name.all Ascii.isTokenChar then none
    else some ⟨String.ofList name, String.ofList (stripQuotes (Text.trim value))⟩

def parse (header : String) : List Cookie :=
  (Text.splitOn ';' header.toList).filterMap ofSegment?

def text (cookie : Cookie) : String := cookie.name ++ "=" ++ cookie.value

end Cookie

end Sluice
