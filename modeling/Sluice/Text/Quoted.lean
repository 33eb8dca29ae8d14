import Sluice.Text.Printable

/-! Diagnostic text: quoted characters and strings, and the one-line outline of a nested record that is used in
messages and reports. -/

set_option autoImplicit false

namespace Sluice.Text

def hexText (n : Nat) : List Char := Nat.toDigits 16 n

/-- A character as it stands between quotes of the given kind. -/
def escapeChar (quote : Char) (c : Char) : List Char :=
  if c == '\t' then ['\\', 't']
  else if c == '\r' then ['\\', 'r']
  else if c == '\n' then ['\\', 'n']
  else if c == Char.ofNat 0 then ['\\', '0']
  else if c == '\\' || c == quote then ['\\', c]
  else if isPrintable c then [c]
  else ['\\', 'u', Char.ofNat 0x7B] ++ hexText c.toNat ++ [Char.ofNat 0x7D]

def quoteChar (c : Char) : String :=
  String.ofList (['\''] ++ escapeChar '\'' c ++ ['\''])

def quote (text : String) : String :=
  String.ofList (['"'] ++ text.toList.flatMap (escapeChar '"') ++ ['"'])

/-- The outline of a value. An open record does not show all of its fields. -/
inductive Outline where
  | atom (text : String)
  | record (name : String) (fields : List (String × Outline)) (isOpen : Bool)
  | wrapped (name : String) (content : Outline)
  | list (items : List Outline)
  | table (rows : List (Outline × Outline))

namespace Outline

def text (s : String) : Outline := .atom (quote s)

def flag (b : Bool) : Outline := .atom (if b then "true" else "false")

def nat (n : Nat) : Outline := .atom (toString n)

def option {α : Type} (show' : α → Outline) : Option α → Outline
  | none => .atom "None"
  | some a => .wrapped "Some" (show' a)

def closed (name : String) (fields : List (String × Outline)) : Outline := .record name fields false

mutual

def render : Outline → String
  | .atom s => s
  | .record name fields isOpen =>
    let body := renderFields fields
    if isOpen then
      if body.isEmpty then name ++ " \x7b .. \x7d" else name ++ " \x7b " ++ body ++ ", .. \x7d"
    else if body.isEmpty then name else name ++ " \x7b " ++ body ++ " \x7d"
  | .wrapped name content => name ++ "(" ++ content.render ++ ")"
  | .list items => "[" ++ renderItems items ++ "]"
  | .table rows => "\x7b" ++ renderRows rows ++ "\x7d"

def renderFields : List (String × Outline) → String
  | [] => ""
  | [(name, value)] => name ++ ": " ++ value.render
  | (name, value) :: rest => name ++ ": " ++ value.render ++ ", " ++ renderFields rest

def renderItems : List Outline → String
  | [] => ""
  | [item] => item.render
  | item :: rest => item.render ++ ", " ++ renderItems rest

def renderRows : List (Outline × Outline) → String
  | [] => ""
  | [(key, value)] => key.render ++ ": " ++ value.render
  | (key, value) :: rest => key.render ++ ": " ++ value.render ++ ", " ++ renderRows rest

end

end Outline

end Sluice.Text
