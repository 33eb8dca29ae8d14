import Sluice.Document.Toml.Lexeme

/-! The statements of TOML: values under keys, in sections that headers begin. -/

set_option autoImplicit false

namespace Sluice.Toml

inductive Value where
  | string (text : String)
  | number (n : Number)
  | bool (b : Bool)
  | moment
  | array (items : List Value)
  | table (pairs : List ((List String × String) × Value))
  deriving Inhabited

/-- A key with its value. -/
abbrev Pair := (List String × String) × Value

/-- The values and tables at most as deep as a bound; fuel bounds the steps. -/
def scalarValue? (text : List Char) : Option (Value × List Char) :=
  match text with
  | '"' :: _ | '\'' :: _ => (string? text).map fun (s, rest) => (.string s, rest)
  | 't' :: 'r' :: 'u' :: 'e' :: rest => some (.bool true, rest)
  | 'f' :: 'a' :: 'l' :: 's' :: 'e' :: rest => some (.bool false, rest)
  | _ =>
    match moment? text with
    | some rest => some (.moment, rest)
    | none => (number? text).map fun (n, rest) => (.number n, rest)

mutual

/-- A value; arrays and tables inside it may be nested up to a depth. -/
def value? : Nat → Nat → Lexer Value
  | 0, _, _ => none
  | fuel + 1, depth, text =>
    match text, depth with
    | '[' :: _, 0 | '\x7b' :: _, 0 => none
    | '[' :: rest, depth + 1 =>
      match skipSpace rest with
      | ']' :: rest => some (.array [], rest)
      | rest => (items? fuel depth rest).map fun (items, rest) => (.array items, rest)
    | '\x7b' :: rest, depth + 1 =>
      match skipBlanks rest with
      | '}' :: rest => some (.table [], rest)
      | rest => (pairs? fuel depth rest).map fun (pairs, rest) => (.table pairs, rest)
    | text, _ => scalarValue? text

/-- The items of an array up to its bracket; a comma may follow the last one. -/
def items? : Nat → Nat → Lexer (List Value)
  | 0, _, _ => none
  | fuel + 1, depth, text => do
    let (item, rest) ← value? fuel depth text
    match skipSpace rest with
    | ']' :: rest => return ([item], rest)
    | ',' :: rest =>
      match skipSpace rest with
      | ']' :: rest => return ([item], rest)
      | rest =>
        let (items, rest) ← items? fuel depth rest
        return (item :: items, rest)
    | _ => none

/-- The pairs of a table in braces, on one line. -/
def pairs? : Nat → Nat → Lexer (List Pair)
  | 0, _, _ => none
  | fuel + 1, depth, text => do
    let (key, rest) ← key? text
    let rest ← expect? '=' rest
    let (item, rest) ← value? fuel depth (skipBlanks rest)
    match skipBlanks rest with
    | '}' :: rest => return ([(key, item)], rest)
    | ',' :: rest =>
      let (pairs, rest) ← pairs? fuel depth rest
      return ((key, item) :: pairs, rest)
    | _ => none

end

/-- How a section begins: without a header, with the header of a table, or with that of one more table of an array. -/
inductive Header where
  | root
  | table (path : List String) (name : String)
  | element (path : List String) (name : String)

structure Section where
  header : Header
  pairs : List Pair

inductive Statement where
  | header (header : Header)
  | pair (pair : Pair)

/-- A statement with the end of its line. -/
def statement? (text : List Char) : Option (Statement × List Char) :=
  match text with
  | '[' :: '[' :: rest => do
    let ((path, name), rest) ← key? rest
    let rest ← (expect? ']' rest).bind (expect? ']')
    return (.header (.element path name), ← lineEnd? rest)
  | '[' :: rest => do
    let ((path, name), rest) ← key? rest
    let rest ← expect? ']' rest
    return (.header (.table path name), ← lineEnd? rest)
  | text => do
    let (key, rest) ← key? text
    let rest ← expect? '=' rest
    let (item, rest) ← value? (2 * text.length + 2) maxDepth (skipBlanks rest)
    return (.pair (key, item), ← lineEnd? rest)

/-- The statements of a text; lines may be empty or hold comments only. -/
def statements? : Nat → List Char → Option (List Statement)
  | 0, _ => none
  | fuel + 1, text =>
    match skipBlanks text with
    | [] => some []
    | rest =>
      match lineEnd? rest with
      | some rest => statements? fuel rest
      | none => do
        let (statement, rest) ← statement? rest
        let statements ← statements? fuel rest
        return statement :: statements

/-- Statements in their sections: the pairs before the first header, then the section of each header. -/
def sections : List Statement → List Pair × List Section
  | [] => ([], [])
  | .pair pair :: rest =>
    let (pairs, later) := sections rest
    (pair :: pairs, later)
  | .header header :: rest =>
    let (pairs, later) := sections rest
    ([], ⟨header, pairs⟩ :: later)

/-- The sections of a text, after a byte order mark if there is one. -/
def sections? (text : String) : Option (List Section) := do
  let chars := match text.toList with
    | '\uFEFF' :: rest => rest
    | chars => chars
  let (pairs, later) := sections (← statements? (chars.length + 1) chars)
  return ⟨.root, pairs⟩ :: later

end Sluice.Toml
