import Sluice.Document.Yaml.Token

/-! The nodes that the tokens of a YAML text form. What is left out between tokens is an empty plain scalar. -/

set_option autoImplicit false

namespace Sluice.Yaml

/-- A node; anchors and aliases carry labels. -/
inductive Node (Label : Type) where
  | alias (label : Label)
  | scalar (anchor : Option Label) (scalar : Scalar)
  | sequence (anchor : Option Label) (items : List (Node Label))
  | mapping (anchor : Option Label) (pairs : List (Node Label × Node Label))

/-- Takes something from the front of the tokens. -/
abbrev Parser (α : Type) := List Token → Option (α × List Token)

/-- What tag handles stand for. -/
abbrev Handles := List (String × Bytes)

def standardHandles : Handles := [("!", Bytes.ofText "!"), ("!!", Bytes.ofText (Scalar.commonTag ""))]

namespace Node

def missing : Node String := .scalar none ⟨"", .plain, none⟩

/-- An anchor and a tag, in either order. -/
def properties : List Token → Option String × Option Tag × List Token
  | .anchor name :: .tag tag :: rest => (some name, some tag, rest)
  | .tag tag :: .anchor name :: rest => (some name, some tag, rest)
  | .anchor name :: rest => (some name, none, rest)
  | .tag tag :: rest => (none, some tag, rest)
  | tokens => (none, none, tokens)

/-- The full text of a tag; none if its handle is unknown. A tag that is no text equals no other. -/
def fullTag? (handles : Handles) (tag : Tag) : Option String :=
  let text (bytes : Bytes) : String := (Bytes.toText? bytes).getD "?"
  if tag.handle.isEmpty then some (text tag.suffix)
  else (handles.lookup tag.handle).map fun stem => text (stem ++ tag.suffix)

/-- The lone exclamation mark says nothing about a scalar. -/
def scalarTag (tag : Option String) : Option String := if tag == some "!" then none else tag

/-- Whether a token can only stand after a missing node of a block. -/
def endsBlockNode : Token → Bool
  | .key | .value | .blockEnd => true
  | _ => false

def endsBlockEntry : Token → Bool
  | .blockEntry | .blockEnd => true
  | _ => false

def endsFlowItem : Token → Bool
  | .flowEntry | .flowSequenceEnd => true
  | _ => false

def endsFlowPair : Token → Bool
  | .flowEntry | .flowMappingEnd => true
  | _ => false

def isValueMark : Token → Bool
  | .value => true
  | _ => false

/-- Whether the next token is in a class. -/
def meets (p : Token → Bool) : List Token → Bool
  | [] => false
  | token :: _ => p token

/-- Between the items of brackets stands a comma. -/
def afterComma? (isFirst : Bool) (tokens : List Token) : Option (List Token) :=
  if isFirst then some tokens
  else match tokens with
    | .flowEntry :: rest => some rest
    | _ => none

mutual

/-- A node. Blocks stand outside of brackets only; the items of a sequence may stand at the column of their key. -/
def read? (handles : Handles) : Nat → Bool → Bool → Parser (Node String)
  | 0, _, _, _ => none
  | fuel + 1, inBlock, besideKey, tokens =>
    match tokens with
    | .alias name :: rest => some (.alias name, rest)
    | _ =>
      let (anchor, tag, tokens) := properties tokens
      let named := anchor.isSome || tag.isSome
      let full : Option (Option String) := match tag with
        | none => some none
        | some tag => (fullTag? handles tag).map some
      match full with
      | none => none
      | some tag =>
        match tokens with
        | .scalar style text :: rest => some (.scalar anchor ⟨text, style, scalarTag tag⟩, rest)
        | .flowSequence :: rest =>
          (flowItems? handles fuel true rest).map fun (items, rest) => (.sequence anchor items, rest)
        | .flowMapping :: rest =>
          (flowPairs? handles fuel true rest).map fun (pairs, rest) => (.mapping anchor pairs, rest)
        | token :: rest =>
          match token, inBlock, besideKey with
          | .blockEntry, _, true =>
            (entriesBesideKey? handles fuel tokens).map fun (items, rest) => (.sequence anchor items, rest)
          | .blockSequence, true, _ =>
            (blockEntries? handles fuel rest).map fun (items, rest) => (.sequence anchor items, rest)
          | .blockMapping, true, _ =>
            (blockPairs? handles fuel rest).map fun (pairs, rest) => (.mapping anchor pairs, rest)
          | _, _, _ => if named then some (.scalar anchor ⟨"", .plain, tag⟩, tokens) else none
        | [] => none

/-- A node, unless a token says that it is missing. -/
def readUnless? (handles : Handles) :
    Nat → (Token → Bool) → Bool → Bool → Parser (Node String)
  | 0, _, _, _, _ => none
  | fuel + 1, ends, inBlock, besideKey, tokens =>
    if meets ends tokens then some (missing, tokens) else read? handles fuel inBlock besideKey tokens

/-- The entries of a block sequence up to its end. -/
def blockEntries? (handles : Handles) : Nat → Parser (List (Node String))
  | 0, _ => none
  | fuel + 1, tokens =>
    match tokens with
    | .blockEntry :: rest => do
      let (item, rest) ← readUnless? handles fuel endsBlockEntry true false rest
      let (items, rest) ← blockEntries? handles fuel rest
      return (item :: items, rest)
    | .blockEnd :: rest => some ([], rest)
    | _ => none

/-- The entries of a sequence that stands at the column of its key; another token ends it. -/
def entriesBesideKey? (handles : Handles) : Nat → Parser (List (Node String))
  | 0, _ => none
  | fuel + 1, tokens =>
    match tokens with
    | .blockEntry :: rest => do
      let (item, rest) ←
        readUnless? handles fuel (fun t => endsBlockEntry t || endsBlockNode t) true false rest
      let (items, rest) ← entriesBesideKey? handles fuel rest
      return (item :: items, rest)
    | _ => some ([], tokens)

/-- The value after a colon; without one it is missing. -/
def valueAfter? (handles : Handles) : Nat → (Token → Bool) → Bool → Parser (Node String)
  | 0, _, _, _ => none
  | fuel + 1, ends, inBlock, tokens =>
    match tokens with
    | .value :: rest => readUnless? handles fuel ends inBlock inBlock rest
    | _ => some (missing, tokens)

/-- The pairs of a block mapping up to its end. -/
def blockPairs? (handles : Handles) : Nat → Parser (List (Node String × Node String))
  | 0, _ => none
  | fuel + 1, tokens =>
    match tokens with
    | .key :: rest => do
      let (key, rest) ← readUnless? handles fuel endsBlockNode true true rest
      let (value, rest) ← valueAfter? handles fuel endsBlockNode true rest
      let (pairs, rest) ← blockPairs? handles fuel rest
      return ((key, value) :: pairs, rest)
    | .blockEnd :: rest => some ([], rest)
    | _ => none

/-- The items between square brackets. An item with a key is a mapping of one pair; if the key is missing, the token
that says so is lost. -/
def flowItems? (handles : Handles) : Nat → Bool → Parser (List (Node String))
  | 0, _, _ => none
  | fuel + 1, isFirst, tokens =>
    match tokens with
    | .flowSequenceEnd :: rest => some ([], rest)
    | _ =>
      match afterComma? isFirst tokens with
      | none => none
      | some (.flowSequenceEnd :: rest) => some ([], rest)
      | some (.key :: rest) => do
        let (key, rest) ←
          if meets (fun t => endsFlowItem t || isValueMark t) rest then some (missing, rest.drop 1)
          else read? handles fuel false false rest
        let (value, rest) ← valueAfter? handles fuel endsFlowItem false rest
        let (items, rest) ← flowItems? handles fuel false rest
        return (.mapping none [(key, value)] :: items, rest)
      | some tokens => do
        let (item, rest) ← read? handles fuel false false tokens
        let (items, rest) ← flowItems? handles fuel false rest
        return (item :: items, rest)

/-- The pairs between braces; without a key mark there is no value. -/
def flowPairs? (handles : Handles) : Nat → Bool → Parser (List (Node String × Node String))
  | 0, _, _ => none
  | fuel + 1, isFirst, tokens =>
    match tokens with
    | .flowMappingEnd :: rest => some ([], rest)
    | _ =>
      match afterComma? isFirst tokens with
      | none => none
      | some (.flowMappingEnd :: rest) => some ([], rest)
      | some (.key :: rest) => do
        let (key, rest) ← readUnless? handles fuel (fun t => endsFlowPair t || isValueMark t) false false rest
        let (value, rest) ← valueAfter? handles fuel endsFlowPair false rest
        let (pairs, rest) ← flowPairs? handles fuel false rest
        return ((key, value) :: pairs, rest)
      | some tokens => do
        let (key, rest) ← read? handles fuel false false tokens
        let (pairs, rest) ← flowPairs? handles fuel false rest
        return ((key, missing) :: pairs, rest)

end

end Node

/-! Streams of documents -/

/-- Adds a directive; a document has one version, which is 1.1 or 1.2, and declares no handle twice. -/
def addDirective? (versioned : Bool) (declared : Handles) : Directive → Option (Bool × Handles)
  | .version major minor =>
    if versioned || major != 1 || (minor != 1 && minor != 2) then none else some (true, declared)
  | .tag handle stem =>
    if (declared.lookup handle).isSome then none else some (versioned, declared ++ [(handle, stem)])

/-- The directives in front of a document and what they declare. -/
def directives? (versioned : Bool) (declared : Handles) : Parser Handles
  | .directive directive :: rest => do
    let (versioned, declared) ← addDirective? versioned declared directive
    directives? versioned declared rest
  | tokens => some (declared, tokens)

def endsDocument : Token → Bool
  | .directive _ | .documentStart | .documentEnd | .streamEnd => true
  | _ => false

def isDocumentEnd : Token → Bool
  | .documentEnd => true
  | _ => false

/-- The only document of a stream, or nothing if the stream is empty. -/
def document? (tokens : List Token) : Option (Option (Node String)) := do
  let fuel := 4 * tokens.length + 4
  let (node, rest) ← match tokens with
    | .streamEnd :: _ => some (none, tokens)
    | .directive _ :: _ | .documentStart :: _ => do
      let (declared, rest) ← directives? false [] tokens
      match rest with
      | .documentStart :: rest =>
        let (node, rest) ← Node.readUnless? (declared ++ standardHandles) fuel endsDocument true false rest
        pure (some node, rest)
      | _ => none
    | _ => do
      let (node, rest) ← Node.read? standardHandles fuel true false tokens
      pure (some node, rest)
  match rest.dropWhile isDocumentEnd with
  | [.streamEnd] => return node
  | _ => none

end Sluice.Yaml
