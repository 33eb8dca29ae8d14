import Sluice.Document.Yaml.Node

/-! Documents from YAML nodes, with aliases replaced by what they refer to. An anchor gets the number of names that were
known before it, so an anchor after a name that is used again may take over the number of an earlier one. An
alias may stand inside the node that it refers to; it is followed only as deep as any setting lies. -/

set_option autoImplicit false

namespace Sluice.Yaml

abbrev Names := List (String × Nat)

def Names.put (names : Names) (name : String) (number : Nat) : Names :=
  match names with
  | [] => [(name, number)]
  | (other, old) :: rest =>
    if other == name then (name, number) :: rest else (other, old) :: Names.put rest name number

namespace Node

/-- The number of an anchor at the start of its node. -/
def label (names : Names) : Option String → Option Nat × Names
  | none => (none, names)
  | some name => (some names.length, names.put name names.length)

mutual

/-- Replaces names by numbers in the order of the text; none if an alias stands before its anchor. -/
def number? (names : Names) : Node String → Option (Node Nat × Names)
  | .alias name => do
    let number ← names.lookup name
    return (.alias number, names)
  | .scalar anchor content =>
    let (anchor, names) := label names anchor
    some (.scalar anchor content, names)
  | .sequence anchor items => do
    let (anchor, names) := label names anchor
    let (items, names) ← numberItems? names items
    return (.sequence anchor items, names)
  | .mapping anchor pairs => do
    let (anchor, names) := label names anchor
    let (pairs, names) ← numberPairs? names pairs
    return (.mapping anchor pairs, names)

def numberItems? (names : Names) : List (Node String) → Option (List (Node Nat) × Names)
  | [] => some ([], names)
  | item :: rest => do
    let (item, names) ← number? names item
    let (items, names) ← numberItems? names rest
    return (item :: items, names)

def numberPairs? (names : Names) :
    List (Node String × Node String) → Option (List (Node Nat × Node Nat) × Names)
  | [] => some ([], names)
  | (key, value) :: rest => do
    let (key, names) ← number? names key
    let (value, names) ← number? names value
    let (pairs, names) ← numberPairs? names rest
    return ((key, value) :: pairs, names)

end

mutual

/-- The nodes with anchors, the later ones first. -/
def anchored (found : List (Nat × Node Nat)) : Node Nat → List (Nat × Node Nat)
  | .alias _ => found
  | .scalar (some number) content => (number, .scalar (some number) content) :: found
  | .scalar none _ => found
  | .sequence (some number) items => anchoredItems ((number, .sequence (some number) items) :: found) items
  | .sequence none items => anchoredItems found items
  | .mapping (some number) pairs => anchoredPairs ((number, .mapping (some number) pairs) :: found) pairs
  | .mapping none pairs => anchoredPairs found pairs

def anchoredItems (found : List (Nat × Node Nat)) : List (Node Nat) → List (Nat × Node Nat)
  | [] => found
  | item :: rest => anchoredItems (anchored found item) rest

def anchoredPairs (found : List (Nat × Node Nat)) : List (Node Nat × Node Nat) → List (Nat × Node Nat)
  | [] => found
  | (key, value) :: rest => anchoredPairs (anchored (anchored found key) value) rest

end

def fieldName? : Document → Option String
  | .scalar content => some content.value
  | _ => none

mutual

/-- The document of a node, given those that aliases refer to. -/
def document (known : List (Nat × Document)) : Node Nat → Document
  | .alias number => (known.lookup number).getD .unusable
  | .scalar _ content => .scalar content
  | .sequence _ items => .sequence (documents known items)
  | .mapping _ pairs => .mapping (fields known pairs)

def documents (known : List (Nat × Document)) : List (Node Nat) → List Document
  | [] => []
  | item :: rest => document known item :: documents known rest

def fields (known : List (Nat × Document)) : List (Node Nat × Node Nat) → List (Option String × Document)
  | [] => []
  | (key, value) :: rest => (fieldName? (document known key), document known value) :: fields known rest

end

/-- What aliases refer to, followed to a depth. -/
def known (found : List (Nat × Node Nat)) : Nat → List (Nat × Document)
  | 0 => []
  | depth + 1 =>
    let before := known found depth
    found.map fun (number, node) => (number, node.document before)

end Node

/-- No setting lies deeper. -/
def aliasDepth : Nat := 8

def readText? (text : String) : Option Document := do
  match ← document? (← tokens? text) with
  | none => return .void
  | some node =>
    let (node, _) ← node.number? []
    return node.document (Node.known (node.anchored []) aliasDepth)

end Sluice.Yaml
