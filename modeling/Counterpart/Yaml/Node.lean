/-
YAML documents as nodes.  A text holds at most one document, and where a node could stand
but does not, there is an empty plain scalar.
-/
import Counterpart.Yaml.Layout

namespace Counterpart

/-- A node of a document. -/
inductive Yaml where
  | scalar (text : String) (plain : Bool)
  | sequence (items : List Yaml)
  | mapping (members : List (Yaml × Yaml))
  /-- A collection that nests too deep to be read. -/
  | unreadable
  deriving Inhabited

namespace Yaml

/-- What stands where there is no node. -/
def empty : Yaml := scalar "" true

/-- Whether the tokens start with one of some kinds. -/
def startsWith (kinds : List Token) (ts : List Token) : Bool :=
  (ts.head?).any kinds.contains

/-- The tokens that end a place inside a block mapping. -/
def blockBounds : List Token := [.key, .value, .blockEnd]

/-- Reads a node, or the empty one in front of some kinds of tokens. -/
def nodeUnless (bounds : List Token) (node? : List Token → Option (Yaml × List Token))
    (ts : List Token) : Option (Yaml × List Token) :=
  if startsWith bounds ts then some (empty, ts) else node? ts

/-- Reads a value behind its mark, or the empty node where there is no mark. -/
def valueAfterMark (bounds : List Token) (node? : List Token → Option (Yaml × List Token)) :
    List Token → Option (Yaml × List Token)
  | .value :: ts => nodeUnless bounds node? ts
  | ts => some (empty, ts)

/-- The tokens of a flow collection behind the comma that a further item needs. -/
def behindComma (first : Bool) (ts : List Token) : Option (List Token) :=
  if first then some ts
  else match ts with
    | .comma :: ts => some ts
    | _ => none

mutual

/-- Reads a node.  Block collections stand only in block places, and a sequence without
indentation of its own only where it is announced. -/
def node? : (fuel : Nat) → (block bare : Bool) → List Token → Option (Yaml × List Token)
  | 0, _, _, _ => none
  | fuel + 1, block, bare, ts =>
      match ts with
      | .scalar text plain :: ts => some (scalar text plain, ts)
      | .flowSequence :: ts => (flowItems? fuel true ts).map fun (is, ts) => (sequence is, ts)
      | .flowMapping :: ts => (flowMembers? fuel true ts).map fun (ms, ts) => (mapping ms, ts)
      | .blockSequence :: ts =>
          if block then (blockItems? fuel ts).map fun (is, ts) => (sequence is, ts) else none
      | .blockMapping :: ts =>
          if block then (blockMembers? fuel ts).map fun (ms, ts) => (mapping ms, ts) else none
      | .entry :: _ =>
          if bare then (bareItems? fuel ts).map fun (is, ts) => (sequence is, ts) else none
      | _ => none

/-- Reads the items of a block sequence up to its end. -/
def blockItems? : (fuel : Nat) → List Token → Option (List Yaml × List Token)
  | 0, _ => none
  | _ + 1, .blockEnd :: ts => some ([], ts)
  | fuel + 1, .entry :: ts => do
      let (item, ts) ← nodeUnless [.entry, .blockEnd] (node? fuel true false) ts
      let (items, ts) ← blockItems? fuel ts
      some (item :: items, ts)
  | _ + 1, _ => none

/-- Reads the items of a sequence that ends where no dash follows. -/
def bareItems? : (fuel : Nat) → List Token → Option (List Yaml × List Token)
  | 0, _ => none
  | fuel + 1, .entry :: ts => do
      let (item, ts) ← nodeUnless (.entry :: blockBounds) (node? fuel true false) ts
      let (items, ts) ← bareItems? fuel ts
      some (item :: items, ts)
  | _ + 1, ts => some ([], ts)

/-- Reads the members of a block mapping up to its end. -/
def blockMembers? : (fuel : Nat) → List Token → Option (List (Yaml × Yaml) × List Token)
  | 0, _ => none
  | _ + 1, .blockEnd :: ts => some ([], ts)
  | fuel + 1, .key :: ts => do
      let (key, ts) ← nodeUnless blockBounds (node? fuel true true) ts
      let (value, ts) ← valueAfterMark blockBounds (node? fuel true true) ts
      let (members, ts) ← blockMembers? fuel ts
      some ((key, value) :: members, ts)
  | _ + 1, _ => none

/-- Reads the items of a flow sequence up to its end.  An item with a colon is a mapping
of one member. -/
def flowItems? : (fuel : Nat) → (first : Bool) → List Token → Option (List Yaml × List Token)
  | 0, _, _ => none
  | _ + 1, _, .flowSequenceEnd :: ts => some ([], ts)
  | fuel + 1, first, ts => do
      match ← behindComma first ts with
      | .flowSequenceEnd :: ts => some ([], ts)
      | .key :: ts => do
          let bounds := [.value, .comma, .flowSequenceEnd]
          let (key, ts) ←
            if startsWith bounds ts then some (empty, ts.drop 1) else node? fuel false false ts
          let (value, ts) ←
            valueAfterMark [.comma, .flowSequenceEnd] (node? fuel false false) ts
          let (items, ts) ← flowItems? fuel false ts
          some (mapping [(key, value)] :: items, ts)
      | ts => do
          let (item, ts) ← node? fuel false false ts
          let (items, ts) ← flowItems? fuel false ts
          some (item :: items, ts)

/-- Reads the members of a flow mapping up to its end.  A member without a colon has the
empty node for its value. -/
def flowMembers? : (fuel : Nat) → (first : Bool) → List Token →
    Option (List (Yaml × Yaml) × List Token)
  | 0, _, _ => none
  | _ + 1, _, .flowMappingEnd :: ts => some ([], ts)
  | fuel + 1, first, ts => do
      match ← behindComma first ts with
      | .flowMappingEnd :: ts => some ([], ts)
      | .key :: ts => do
          let bounds := [.value, .comma, .flowMappingEnd]
          let (key, ts) ← nodeUnless bounds (node? fuel false false) ts
          let (value, ts) ←
            valueAfterMark [.comma, .flowMappingEnd] (node? fuel false false) ts
          let (members, ts) ← flowMembers? fuel false ts
          some ((key, value) :: members, ts)
      | ts => do
          let (key, ts) ← node? fuel false false ts
          let (members, ts) ← flowMembers? fuel false ts
          some ((key, empty) :: members, ts)

end

/-- The node of the only document among the tokens. -/
def ofTokens? (ts : List Token) : Option Yaml := do
  let (node, ts) ← match ts with
    | [] => some (empty, [])
    | .documentStart :: ts =>
        if ts.isEmpty then some (empty, [])
        else nodeUnless [.documentStart, .documentEnd] (node? (2 * ts.length) true false) ts
    | ts => node? (2 * ts.length) true false ts
  if (ts.dropWhile (· == .documentEnd)).isEmpty then some node else none

mutual

/-- The node with its collections down to a depth. -/
def cutAt (depth : Nat) : Yaml → Yaml
  | scalar text plain => scalar text plain
  | sequence items =>
      match depth with
      | 0 => unreadable
      | depth + 1 => sequence (cutItems depth items)
  | mapping members =>
      match depth with
      | 0 => unreadable
      | depth + 1 => mapping (cutMembers depth members)
  | unreadable => unreadable

def cutItems (depth : Nat) : List Yaml → List Yaml
  | [] => []
  | item :: items => cutAt depth item :: cutItems depth items

def cutMembers (depth : Nat) : List (Yaml × Yaml) → List (Yaml × Yaml)
  | [] => []
  | (key, value) :: members => (cutAt depth key, cutAt depth value) :: cutMembers depth members

end

/-- How deep collections are read. -/
def depthLimit : Nat := 128

/-- The node of a text.  Collections that nest deeper than the limit have no content. -/
def read? (cs : List Char) : Option Yaml :=
  ((tokens? cs).bind ofTokens?).map (cutAt depthLimit)

end Yaml

end Counterpart
