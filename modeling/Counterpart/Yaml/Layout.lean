/-
The tokens of a text.  Outside flow collections the column of a token opens and closes
block collections.  What may turn out to be the key of a mapping is remembered with its
place, and becomes one when a colon follows on the same line.  Block scalars, anchors,
aliases, tags and directives are not read: a text with one of them has no tokens.
-/
import Counterpart.Yaml.Scalar

namespace Counterpart.Yaml

/-- A token that may turn out to open a key. -/
structure KeyPlace where
  /-- The number of tokens in front of it. -/
  token : Nat
  place : Place
  /-- Whether nothing but a key can stand there. -/
  required : Bool
  deriving DecidableEq, Repr

/-- How far a text has been read. -/
structure Layout where
  place : Place
  rest : List Char
  /-- The column of the innermost block collection. -/
  indent : Int
  /-- The columns of those around it, innermost first. -/
  outer : List Int
  /-- What may become a key at this level. -/
  key : Option KeyPlace
  /-- What may become a key at the levels around open flow collections. -/
  keys : List (Option KeyPlace)
  /-- Whether a key may start here. -/
  keyAllowed : Bool
  /-- The tokens so far, latest first. -/
  tokens : List Token
  /-- The number of tokens so far. -/
  count : Nat

namespace Layout

/-- The state in front of a text. -/
def start (cs : List Char) : Layout :=
  { place := ⟨0, 0, 0⟩, rest := cs, indent := -1, outer := [], key := none, keys := [],
    keyAllowed := true, tokens := [], count := 0 }

/-- Whether a flow collection is open. -/
def inFlow (s : Layout) : Bool := !s.keys.isEmpty

def emit (t : Token) (s : Layout) : Layout :=
  { s with tokens := t :: s.tokens, count := s.count + 1 }

/-- Goes on behind `n` characters of one byte each. -/
def skip (n : Nat) (s : Layout) : Layout :=
  { s with place := s.place.right n, rest := s.rest.drop n }

/-- Puts a token behind the first `n`. -/
def insertAt (n : Nat) (t : Token) (s : Layout) : Layout :=
  let later := s.count - n
  { s with tokens := s.tokens.take later ++ t :: s.tokens.drop later, count := s.count + 1 }

/-- Opens a block collection in front of token `n` if the column is deeper than that of
the innermost one. -/
def openBlock (column n : Nat) (t : Token) (s : Layout) : Layout :=
  if !s.inFlow && s.indent < column then
    { s.insertAt n t with indent := column, outer := s.indent :: s.outer }
  else s

/-- Closes levels deeper than a column: how many there are, and what remains. -/
def closing (column : Int) : Int → List Int → Nat × Int × List Int
  | indent, [] => (0, indent, [])
  | indent, up :: outer =>
      if column < indent then
        match closing column up outer with
        | (n, indent, outer) => (n + 1, indent, outer)
      else (0, indent, up :: outer)

/-- Closes the block collections deeper than a column. -/
def closeBlocks (column : Int) (s : Layout) : Layout :=
  if s.inFlow then s
  else match closing column s.indent s.outer with
    | (n, indent, outer) =>
        { s with
          indent := indent, outer := outer,
          tokens := List.replicate n Token.blockEnd ++ s.tokens, count := s.count + n }

/-- Forgets what might have become a key at this level, unless it had to. -/
def dropKey (s : Layout) : Option Layout :=
  if s.key.any (·.required) then none else some { s with key := none }

/-- Remembers that the next token may open a key, where keys may start. -/
def saveKey (s : Layout) : Option Layout :=
  if s.keyAllowed then
    s.dropKey.map fun s =>
      { s with
        key := some ⟨s.count, s.place, !s.inFlow && s.indent == (s.place.column : Int)⟩ }
  else some s

/-- The greatest number of bytes of a key. -/
def keyLimit : Nat := 1024

/-- Whether a key that opened at `k` can no longer be followed by its colon. -/
def isStale (p : Place) (k : KeyPlace) : Bool :=
  k.place.line < p.line || k.place.index + keyLimit < p.index

/-- A remembered key, unless it is stale; then it must not have been required. -/
def fresh? (p : Place) : Option KeyPlace → Option (Option KeyPlace)
  | some k => if isStale p k then (if k.required then none else some none) else some (some k)
  | none => some none

/-- Forgets what can no longer become a key. -/
def refreshKeys (s : Layout) : Option Layout := do
  let key ← fresh? s.place s.key
  let keys ← s.keys.mapM (fresh? s.place)
  some { s with key := key, keys := keys }

/-- Skips blanks, comments and line ends, and a byte order mark at the start of a line.
Behind a line end outside flow collections a key may start; where one may start, tabs are
not blanks. -/
def skipGap (flow : Bool) :
    (keyAllowed inComment : Bool) → Place → List Char → Bool × Place × List Char
  | keyAllowed, _, place, [] => (keyAllowed, place, [])
  | keyAllowed, inComment, place, c :: rest =>
      if isBreak c then skipGap flow (keyAllowed || !flow) false (place.after c) rest
      else if inComment || c == ' ' || (c == '\t' && (flow || !keyAllowed)) ||
          (place.column == 0 && isOrderMark c) then
        skipGap flow keyAllowed inComment (place.after c) rest
      else if c == '#' then skipGap flow keyAllowed true (place.after c) rest
      else (keyAllowed, place, c :: rest)

/-- The state in front of the next token. -/
def toToken (s : Layout) : Option Layout := do
  let (keyAllowed, place, rest) := skipGap s.inFlow s.keyAllowed false s.place s.rest
  let s ← refreshKeys { s with keyAllowed := keyAllowed, place := place, rest := rest }
  some (if rest.isEmpty then s else s.closeBlocks place.column)

/-- The mark of a document. -/
def takeMarker (t : Token) (s : Layout) : Option Layout :=
  (s.closeBlocks (-1)).dropKey.map fun s => { (s.emit t).skip 3 with keyAllowed := false }

/-- The opening of a flow collection. -/
def takeOpening (t : Token) (s : Layout) : Option Layout :=
  s.saveKey.map fun s =>
    { (s.emit t).skip 1 with keyAllowed := true, key := none, keys := s.key :: s.keys }

/-- The end of a flow collection. -/
def takeEnd (t : Token) (s : Layout) : Option Layout :=
  s.dropKey.map fun s =>
    { (s.emit t).skip 1 with
      keyAllowed := false, key := s.keys.head?.getD none, keys := s.keys.tail }

/-- A comma. -/
def takeComma (s : Layout) : Option Layout :=
  s.dropKey.map fun s => { (s.emit .comma).skip 1 with keyAllowed := true }

/-- Opens a block collection for the token that comes next, if none is open at its column;
outside flow collections such a token stands only where a key may start. -/
def openHere (t : Token) (s : Layout) : Option Layout :=
  if !s.inFlow && !s.keyAllowed then none
  else some (s.openBlock s.place.column s.count t)

/-- The dash of an entry. -/
def takeEntry (s : Layout) : Option Layout := do
  let s ← s.openHere .blockSequence
  let s ← s.dropKey
  some { (s.emit .entry).skip 1 with keyAllowed := true }

/-- The question mark of a key. -/
def takeKey (s : Layout) : Option Layout := do
  let s ← s.openHere .blockMapping
  let s ← s.dropKey
  some { (s.emit .key).skip 1 with keyAllowed := !s.inFlow }

/-- The colon of a value.  What was remembered becomes a key. -/
def takeValue (s : Layout) : Option Layout :=
  match s.key with
  | some k =>
      let s := (s.insertAt k.token .key).openBlock k.place.column k.token .blockMapping
      some { (s.emit .value).skip 1 with key := none, keyAllowed := false }
  | none =>
      (s.openHere .blockMapping).map fun s =>
        { (s.emit .value).skip 1 with keyAllowed := !s.inFlow }

/-- A scalar; a plain one is given by no quote. -/
def takeScalar (quote : Option Quote) (s : Layout) : Option Layout := do
  let s ← s.saveKey
  let run ← match quote with
    | none => plainWord s.inFlow (s.indent + 1) s.place [] s.rest
    | some quote => quotedWord quote (s.place.right 1) [] (s.rest.drop 1)
  let s := s.emit (.scalar (String.ofList run.text) quote.isNone)
  some { s with place := run.place, rest := run.rest, keyAllowed := run.brokeLine }

/-- The characters that open something else than a plain scalar. -/
def indicators : List Char :=
  ['-', '?', ':', ',', '[', ']', '\x7b', '\x7d', '#', '&', '*', '!', '|', '>', '\'', '"', '%',
    '@', '\x60']

/-- Whether a plain scalar may start with a character. -/
def startsPlain (flow : Bool) (c : Char) (rest : List Char) : Bool :=
  !(isSpace c || isBreak c || indicators.contains c) ||
    (c == '-' && !(rest.head?.any isSpace)) ||
    (!flow && (c == '?' || c == ':') && !atGap rest)

/-- Reads the token that starts with a character. -/
def take (c : Char) (rest : List Char) (s : Layout) : Option Layout :=
  match marker? s.place (c :: rest) with
  | some t => s.takeMarker t
  | none =>
      if s.place.column = 0 ∧ c = '%' then none
      else if c = '[' then s.takeOpening .flowSequence
      else if c = '\x7b' then s.takeOpening .flowMapping
      else if c = ']' then s.takeEnd .flowSequenceEnd
      else if c = '\x7d' then s.takeEnd .flowMappingEnd
      else if c = ',' then s.takeComma
      else if c = '-' && atGap rest then s.takeEntry
      else if c = '?' && (s.inFlow || atGap rest) then s.takeKey
      else if c = ':' && (s.inFlow || atGap rest) then s.takeValue
      else if c = '\'' then s.takeScalar (some .single)
      else if c = '"' then s.takeScalar (some .double)
      else if startsPlain s.inFlow c rest then s.takeScalar none
      else none

/-- Reads the tokens of the rest of the text; every step takes at least one character. -/
def run : (fuel : Nat) → Layout → Option (List Token)
  | 0, _ => none
  | fuel + 1, s => do
      let s ← s.toToken
      match s.rest with
      | [] => (s.closeBlocks (-1)).dropKey.map fun s => s.tokens.reverse
      | c :: rest => (s.take c rest).bind (run fuel)

end Layout

/-- The tokens of a text. -/
def tokens? (cs : List Char) : Option (List Token) :=
  (prepare? cs).bind fun cs => (Layout.start cs).run (cs.length + 1)

end Counterpart.Yaml
