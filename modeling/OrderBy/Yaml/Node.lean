/-
  OrderBy.Yaml.Node
  ─────────────────
  **THE TREE OF A DOCUMENT.**

  Tokens are put together to a tree of scalars, sequences and mappings.  What may
  be left out, such as the value of a key, is an empty plain scalar.

      key: [a, {b: c, d}]   ↦   mapping [(key, sequence [a, mapping [(b, c), (d, ∅)]])]

  A text holds at most one document.
-/
import OrderBy.Yaml.Token

namespace OrderBy.Yaml

/-! ## §1. Nodes. -/

/-- A part of a document. -/
inductive Node where
  | scalar (text : List Char) (plain : Bool)
  | sequence (items : List Node)
  | mapping (entries : List (Node × Node))

namespace Node

/-- What stands for something left out. -/
def empty : Node := scalar [] true

/-- The fault of meeting these tokens where they do not fit. -/
def unexpected : List Token → DocumentFault
  | .unreadable fault :: _ => fault
  | _ => .malformed

/-- The kind of place that a node stands in: in a block, in a block where the
items of a sequence need no indentation of their own, or between brackets. -/
inductive Place where
  | block
  | blockOrItems
  | flow
  deriving DecidableEq, Repr

/-- Tokens that show that the item of a sequence was left out. -/
def endsItem : Token → Bool
  | .blockEntry | .blockEnd => true
  | _ => false

/-- Tokens that show that a part of a mapping, or the item of a sequence without
indentation, was left out. -/
def endsPart : Token → Bool
  | .key | .value | .blockEnd => true
  | _ => false

/-- Tokens that show that a part of an entry between brackets was left out;
`close` is the closing bracket. -/
def endsFlowPart (close : Token) (t : Token) : Bool := t == .flowEntry || t == close

/-! ## §2. From tokens to nodes. -/

mutual

/-- The node that begins here. -/
def node (place : Place) : Nat → List Token → Except DocumentFault (Node × List Token)
  | 0, ts => .error (unexpected ts)
  | fuel + 1, ts =>
    match ts with
    | .scalar text plain :: rest => .ok (scalar text plain, rest)
    | .flowSequenceStart :: rest => do
      let (items, rest) ← flowItems true fuel rest
      pure (sequence items, rest)
    | .flowMappingStart :: rest => do
      let (entries, rest) ← flowEntries true fuel rest
      pure (mapping entries, rest)
    | .blockSequenceStart :: rest =>
      if place == .flow then .error .malformed
      else do
        let (items, rest) ← blockItems fuel rest
        pure (sequence items, rest)
    | .blockMappingStart :: rest =>
      if place == .flow then .error .malformed
      else do
        let (entries, rest) ← blockEntries fuel rest
        pure (mapping entries, rest)
    | .blockEntry :: _ =>
      if place == .blockOrItems then do
        let (items, rest) ← plainItems fuel ts
        pure (sequence items, rest)
      else .error .malformed
    | _ => .error (unexpected ts)

/-- The node that begins here, unless the next token shows that there is none. -/
def optionalNode (place : Place) (ends : Token → Bool) :
    Nat → List Token → Except DocumentFault (Node × List Token)
  | 0, ts => .error (unexpected ts)
  | fuel + 1, ts =>
    if ts.head?.any ends then .ok (empty, ts) else node place fuel ts

/-- The items of an indented sequence, up to the end of its block. -/
def blockItems : Nat → List Token → Except DocumentFault (List Node × List Token)
  | 0, ts => .error (unexpected ts)
  | fuel + 1, ts =>
    match ts with
    | .blockEntry :: rest => do
      let (item, rest) ← optionalNode .block endsItem fuel rest
      let (items, rest) ← blockItems fuel rest
      pure (item :: items, rest)
    | .blockEnd :: rest => .ok ([], rest)
    | _ => .error (unexpected ts)

/-- The items of a sequence without indentation of its own. -/
def plainItems : Nat → List Token → Except DocumentFault (List Node × List Token)
  | 0, ts => .error (unexpected ts)
  | fuel + 1, ts =>
    match ts with
    | .blockEntry :: rest => do
      let (item, rest) ← optionalNode .block (fun t => t == .blockEntry || endsPart t) fuel rest
      let (items, rest) ← plainItems fuel rest
      pure (item :: items, rest)
    | _ => .ok ([], ts)

/-- The entries of a mapping in a block, up to its end. -/
def blockEntries : Nat → List Token → Except DocumentFault (List (Node × Node) × List Token)
  | 0, ts => .error (unexpected ts)
  | fuel + 1, ts =>
    match ts with
    | .key :: rest => do
      let (key, rest) ← optionalNode .blockOrItems endsPart fuel rest
      let (value, rest) ← blockValue fuel rest
      let (entries, rest) ← blockEntries fuel rest
      pure ((key, value) :: entries, rest)
    | .blockEnd :: rest => .ok ([], rest)
    | _ => .error (unexpected ts)

/-- The value behind a key in a block. -/
def blockValue : Nat → List Token → Except DocumentFault (Node × List Token)
  | 0, ts => .error (unexpected ts)
  | fuel + 1, ts =>
    match ts with
    | .value :: rest => optionalNode .blockOrItems endsPart fuel rest
    | _ => .ok (empty, ts)

/-- The value behind a key between brackets. -/
def flowValue (close : Token) : Nat → List Token → Except DocumentFault (Node × List Token)
  | 0, ts => .error (unexpected ts)
  | fuel + 1, ts =>
    match ts with
    | .value :: rest => optionalNode .flow (endsFlowPart close) fuel rest
    | _ => .ok (empty, ts)

/-- An entry between brackets, from behind the token for its key. -/
def flowEntry (close : Token) :
    Nat → List Token → Except DocumentFault ((Node × Node) × List Token)
  | 0, ts => .error (unexpected ts)
  | fuel + 1, ts => do
    let (key, rest) ←
      optionalNode .flow (fun t => t == .value || endsFlowPart close t) fuel ts
    let (value, rest) ← flowValue close fuel rest
    pure ((key, value), rest)

/-- The items of a sequence between brackets, up to the closing one; all but the
first stand behind a comma.  An entry among the items is a mapping of its own. -/
def flowItems (first : Bool) : Nat → List Token → Except DocumentFault (List Node × List Token)
  | 0, ts => .error (unexpected ts)
  | fuel + 1, ts =>
    match ts, first with
    | .flowSequenceEnd :: rest, _ => .ok ([], rest)
    | .flowEntry :: ts, false => flowItem fuel ts
    | ts, true => flowItem fuel ts
    | ts, false => .error (unexpected ts)

/-- One item of such a sequence and those behind it; there need be none. -/
def flowItem : Nat → List Token → Except DocumentFault (List Node × List Token)
  | 0, ts => .error (unexpected ts)
  | fuel + 1, ts =>
    match ts with
    | .flowSequenceEnd :: rest => .ok ([], rest)
    | .key :: rest => do
      let (entry, rest) ← flowEntry .flowSequenceEnd fuel rest
      let (items, rest) ← flowItems false fuel rest
      pure (mapping [entry] :: items, rest)
    | _ => do
      let (item, rest) ← node .flow fuel ts
      let (items, rest) ← flowItems false fuel rest
      pure (item :: items, rest)

/-- The entries of a mapping between brackets, up to the closing one.  An item
without a key is a key without a value. -/
def flowEntries (first : Bool) :
    Nat → List Token → Except DocumentFault (List (Node × Node) × List Token)
  | 0, ts => .error (unexpected ts)
  | fuel + 1, ts =>
    match ts, first with
    | .flowMappingEnd :: rest, _ => .ok ([], rest)
    | .flowEntry :: ts, false => oneFlowEntry fuel ts
    | ts, true => oneFlowEntry fuel ts
    | ts, false => .error (unexpected ts)

/-- One entry of such a mapping and those behind it; there need be none. -/
def oneFlowEntry : Nat → List Token → Except DocumentFault (List (Node × Node) × List Token)
  | 0, ts => .error (unexpected ts)
  | fuel + 1, ts =>
    match ts with
    | .flowMappingEnd :: rest => .ok ([], rest)
    | .key :: rest => do
      let (entry, rest) ← flowEntry .flowMappingEnd fuel rest
      let (entries, rest) ← flowEntries false fuel rest
      pure (entry :: entries, rest)
    | _ => do
      let (key, rest) ← node .flow fuel ts
      let (entries, rest) ← flowEntries false fuel rest
      pure ((key, empty) :: entries, rest)

end

/-! ## §3. Documents. -/

/-- Nothing but the ends of a document may follow. -/
def expectEnd : List Token → Except DocumentFault Unit
  | .streamEnd :: _ => .ok ()
  | .documentEnd :: rest => expectEnd rest
  | ts => .error (unexpected ts)

/-- Tokens that show that a document is empty. -/
def endsDocument : Token → Bool
  | .documentStart | .documentEnd | .streamEnd => true
  | _ => false

/-- The document that the tokens make up, which may be empty.  Every token takes
up at most four steps. -/
def ofTokens (ts : List Token) : Except DocumentFault Node := do
  let fuel := 4 * ts.length + 4
  match ts with
  | .streamEnd :: _ => pure empty
  | .documentStart :: rest =>
    let (root, rest) ← optionalNode .block endsDocument fuel rest
    expectEnd rest
    pure root
  | _ =>
    let (root, rest) ← node .block fuel ts
    expectEnd rest
    pure root

end Node

end OrderBy.Yaml
