/-
  OrderBy.Yaml.Document
  ─────────────────────
  **THE VALUE OF A DOCUMENT.**

  A sequence becomes a list and a mapping a dictionary, in which a later entry
  replaces an earlier one with the same key.  Keys are scalars; an equals sign,
  which has no value, is as a key the text that it is.

  Of several faults in a document the one nearest to the root is reported, and of
  equally near ones the first:

      [[=], 0b_]   the number without digits, and not the equals sign
-/
import OrderBy.Yaml.Node
import OrderBy.Yaml.Plain

namespace OrderBy.Yaml

/-! ## §1. Values. -/

/-- The value of a scalar. -/
def scalarValue (text : List Char) (plain : Bool) : Except DocumentFault Value :=
  if plain then plainValue text else .ok (.text (String.ofList text))

namespace Node

/-- The value of a key, which must be a scalar. -/
def keyValue : Node → Except DocumentFault Value
  | scalar text plain =>
    if text == ['='] then .ok (.text "=") else scalarValue text plain
  | sequence _ | mapping _ => .error .malformed

mutual

/-- The value of a node. -/
def toValue : Node → Except DocumentFault Value
  | scalar text plain => scalarValue text plain
  | sequence items => .list <$> toValues items
  | mapping entries => Value.dictOf <$> toEntries entries
termination_by structural n => n

/-- The values of some nodes. -/
def toValues : List Node → Except DocumentFault (List Value)
  | [] => .ok []
  | n :: ns => do
    let v ← toValue n
    let vs ← toValues ns
    pure (v :: vs)
termination_by structural ns => ns

/-- The values of some entries. -/
def toEntries : List (Node × Node) → Except DocumentFault (List (Value × Value))
  | [] => .ok []
  | e :: es => do
    let v ← toEntry e
    let vs ← toEntries es
    pure (v :: vs)
termination_by structural es => es

/-- The values of an entry, the key first. -/
def toEntry : Node × Node → Except DocumentFault (Value × Value)
  | (k, n) => do
    let key ← keyValue k
    let v ← toValue n
    pure (key, v)
termination_by structural e => e

end

/-! ## §2. The fault that is reported. -/

/-- Faults by their distance from the root, the first at every distance. -/
abbrev FaultsByDepth : Type := List (Option DocumentFault)

/-- The fault that a result is. -/
def faultOf {α : Type} : Except DocumentFault α → Option DocumentFault
  | .ok _ => none
  | .error fault => some fault

/-- The faults of two parts, of which the first comes first. -/
def merge : FaultsByDepth → FaultsByDepth → FaultsByDepth
  | [], ys => ys
  | xs, [] => xs
  | x :: xs, y :: ys => x.or y :: merge xs ys

mutual

/-- The faults of a node. -/
def faults : Node → FaultsByDepth
  | scalar text plain => [faultOf (scalarValue text plain)]
  | sequence items => none :: faultsOfItems items
  | mapping entries => none :: faultsOfEntries entries
termination_by structural n => n

/-- The faults of some items. -/
def faultsOfItems : List Node → FaultsByDepth
  | [] => []
  | n :: ns => merge (faults n) (faultsOfItems ns)
termination_by structural ns => ns

/-- The faults of some entries. -/
def faultsOfEntries : List (Node × Node) → FaultsByDepth
  | [] => []
  | e :: es => merge (faultsOfEntry e) (faultsOfEntries es)
termination_by structural es => es

/-- The faults of an entry, that of the key first. -/
def faultsOfEntry : Node × Node → FaultsByDepth
  | (k, n) => merge [faultOf (keyValue k)] (faults n)
termination_by structural e => e

end

/-- The fault of a node that is reported, if there is any. -/
def fault? (n : Node) : Option DocumentFault := n.faults.findSome? id

/-- The value of a node, or the fault that is reported of it. -/
def read (n : Node) : Except DocumentFault Value :=
  match n.fault? with
  | some fault => .error fault
  | none => n.toValue

end Node

/-! ## §3. Documents. -/

/-- The value of the document that a text is; that of an empty document is
nothing. -/
def readDocument (text : List Char) : Except DocumentFault Value :=
  if text.all isAllowed then do
    let root ← Node.ofTokens (Token.ofText text)
    root.read
  else .error .malformed

end OrderBy.Yaml
