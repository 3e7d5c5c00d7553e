/-
  OrderBy.Value
  ─────────────
  **THE VALUES THAT RECORDS HOLD.**

  Records are dynamic: a field may hold nothing, a truth value, a number, text,
  bytes, a sequence, a set or a dictionary, nested to any depth.  Two kinds of
  value serve observation: a *probe* wraps a value and records every comparison
  it takes part in, and may be made to fail when it is the left operand; an
  *object* stands for a thing that has an identity and no order.
-/
import OrderBy.Number.Binary64
import OrderBy.SortKey

namespace OrderBy

/-! ## §1. The type. -/

/-- A failure that a record, an extractor or a probe brings up itself: its kind
and its text. -/
structure Raised where
  kind : String
  text : String
  deriving DecidableEq, Repr

/-- A dynamic value. -/
inductive Value where
  | null
  | bool (b : Bool)
  | int (n : Int)
  | float (x : Binary64)
  | text (s : String)
  | bytes (bs : List UInt8)
  | list (items : List Value)
  | tuple (items : List Value)
  | set (members : List Value)
  | dict (entries : List (Value × Value))
  /-- A direction; as a text it is its name. -/
  | direction (d : Direction)
  | key (k : SortKey)
  /-- A value whose comparisons are recorded under its label. -/
  | probe (id : Identity) (label : String) (value : Value) (raises : Option Raised)
  /-- A thing of a class, told apart from others by its number only. -/
  | object (className : String) (id : Nat)

namespace Value

/-- The name of the value's type, as messages show it. -/
def typeName : Value → String
  | null => "NoneType"
  | bool _ => "bool"
  | int _ => "int"
  | float _ => "float"
  | text _ => "str"
  | bytes _ => "bytes"
  | list _ => "list"
  | tuple _ => "tuple"
  | set _ => "set"
  | dict _ => "dict"
  | direction _ => "SortDirection"
  | key _ => "SortKey"
  | probe _ _ _ _ => "Spy"
  | object className _ => className

/-- The text that the value is, a direction being its name. -/
def text? : Value → Option String
  | text s => some s
  | direction d => some d.name
  | _ => none

/-- The integer that the value counts as, a truth value being 0 or 1. -/
def int? : Value → Option Int
  | int n => some n
  | bool b => some (if b then 1 else 0)
  | _ => none

/-- Whether the value counts as true: everything but nothing, false, zero and
what is empty. -/
def isTruthy : Value → Bool
  | null => false
  | bool b => b
  | int n => n != 0
  | float x => !x.isZero
  | text s => !s.isEmpty
  | bytes bs => !bs.isEmpty
  | list xs | tuple xs | set xs => !xs.isEmpty
  | dict es => !es.isEmpty
  | direction _ | key _ | probe _ _ _ _ | object _ _ => true

mutual

/-- The type of the first part that keeps the value from being a member of a set
or a key of a dictionary: a list, a set or a dictionary, inside tuples too. -/
def unhashable? : Value → Option String
  | v@(list _) | v@(set _) | v@(dict _) => some v.typeName
  | tuple xs => unhashableItem? xs
  | _ => none
termination_by structural v => v

/-- The same for the first such item. -/
def unhashableItem? : List Value → Option String
  | [] => none
  | x :: xs => (unhashable? x).or (unhashableItem? xs)
termination_by structural xs => xs

end

/-- The values that iteration over the value gives, if it can be iterated over. -/
def items? : Value → Option (List Value)
  | text s => some (s.toList.map (fun c => text c.toString))
  | direction d => some (d.name.toList.map (fun c => text c.toString))
  | bytes bs => some (bs.map (fun b => int b.toNat))
  | list xs | tuple xs | set xs => some xs
  | dict es => some (es.map Prod.fst)
  | key k => some [tuple [text "field", text k.field], tuple [text "direction", direction k.direction]]
  | _ => none

end Value

/-! ## §2. Ordered scalars. -/

/-- The exact number that a numeric value is. -/
inductive Number where
  /-- A finite number, in units of 2⁻¹⁰⁷⁴. -/
  | exact (units : Int)
  | infinite (negative : Bool)
  /-- Not a number; the mark tells such values apart. -/
  | nan (mark : Identity)
  deriving DecidableEq

namespace Number

/-- The number of a double. -/
def ofBinary64 : Binary64 → Number
  | .finite negative rank => exact (Binary64.signed negative (Binary64.unitsOfRank rank))
  | .infinite negative => infinite negative
  | .nan mark => nan mark

/-- The number of an integer. -/
def ofInt (n : Int) : Number := exact (n * Binary64.unitsPerOne)

/-- The exact order; what is not a number is neither below nor above anything. -/
def less : Number → Number → Bool
  | exact a, exact b => decide (a < b)
  | infinite true, exact _ => true
  | exact _, infinite false => true
  | infinite true, infinite false => true
  | _, _ => false

end Number

/-- The values with a scalar order: numbers, texts and bytes, each kind ordered
in itself only. -/
inductive Scalar where
  | number (n : Number)
  | text (s : String)
  | bytes (bs : List UInt8)
  deriving DecidableEq

/-- The order of two scalars of one kind; texts go by code point. -/
def Scalar.less? : Scalar → Scalar → Option Bool
  | number a, number b => some (a.less b)
  | text s, text t => some (decide (s < t))
  | bytes a, bytes b => some (decide (a < b))
  | _, _ => none

/-- The scalar that a value is, if it is one. -/
def Value.scalar? : Value → Option Scalar
  | bool b => some (.number (.ofInt (if b then 1 else 0)))
  | int n => some (.number (.ofInt n))
  | float x => some (.number (.ofBinary64 x))
  | text s => some (.text s)
  | direction d => some (.text d.name)
  | bytes bs => some (.bytes bs)
  | _ => none

/-! ## §3. Sameness. -/

namespace Value

mutual

/-- Whether two values are the same object or equal.  Sets and dictionaries are
the same if they have the same members or entries, in any order; values that are
not a number, and probes, are the same as themselves only. -/
def same : Value → Value → Bool
  | null, null => true
  | list xs, list ys => sameItems xs ys
  | tuple xs, tuple ys => sameItems xs ys
  | set xs, set ys => xs.length == ys.length && membersOf xs ys
  | dict es, dict fs => es.length == fs.length && entriesOf es fs
  | key k, key l => decide (k = l)
  | probe i _ _ _, probe j _ _ _ => i == j
  | object c i, object d j => c == d && i == j
  | a, b =>
    match a.scalar?, b.scalar? with
    | some x, some y => decide (x = y)
    | _, _ => false
termination_by structural x => x

/-- Whether two sequences have the same items at every position. -/
def sameItems : List Value → List Value → Bool
  | [], [] => true
  | x :: xs, y :: ys => same x y && sameItems xs ys
  | _, _ => false
termination_by structural x => x

/-- Whether every member of the first set is one of the second. -/
def membersOf : List Value → List Value → Bool
  | [], _ => true
  | x :: xs, ys => ys.any (fun y => same x y) && membersOf xs ys
termination_by structural x => x

/-- Whether every entry of the first dictionary is one of the second. -/
def entriesOf : List (Value × Value) → List (Value × Value) → Bool
  | [], _ => true
  | e :: es, fs => fs.any (fun f => sameEntry e f) && entriesOf es fs
termination_by structural x => x

/-- Whether two entries have the same key and the same value. -/
def sameEntry : Value × Value → Value × Value → Bool
  | (k, v), (l, w) => same k l && same v w
termination_by structural x => x

end

/-! ## §4. Sets and dictionaries. -/

/-- Add a member to a set, unless it is there. -/
def insertMember (members : List Value) (x : Value) : List Value :=
  if members.any (same x) then members else members ++ [x]

/-- Put an entry into a dictionary: in the place of the entry with the same key,
whose key stays, or at the end. -/
def putEntry (k v : Value) : List (Value × Value) → List (Value × Value)
  | [] => [(k, v)]
  | (l, w) :: es => if same k l then (l, v) :: es else (l, w) :: putEntry k v es

/-- The dictionary that some entries make, later ones replacing earlier ones. -/
def dictOf (es : List (Value × Value)) : Value :=
  dict (es.foldl (fun d e => putEntry e.1 e.2 d) [])

/-- The value at a key of a dictionary. -/
def getEntry? (k : Value) (es : List (Value × Value)) : Option Value :=
  (es.find? (fun e => same k e.1)).map Prod.snd

/-- The dictionary whose keys are texts. -/
def dictOfTexts (es : List (String × Value)) : List (Value × Value) :=
  es.map (fun e => (text e.1, e.2))

/-! ## §5. Copies. -/

mutual

/-- A copy of a value: everything in it that has an identity gets that of the copy
with this number.  Objects are not copied. -/
def copied (n : Nat) : Value → Value
  | float (.nan mark) => float (.nan (mark.copied n))
  | list xs => list (copiedItems n xs)
  | tuple xs => tuple (copiedItems n xs)
  | set xs => set (copiedItems n xs)
  | dict es => dict (copiedEntries n es)
  | probe id label v raises => probe (id.copied n) label (copied n v) raises
  | v => v
termination_by structural v => v

/-- Copies of some values. -/
def copiedItems (n : Nat) : List Value → List Value
  | [] => []
  | x :: xs => copied n x :: copiedItems n xs
termination_by structural xs => xs

/-- Copies of some entries. -/
def copiedEntries (n : Nat) : List (Value × Value) → List (Value × Value)
  | [] => []
  | e :: es => copiedEntry n e :: copiedEntries n es
termination_by structural es => es

/-- A copy of an entry. -/
def copiedEntry (n : Nat) : Value × Value → Value × Value
  | (k, v) => (copied n k, copied n v)
termination_by structural e => e

end

end Value

end OrderBy
