/-
  OrderBy.Value.SetTable
  ──────────────────────
  **THE ORDER OF THE MEMBERS OF A SET.**

  The members of a set stand in a table of 2ᵏ places, and the order of the places is
  the order in which a set is gone through.  A member's place is its hash modulo the
  size of the table or, if that is taken, the next one that a probe finds.  When
  three fifths of the places are taken, a table four times as large as its members
  takes over.

  The hash of a number depends on its value alone, and so does that of a tuple of
  such.  Other members have no fixed hash; sets with any of them are gone through in
  the order in which the members came.

      {10, 3, 17}   is gone through as   17, 10, 3      (1, 2 and 3 modulo 8)
-/
import OrderBy.Value

namespace OrderBy

/-! ## §1. Hashes. -/

namespace Number

/-- The prime that numbers are reduced by. -/
def modulus : Nat := Nat.pow 2 61 - 1

/-- The hash of a number, as far as it has one: its residue, of a fraction the
quotient of the residues, with the sign of the number.  A unit is the residue of
2 ^ 24, because 2 ^ 61 is that of one.  The hash -1 is not in use. -/
def hash? : Number → Option Int
  | exact units =>
    let h := Binary64.signed (units < 0) (units.natAbs * Nat.pow 2 24 % modulus)
    some (if h == -1 then -2 else h)
  | infinite negative => some (Binary64.signed negative 314159)
  | nan _ => none

end Number

namespace Value

/-- The primes by which the hashes of the items of a tuple are mixed. -/
def mixingPrimes : UInt64 × UInt64 × UInt64 :=
  (11400714785074694791, 14029467366897019727, 2870177450012600261)

/-- Mix the hash of one more item into a sum. -/
def mix (sum h : UInt64) : UInt64 :=
  let (p, q, _) := mixingPrimes
  let s := sum + h * q
  ((s <<< 31) ||| (s >>> 33)) * p

/-- The hash of a tuple whose items are mixed already. -/
def finish (sum : UInt64) (length : Nat) : UInt64 :=
  let (_, _, r) := mixingPrimes
  let h := sum + (UInt64.ofNat length ^^^ (r ^^^ 3527539))
  if h == 18446744073709551615 then 1546275796 else h

mutual

/-- The hash of a value that has a fixed one. -/
def hash? : Value → Option UInt64
  | tuple xs => (mixItems mixingPrimes.2.2 xs).map (fun sum => finish sum xs.length)
  | v =>
    match v.scalar? with
    | some (.number n) => n.hash?.map (fun h => UInt64.ofNat (h % (Nat.pow 2 64 : Int)).toNat)
    | _ => none
termination_by structural v => v

/-- The hashes of some items mixed into a sum. -/
def mixItems (sum : UInt64) : List Value → Option UInt64
  | [] => some sum
  | x :: xs => do mixItems (mix sum (← hash? x)) xs
termination_by structural xs => xs

end

end Value

/-! ## §2. Tables. -/

/-- A table of members and their hashes. -/
abbrev SetTable : Type := Array (Option (UInt64 × Value))

namespace SetTable

/-- The table of a size without members. -/
def empty (size : Nat) : SetTable := Array.replicate size none

/-- The members with their hashes, in the order of their places. -/
def entries (t : SetTable) : List (UInt64 × Value) := t.toList.filterMap id

/-- Whether nothing stands at a place. -/
def isFree (t : SetTable) (place : Nat) : Bool := (t[place]?.join).isNone

/-- A free place for a hash.  From a place on, nine more are tried if the table has
as many; then the probe goes to another place, which depends on what is left of the
hash. -/
def freePlace (t : SetTable) : Nat → Nat → UInt64 → Nat
  | 0, place, _ => place
  | fuel + 1, place, left =>
    let near := if place + 9 < t.size then (List.range 10).map (place + ·) else [place]
    match near.find? t.isFree with
    | some free => free
    | none =>
      let left := left >>> 5
      freePlace t fuel ((place * 5 + 1 + left.toNat) % t.size) left

/-- Put a member at a free place.  A hash is used up after thirteen probes, and from
then on a probe goes through all places. -/
def put (t : SetTable) (entry : UInt64 × Value) : SetTable :=
  let place := t.freePlace (t.size + 13) (entry.1.toNat % t.size) entry.1
  t.setIfInBounds place (some entry)

/-- The least power of two, from eight on, that is larger than a number. -/
def sizeFor (n : Nat) : Nat := max 8 (Nat.pow 2 (n.log2 + 1))

/-- Add a member to a table, of which there are then `count`; one that is full enough
is replaced by a larger one. -/
def add (t : SetTable) (count : Nat) (entry : UInt64 × Value) : SetTable :=
  let t := t.put entry
  if count * 5 < (t.size - 1) * 3 then t
  else t.entries.foldl put (empty (sizeFor (if 50000 < count then count * 2 else count * 4)))

/-- The table of some members, all of them different, which are added in order. -/
def ofEntries (es : List (UInt64 × Value)) : SetTable :=
  (es.foldl (fun (t, count) e => (t.add (count + 1) e, count + 1)) (empty 8, 0)).1

end SetTable

/-- The set of some values. -/
def Value.setOf (xs : List Value) : Value :=
  let members := xs.foldl insertMember []
  match members.mapM (fun x => x.hash?.map (fun h => (h, x))) with
  | some es => set ((SetTable.ofEntries es).entries.map Prod.snd)
  | none => set members

end OrderBy
