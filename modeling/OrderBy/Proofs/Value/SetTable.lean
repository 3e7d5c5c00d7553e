/-
  OrderBy.Proofs.Value.SetTable
  ─────────────────────────────
  **A TABLE LOSES NO MEMBER OF ITS SET.**

  The order in which a set is gone through is a rearrangement of its members.  For that
  every member must get a place that is free:

      room      a table always has more places than members
      probes    from the fourteenth on, a probe goes from `x` to `5 x + 1`, modulo 2ᵏ

  Such probes go through all places, whichever they begin with: `4 (5 x + 1) + 1` is
  `5 (4 x + 1)`, and modulo 2ᵏ⁺² the powers of 5 repeat themselves only after 2ᵏ of them.
  So a free place is found before the probes are used up.
-/
import Mathlib.RingTheory.ZMod.UnitsCyclic
import OrderBy.Proofs.Order.Sameness
import OrderBy.Value.SetTable

namespace OrderBy

namespace SetTable

/-! ## §1. Probes go through all places. -/

/-- The place that a probe goes to when the hash is used up. -/
def nextPlace (size x : Nat) : Nat := (x * 5 + 1) % size

theorem nextPlace_cast (k x : Nat) :
    ((4 * nextPlace (2 ^ k) x + 1 : Nat) : ZMod (2 ^ (k + 2)))
      = 5 * ((4 * x + 1 : Nat) : ZMod (2 ^ (k + 2))) := by
  have whole : 4 * nextPlace (2 ^ k) x + 1 + 2 ^ (k + 2) * ((x * 5 + 1) / 2 ^ k)
      = 5 * (4 * x + 1) := by
    have parts := Nat.mod_add_div (x * 5 + 1) (2 ^ k)
    unfold nextPlace
    rw [pow_add]
    linarith
  have cast := congrArg (Nat.cast : Nat → ZMod (2 ^ (k + 2))) whole
  rw [Nat.cast_add, Nat.cast_mul (2 ^ (k + 2)), ZMod.natCast_self, zero_mul, add_zero] at cast
  rw [cast, Nat.cast_mul]
  rfl

/-- After some probes, a power of five has been multiplied with. -/
theorem iterate_nextPlace_cast (k x n : Nat) :
    ((4 * (nextPlace (2 ^ k))^[n] x + 1 : Nat) : ZMod (2 ^ (k + 2)))
      = 5 ^ n * ((4 * x + 1 : Nat) : ZMod (2 ^ (k + 2))) := by
  induction n with
  | zero =>
      rw [pow_zero, one_mul]
      rfl
  | succ n ih =>
      rw [Function.iterate_succ_apply', nextPlace_cast, ih, pow_succ']
      ring

theorem iterate_nextPlace_lt {k x : Nat} (h : x < 2 ^ k) (n : Nat) :
    (nextPlace (2 ^ k))^[n] x < 2 ^ k := by
  cases n with
  | zero => exact h
  | succ n =>
      rw [Function.iterate_succ_apply']
      exact Nat.mod_lt _ (Nat.two_pow_pos k)

/-- Fewer probes than there are places do not come upon a place twice. -/
theorem iterate_nextPlace_inj {k x n m : Nat} (hn : n < 2 ^ k) (hm : m < 2 ^ k)
    (h : (nextPlace (2 ^ k))^[n] x = (nextPlace (2 ^ k))^[m] x) : n = m := by
  have odd : IsUnit ((4 * x + 1 : Nat) : ZMod (2 ^ (k + 2))) := by
    refine (ZMod.isUnit_iff_coprime _ _).mpr (Nat.Coprime.pow_right _ ?_)
    rw [Nat.coprime_two_right, Nat.odd_iff]
    omega
  have powers : (5 : ZMod (2 ^ (k + 2))) ^ n = 5 ^ m := by
    refine odd.mul_left_inj.mp ?_
    rw [← iterate_nextPlace_cast, ← iterate_nextPlace_cast, h]
  refine pow_injOn_Iio_orderOf ?_ ?_ powers
  · rwa [Set.mem_Iio, ZMod.orderOf_five]
  · rwa [Set.mem_Iio, ZMod.orderOf_five]

/-- **Probes go through all places**, whichever they begin with. -/
theorem exists_iterate_nextPlace {k x y : Nat} (hx : x < 2 ^ k) (hy : y < 2 ^ k) :
    ∃ n < 2 ^ k, (nextPlace (2 ^ k))^[n] x = y := by
  let probe (n : Fin (2 ^ k)) : Fin (2 ^ k) :=
    ⟨(nextPlace (2 ^ k))^[n] x, iterate_nextPlace_lt hx n⟩
  have injective : Function.Injective probe := fun n m h =>
    Fin.ext (iterate_nextPlace_inj n.isLt m.isLt (Fin.mk.inj h))
  obtain ⟨n, hn⟩ := Finite.injective_iff_surjective.mp injective ⟨y, hy⟩
  exact ⟨n, n.isLt, congrArg Fin.val hn⟩

/-! ## §2. A free place is found. -/

variable {t : SetTable}

/-- A place of a table at which nothing stands. -/
def Free (t : SetTable) (place : Nat) : Prop := t[place]? = some none

theorem Free.lt {place : Nat} (h : t.Free place) : place < t.size :=
  (Array.getElem?_eq_some_iff.mp h).1

theorem free_iff {place : Nat} (h : place < t.size) : t.isFree place = true ↔ t.Free place := by
  unfold isFree Free
  rw [Array.getElem?_eq_getElem h]
  cases t[place] <;> simp

/-- The places that are looked at from a place on. -/
def near (t : SetTable) (place : Nat) : List Nat :=
  if place + 9 < t.size then (List.range 10).map (place + ·) else [place]

theorem mem_near_self (place : Nat) : place ∈ t.near place := by
  unfold near
  split
  · exact List.mem_map.mpr ⟨0, List.mem_range.mpr (by decide), rfl⟩
  · exact List.mem_singleton_self place

theorem lt_of_mem_near {place p : Nat} (h : place < t.size) (hp : p ∈ t.near place) :
    p < t.size := by
  unfold near at hp
  split at hp
  · obtain ⟨i, hi, rfl⟩ := List.mem_map.mp hp
    have few := List.mem_range.mp hi
    omega
  · rwa [List.mem_singleton.mp hp]

theorem freePlace_succ (fuel place : Nat) (left : UInt64) :
    t.freePlace (fuel + 1) place left
      = match (t.near place).find? t.isFree with
        | some free => free
        | none => t.freePlace fuel ((place * 5 + 1 + (left >>> 5).toNat) % t.size) (left >>> 5) :=
  rfl

/-- A probe that is at a free place finds one. -/
theorem freePlace_of_free {fuel place : Nat} {left : UInt64} (h : t.Free place) :
    t.Free (t.freePlace (fuel + 1) place left) := by
  rw [freePlace_succ]
  cases found : (t.near place).find? t.isFree with
  | none =>
      have taken := List.find?_eq_none.mp found place (mem_near_self place)
      exact absurd ((free_iff h.lt).mpr h) taken
  | some p =>
      have inside := lt_of_mem_near h.lt (List.mem_of_find?_eq_some found)
      exact (free_iff inside).mp (List.find?_some found)

/-- One that goes on to where one is found finds one. -/
theorem freePlace_of_next {fuel place : Nat} {left : UInt64} (inside : place < t.size)
    (h : t.Free (t.freePlace fuel ((place * 5 + 1 + (left >>> 5).toNat) % t.size) (left >>> 5))) :
    t.Free (t.freePlace (fuel + 1) place left) := by
  rw [freePlace_succ]
  cases found : (t.near place).find? t.isFree with
  | none => exact h
  | some p =>
      exact (free_iff (lt_of_mem_near inside (List.mem_of_find?_eq_some found))).mp
        (List.find?_some found)

/-- When the hash is used up, a free place is found in as many probes as it is away. -/
theorem freePlace_of_iterate (n : Nat) :
    ∀ {fuel place : Nat}, place < t.size → n < fuel → t.Free ((nextPlace t.size)^[n] place) →
      t.Free (t.freePlace fuel place 0) := by
  induction n with
  | zero =>
      intro fuel place _ enough free
      obtain ⟨fuel, rfl⟩ := Nat.exists_eq_succ_of_ne_zero (Nat.ne_of_gt enough)
      exact freePlace_of_free free
  | succ n ih =>
      intro fuel place inside enough free
      obtain ⟨fuel, rfl⟩ := Nat.exists_eq_succ_of_ne_zero (Nat.ne_of_gt (Nat.zero_lt_of_lt enough))
      refine freePlace_of_next inside ?_
      exact ih (Nat.mod_lt _ (Nat.zero_lt_of_lt inside)) (Nat.lt_of_succ_lt_succ enough) free

/-- Five bits of a hash are used up by each probe. -/
theorem freePlace_of_left (n : Nat) :
    ∀ {fuel place : Nat} {left : UInt64}, place < t.size → left.toNat < 2 ^ (5 * n) →
      (∀ p < t.size, t.Free (t.freePlace fuel p 0)) → t.Free (t.freePlace (fuel + n) place left) := by
  induction n with
  | zero =>
      intro fuel place left inside few later
      have none : left = 0 := UInt64.toNat_inj.mp (Nat.lt_one_iff.mp few)
      rw [none]
      exact later place inside
  | succ n ih =>
      intro fuel place left inside few later
      refine freePlace_of_next inside (ih (Nat.mod_lt _ (Nat.zero_lt_of_lt inside)) ?_ later)
      have shifted : (left >>> 5).toNat = left.toNat / 2 ^ 5 := by
        rw [UInt64.toNat_shiftRight, Nat.shiftRight_eq_div_pow]
        rfl
      rw [shifted, Nat.div_lt_iff_lt_mul (by decide), ← pow_add]
      exact few

/-- **A table with a free place gives a member a free place.** -/
theorem free_freePlace {k : Nat} (hsize : t.size = 2 ^ k) {free : Nat} (h : t.Free free)
    (hash : UInt64) : t.Free (t.freePlace (t.size + 13) (hash.toNat % t.size) hash) := by
  refine freePlace_of_left 13 (Nat.mod_lt _ (Nat.zero_lt_of_lt h.lt)) ?_ fun p hp => ?_
  · exact Nat.lt_trans hash.toNat_lt (by decide)
  · obtain ⟨n, hn, reached⟩ := exists_iterate_nextPlace (hsize ▸ hp) (hsize ▸ h.lt)
    refine freePlace_of_iterate n hp (hsize ▸ hn) ?_
    rw [hsize, reached]
    exact h

/-! ## §3. Members. -/

/-- Filling a place that is free adds what it is filled with. -/
theorem filterMap_id_set {α : Type} {l : List (Option α)} {i : Nat} (h : l[i]? = some none) (a : α) :
    ((l.set i (some a)).filterMap id).Perm (a :: l.filterMap id) := by
  induction l generalizing i with
  | nil => cases h
  | cons x l ih =>
      cases i with
      | zero =>
          obtain rfl : x = none := Option.some.inj h
          exact .refl _
      | succ i =>
          have rest := ih (i := i) h
          cases x with
          | none => exact rest
          | some b => exact (rest.cons b).trans (.swap a b _)

/-- Where there are fewer members than places, a place is free. -/
theorem exists_free (h : t.entries.length < t.size) : ∃ place, t.Free place := by
  have search : ∀ l : List (Option (UInt64 × Value)), (l.filterMap id).length < l.length →
      ∃ i : Nat, l[i]? = some none := by
    intro l
    induction l with
    | nil => exact fun few => absurd few (Nat.lt_irrefl 0)
    | cons x l ih =>
        intro few
        cases x with
        | none => exact ⟨0, rfl⟩
        | some e =>
            obtain ⟨i, hi⟩ := ih (Nat.lt_of_succ_lt_succ few)
            exact ⟨i + 1, hi⟩
  obtain ⟨i, hi⟩ := search t.toList h
  exact ⟨i, by rw [Free, ← Array.getElem?_toList, hi]⟩

/-- A table of some members, which has 2ᵏ places, one of them free. -/
structure Holds (t : SetTable) (members : List (UInt64 × Value)) : Prop where
  perm : t.entries.Perm members
  room : members.length < t.size
  size : ∃ k, t.size = 2 ^ k

namespace Holds

variable {members : List (UInt64 × Value)}

/-- **A member that is put into a table is in it, beside those that were there.** -/
theorem put_perm (h : t.Holds members) (e : UInt64 × Value) :
    (t.put e).entries.Perm (e :: members) := by
  obtain ⟨k, hsize⟩ := h.size
  obtain ⟨place, free⟩ := exists_free (h.perm.length_eq ▸ h.room)
  have found := free_freePlace hsize free e.1
  rw [Free, ← Array.getElem?_toList] at found
  unfold put entries
  rw [Array.toList_setIfInBounds]
  exact (filterMap_id_set found e).trans (h.perm.cons e)

theorem size_put (t : SetTable) (e : UInt64 × Value) : (t.put e).size = t.size :=
  Array.size_setIfInBounds

/-- So it is with several, as long as there is room. -/
theorem foldl_put (es : List (UInt64 × Value)) :
    ∀ {t : SetTable} {members : List (UInt64 × Value)}, t.Holds members →
      members.length + es.length < t.size → (es.foldl put t).Holds (es.reverse ++ members) := by
  induction es with
  | nil => exact fun h _ => h
  | cons e es ih =>
      intro t members h room
      rw [List.length_cons] at room
      have one : (t.put e).Holds (e :: members) :=
        ⟨h.put_perm e, by rw [size_put, List.length_cons]; omega, size_put t e ▸ h.size⟩
      have all := ih one (by rw [size_put, List.length_cons]; omega)
      rwa [List.reverse_cons, List.append_assoc]

end Holds

theorem entries_empty (size : Nat) : (empty size).entries = [] := by
  unfold entries empty
  rw [Array.toList_replicate, List.filterMap_replicate]
  rfl

theorem size_empty (size : Nat) : (empty size).size = size := Array.size_replicate

theorem lt_sizeFor (n : Nat) : n < sizeFor n := lt_max_of_lt_right Nat.lt_log2_self

theorem exists_sizeFor_eq (n : Nat) : ∃ k, sizeFor n = 2 ^ k := by
  unfold sizeFor
  rcases max_choice 8 (Nat.pow 2 (n.log2 + 1)) with least | larger
  · exact ⟨3, least⟩
  · exact ⟨_, larger⟩

namespace Holds

variable {members members' : List (UInt64 × Value)}

theorem mono (h : t.Holds members) (perm : members.Perm members') : t.Holds members' :=
  ⟨h.perm.trans perm, perm.length_eq ▸ h.room, h.size⟩

theorem empty {size : Nat} (h : ∃ k, size = 2 ^ k) : (SetTable.empty size).Holds [] := by
  obtain ⟨k, rfl⟩ := h
  refine ⟨entries_empty _ ▸ .refl _, ?_, k, size_empty _⟩
  rw [size_empty]
  exact Nat.two_pow_pos k

/-- Members that find room in a new table are in it. -/
theorem moved (h : t.entries.Perm members) {n : Nat} (room : members.length ≤ n) :
    (t.entries.foldl put (SetTable.empty (sizeFor n))).Holds members := by
  have all := foldl_put t.entries (empty (exists_sizeFor_eq n)) (by
    rw [size_empty, List.length_nil, Nat.zero_add, h.length_eq]
    exact Nat.lt_of_le_of_lt room (lt_sizeFor n))
  rw [List.append_nil] at all
  exact all.mono (t.entries.reverse_perm.trans h)

/-- **Adding a member keeps the others**, whether or not they move to a larger table. -/
theorem add (h : t.Holds members) (e : UInt64 × Value) :
    (t.add (members.length + 1) e).Holds (e :: members) := by
  have all := h.put_perm e
  unfold SetTable.add
  dsimp only
  split
  · next few =>
      refine ⟨all, ?_, size_put t e ▸ h.size⟩
      rw [List.length_cons]
      omega
  · refine moved all ?_
    rw [List.length_cons]
    split <;> omega

end Holds

/-- **The table of some members holds them.** -/
theorem holds_ofEntries (es : List (UInt64 × Value)) : (ofEntries es).Holds es := by
  have added : ∀ (es : List (UInt64 × Value)) {t : SetTable} {members : List (UInt64 × Value)},
      t.Holds members →
      (es.foldl (fun p e => (p.1.add (p.2 + 1) e, p.2 + 1)) (t, members.length)).1.Holds
        (es.reverse ++ members) := by
    intro es
    induction es with
    | nil => exact id
    | cons e es ih =>
        intro t members h
        rw [List.reverse_cons, List.append_assoc]
        exact ih (h.add e)
  have all := added es (Holds.empty ⟨3, rfl⟩)
  rw [List.append_nil] at all
  exact all.mono es.reverse_perm

end SetTable

/-! ## §4. Sets. -/

namespace Value

/-- Hashes are computed of the members as they come. -/
theorem map_snd_of_hashes {members : List Value} {es : List (UInt64 × Value)}
    (h : members.mapM (fun x => x.hash?.map (fun hash => (hash, x))) = some es) :
    es.map Prod.snd = members := by
  induction members generalizing es with
  | nil =>
      obtain rfl := Option.some.inj h
      rfl
  | cons x members ih =>
      rw [List.mapM_cons] at h
      obtain ⟨e, he, h⟩ := Option.bind_eq_some_iff.mp h
      obtain ⟨rest, hrest, h⟩ := Option.bind_eq_some_iff.mp h
      obtain rfl := Option.some.inj h
      obtain ⟨hash, _, rfl⟩ := Option.map_eq_some_iff.mp he
      exact congrArg (x :: ·) (ih hrest)

/-- **A set is gone through in an order of its members**, each of which is met once. -/
theorem setOf_perm (xs : List Value) :
    ∃ members, setOf xs = set members ∧ members.Perm (xs.foldl insertMember []) := by
  unfold setOf
  dsimp only
  split
  · next es hes =>
      refine ⟨_, rfl, ((SetTable.holds_ofEntries es).perm.map Prod.snd).trans ?_⟩
      rw [map_snd_of_hashes hes]
  · exact ⟨_, rfl, .refl _⟩

/-- A proper set is proper in any order. -/
theorem isProper_set_of_perm {xs ys : List Value} (h : (set xs).isProper = true)
    (perm : ys.Perm xs) : (set ys).isProper = true := by
  obtain ⟨hxs, different⟩ := isProper_set_iff.mp h
  have hys : ∀ y ∈ ys, y.isProper = true := fun y hy => hxs y (perm.mem_iff.mp hy)
  -- among proper values, to be different goes both ways
  have both : xs.Pairwise (fun x y => same x y = false ∧ same y x = false) :=
    different.imp_of_mem fun hx hy h => ⟨h, same_comm (hxs _ hx) (hxs _ hy) ▸ h⟩
  exact isProper_set_iff.mpr ⟨hys, ((perm.pairwise_iff And.symm).mpr both).imp And.left⟩

/-- **The set of some proper values is proper.** -/
theorem isProper_setOf {xs : List Value} (h : ∀ x ∈ xs, x.isProper = true) :
    (setOf xs).isProper = true := by
  have inserted : ∀ (xs : List Value) {members : List Value}, (∀ x ∈ xs, x.isProper = true) →
      (set members).isProper = true → (set (xs.foldl insertMember members)).isProper = true := by
    intro xs
    induction xs with
    | nil => exact fun _ hset => hset
    | cons x xs ih =>
        intro members hxs hset
        obtain ⟨hx, hxs⟩ := List.forall_mem_cons.mp hxs
        exact ih hxs (isProper_insertMember hset hx)
  obtain ⟨members, made, perm⟩ := setOf_perm xs
  rw [made]
  exact isProper_set_of_perm (inserted xs h (by decide)) perm

end Value

end OrderBy
