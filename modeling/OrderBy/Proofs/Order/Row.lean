/-
  OrderBy.Proofs.Order.Row
  ────────────────────────
  **ROWS OF ONE SHAPE ARE TOTALLY ORDERED UNDER EVERY ROW OF DIRECTIONS.**

  A row of kinds says what stands at each position.  On rows of that shape the
  comparison under directions never fails, and it is lexicographic: the first
  position that does not tie decides, and a descending position counts with its
  operands exchanged.  Both an exchange and a lexicographic combination keep the
  laws of a total preorder, so rows have them at any number of positions.
-/
import OrderBy.Proofs.Order.Kind
import Mathlib.Data.List.Forall2

namespace OrderBy

/-! ## §1. One position. -/

/-- A comparison in a direction. -/
def Direction.orient {α : Type} : Direction → (α → α → Ordering) → α → α → Ordering
  | ascending, cmp => cmp
  | descending, cmp => fun a b => cmp b a

instance Direction.transCmp_orient {α : Type} (d : Direction) (cmp : α → α → Ordering)
    [Std.TransCmp cmp] : Std.TransCmp (d.orient cmp) := by
  cases d with
  | ascending => exact inferInstanceAs (Std.TransCmp cmp)
  | descending => exact inferInstanceAs (Std.TransCmp fun a b => cmp b a)

@[simp]
theorem askRecorded_outcome (q : Question) (a b : Value) :
    (askRecorded q a b).outcome = (a.ask q b).outcome :=
  Traced.outcome_emit_bind _ _

/-- Where both questions are answered as by an ordering, the three-way comparison gives
that ordering. -/
theorem Value.threeWay_of_answers {a b : Value} {o : Ordering}
    (h : ∀ q : Question, (a.ask q b).outcome = .ok (q.ofOrdering o)) :
    (Value.threeWay a b).outcome = .ok o := by
  unfold Value.threeWay
  -- the second question is asked only if the answer to the first is no
  rw [Traced.outcome_bind, askRecorded_outcome, h .less]
  cases o with
  | lt => rfl
  | eq =>
      show (askRecorded .greater a b >>= _).outcome = _
      rw [Traced.outcome_bind, askRecorded_outcome, h .greater]
      rfl
  | gt =>
      show (askRecorded .greater a b >>= _).outcome = _
      rw [Traced.outcome_bind, askRecorded_outcome, h .greater]
      rfl

/-- Where a comparison decides both questions, it is what the three-way comparison
gives. -/
theorem Value.threeWay_of_decided {cmp : Value → Value → Ordering} {a b : Value}
    (h : Value.DecidedBy cmp a b) : (Value.threeWay a b).outcome = .ok (cmp a b) :=
  Value.threeWay_of_answers h.ask

/-- Values of one kind are compared in a direction as the kind compares them. -/
theorem Direction.threeWay_of_kind (d : Direction) {k : Kind} {a b : Value} (ha : k.Has a)
    (hb : k.Has b) : (d.threeWay a b).outcome = .ok (d.orient k.compare a b) := by
  cases d with
  | ascending => exact Value.threeWay_of_decided (k.decidedBy_compare ha hb)
  | descending => exact Value.threeWay_of_decided (k.decidedBy_compare hb ha)

/-! ## §2. Rows. -/

/-- The comparison of rows, given the direction and the kind of every position. -/
def compareRows : List (Direction × Kind) → List Value → List Value → Ordering
  | [] => fun _ _ => .eq
  | (d, k) :: rest =>
    compareLex (fun as bs => d.orient k.compare (as.headD .null) (bs.headD .null))
      (fun as bs => compareRows rest as.tail bs.tail)

instance transCmp_compareRows (shape : List (Direction × Kind)) :
    Std.TransCmp (compareRows shape) := by
  induction shape with
  | nil => exact { eq_swap := rfl, isLE_trans := fun _ _ => rfl }
  | cons position rest ih =>
      obtain ⟨d, k⟩ := position
      have head := transCmp_comap (fun as : List Value => as.headD .null) (d.orient k.compare)
      have tail := transCmp_comap (List.tail : List Value → List Value) (compareRows rest)
      exact inferInstanceAs (Std.TransCmp (compareLex _ _))

/-- **Rows of one shape are compared without a fault, and lexicographically.** -/
theorem threeWayRows_of_kinds {ks : List Kind} {as bs : List Value}
    (has : List.Forall₂ Kind.Has ks as) (hbs : List.Forall₂ Kind.Has ks bs)
    (ds : List Direction) :
    (threeWayRows ds as bs).outcome = .ok (compareRows (ds.zip ks) as bs) := by
  induction has generalizing bs ds with
  | nil =>
      cases hbs
      cases ds <;> rfl
  | @cons k a ks as ha _ ih =>
      cases hbs with
      | @cons _ b _ bs hb hbs =>
          cases ds with
          | nil => rfl
          | cons d ds =>
              show _ = Except.ok ((d.orient k.compare a b).then (compareRows (ds.zip ks) as bs))
              unfold threeWayRows
              rw [Traced.outcome_bind, d.threeWay_of_kind ha hb]
              -- only a tie lets the next position decide
              cases d.orient k.compare a b with
              | lt => rfl
              | eq => exact ih hbs ds
              | gt => rfl

/-! ## §3. Rows with homogeneous columns. -/

/-- The values at a position of some rows. -/
def column (i : Nat) (rows : List (List Value)) : List Value := rows.filterMap (·[i]?)

/-- Rows of one length have one shape if each of their columns is homogeneous. -/
theorem exists_kinds {n : Nat} {rows : List (List Value)} (hlen : ∀ row ∈ rows, row.length = n)
    (hcol : ∀ i < n, Homogeneous (column i rows)) :
    ∃ ks : List Kind, ∀ row ∈ rows, List.Forall₂ Kind.Has ks row := by
  -- a kind for every column makes a row of kinds
  have kinds : ∀ i : Fin n, ∃ k : Kind, ∀ v ∈ column i rows, k.Has v :=
    fun i => homogeneous_iff.mp (hcol i i.isLt)
  choose kind hkind using kinds
  refine ⟨List.ofFn kind, fun row hrow => ?_⟩
  rw [List.forall₂_iff_get]
  refine ⟨by rw [List.length_ofFn, hlen row hrow], fun i hi hi' => ?_⟩
  have inColumn : row[i] ∈ column i rows :=
    List.mem_filterMap.mpr ⟨row, hrow, List.getElem?_eq_getElem hi'⟩
  have hn : i < n := hlen row hrow ▸ hi'
  simpa using hkind ⟨i, hn⟩ _ inColumn

/-! ## §4. The laws of a total preorder. -/

/-- The laws of a total preorder, for a comparison that might fail: on the things of a
class it returns, both ways round consistently; what is not greater is passed on, strictly
if either comparison is strict; and what ties compares alike with everything. -/
structure TotalPreorderOn {α : Type} (P : α → Prop)
    (cmp : α → α → Traced Comparison Ordering) : Prop where
  total : ∀ {a b : α}, P a → P b →
    ∃ o, (cmp a b).outcome = .ok o ∧ (cmp b a).outcome = .ok o.swap
  trans : ∀ {a b c : α} {o o' : Ordering}, P a → P b → P c →
    (cmp a b).outcome = .ok o → (cmp b c).outcome = .ok o' → o.isLE → o'.isLE →
      ∃ o'', (cmp a c).outcome = .ok o'' ∧ o''.isLE ∧ (o = .lt ∨ o' = .lt → o'' = .lt)
  congr : ∀ {a b c : α}, P a → P b → P c → (cmp a b).outcome = .ok .eq →
    (cmp a c).outcome = (cmp b c).outcome ∧ (cmp c a).outcome = (cmp c b).outcome

/-- A comparison has these laws on a class where it gives what a lawful one gives. -/
theorem TotalPreorderOn.of_transCmp {α : Type} {P : α → Prop}
    {cmp : α → α → Traced Comparison Ordering} (lawful : α → α → Ordering)
    [Std.TransCmp lawful]
    (h : ∀ a b, P a → P b → (cmp a b).outcome = .ok (lawful a b)) : TotalPreorderOn P cmp where
  total := by
    intro a b ha hb
    have swapped : lawful b a = (lawful a b).swap := Std.OrientedCmp.eq_swap
    exact ⟨lawful a b, h a b ha hb, by rw [h b a hb ha, swapped]⟩
  trans := by
    intro a b c o o' ha hb hc ho ho' hle hle'
    obtain rfl : lawful a b = o := Except.ok.inj ((h a b ha hb).symm.trans ho)
    obtain rfl : lawful b c = o' := Except.ok.inj ((h b c hb hc).symm.trans ho')
    refine ⟨lawful a c, h a c ha hc, Std.TransCmp.isLE_trans hle hle', ?_⟩
    intro strict
    rcases strict with first | second
    · exact Std.TransCmp.lt_of_lt_of_isLE first hle'
    · exact Std.TransCmp.lt_of_isLE_of_lt hle second
  congr := by
    intro a b c ha hb hc tie
    have tied : lawful a b = .eq := Except.ok.inj ((h a b ha hb).symm.trans tie)
    rw [h a c ha hc, h b c hb hc, h c a hc ha, h c b hc hb]
    exact ⟨congrArg Except.ok (Std.TransCmp.congr_left tied),
      congrArg Except.ok (Std.TransCmp.congr_right tied)⟩

/-- **The comparison of rows is a total preorder on the rows of any shape**, whatever the
directions are and however many of them there are. -/
theorem threeWayRows_totalPreorder (ds : List Direction) (ks : List Kind) :
    TotalPreorderOn (List.Forall₂ Kind.Has ks) (threeWayRows ds) :=
  .of_transCmp (compareRows (ds.zip ks)) fun _ _ ha hb => threeWayRows_of_kinds ha hb ds

/-- Lists of a one and a number, each one of another type.  The numbers descend from
infinity over 2⁵³ + 1 to the double 2⁵³, and no double lies between the last two. -/
def nearNumbers : List Value :=
  [.list [.bool true, .float (.infinite false)], .list [.int 1, .int 9007199254740993],
    .list [.float (.finite false ⟨0x3FF0000000000000, by decide⟩),
      .float (.finite false ⟨0x4340000000000000, by decide⟩)]]

/-- Numbers of any type are of one kind, and their order is exact: the laws hold where
rounding would have made a tie. -/
theorem threeWayRows_totalPreorder_nearNumbers :
    ∃ a b c, nearNumbers = [a, b, c]
      ∧ (threeWayRows [.descending] [a] [b]).outcome = .ok .lt
      ∧ (threeWayRows [.descending] [b] [c]).outcome = .ok .lt
      ∧ (threeWayRows [.descending] [a] [c]).outcome = .ok .lt := by
  have rows : ∀ v ∈ nearNumbers, List.Forall₂ Kind.Has [.list .number] [v] := by
    intro v hv
    have items : ∃ xs, v = .list xs ∧ ∀ x ∈ xs, Kind.number.Has x := by
      simp only [nearNumbers, List.mem_cons, List.not_mem_nil, or_false] at hv
      rcases hv with rfl | rfl | rfl <;>
        exact ⟨_, rfl, by simp [← Value.isNumber_iff, Value.IsNumber]⟩
    exact .cons items .nil
  have first : (threeWayRows [.descending] [nearNumbers[0]] [nearNumbers[1]]).outcome
      = .ok .lt := by
    rw [threeWayRows_of_kinds (rows _ (List.getElem_mem _)) (rows _ (List.getElem_mem _))]
    exact congrArg Except.ok (by decide +kernel)
  have second : (threeWayRows [.descending] [nearNumbers[1]] [nearNumbers[2]]).outcome
      = .ok .lt := by
    rw [threeWayRows_of_kinds (rows _ (List.getElem_mem _)) (rows _ (List.getElem_mem _))]
    exact congrArg Except.ok (by decide +kernel)
  obtain ⟨o, outcome, _, strict⟩ := (threeWayRows_totalPreorder [.descending] [.list .number]).trans
    (rows _ (List.getElem_mem _)) (rows _ (List.getElem_mem _)) (rows _ (List.getElem_mem _))
    first second rfl rfl
  rw [strict (.inl rfl)] at outcome
  exact ⟨_, _, _, rfl, first, second, outcome⟩

end OrderBy
