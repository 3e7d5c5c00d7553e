/-
  OrderBy.Proofs.Order.Inclusion
  ──────────────────────────────
  **SETS ARE COMPARED BY PROPER INCLUSION.**

  One set is less than another if it has fewer members and each of them is one of the
  other.  Members are told apart by sameness, so for sets that can be this says that one
  is a proper subset of the other:

      a less than b   ↔   every member of a is one of b, but not the other way round

  Proper inclusion is a strict partial order.  Most pairs of sets are incomparable, and
  a comparison reports these as ties; but ties of this kind are not transitive.
-/
import OrderBy.Proofs.Order.Exchange

namespace OrderBy.Value

/-! ## §1. Values that can be hashed. -/

/-- Items can be hashed if each of them can. -/
theorem unhashableItem?_eq_none : ∀ {xs : List Value},
    unhashableItem? xs = none ↔ ∀ x ∈ xs, x.unhashable? = none
  | [] => ⟨fun _ => List.forall_mem_nil _, fun _ => rfl⟩
  | x :: xs => by
      rw [List.forall_mem_cons, ← unhashableItem?_eq_none, ← Option.or_eq_none_iff]
      rfl

/-- A value that can be hashed is the same from either side, whatever the other is. -/
theorem same_symm_of_hashable {a b : Value} (ha : a.unhashable? = none) (h : same a b = true) :
    same b a = true := by
  induction a using inductionOn generalizing b with
  | flat a flat =>
      obtain ⟨t, ht⟩ := token_of_isFlat flat
      exact same_symm_of_token ht h
  | probe id label a raises _ => exact same_symm_of_token rfl h
  | tuple xs ih =>
      cases b <;> try cases h
      have hxs := unhashableItem?_eq_none.mp ha
      exact sameItems_symm (fun x hx y _ => ih x hx (hxs x hx)) h
  | list xs _ => cases ha
  | set xs _ => cases ha
  | dict es _ => cases ha

/-! ## §2. Sets and inclusion. -/

/-- A set that can be: its members can be hashed, and no two of them are the same. -/
def IsSet (v : Value) : Prop :=
  ∃ xs, v = set xs ∧ (∀ x ∈ xs, x.unhashable? = none)
    ∧ xs.Pairwise (fun x y => same x y = false)

/-- The members of a set; other values have none. -/
def members : Value → List Value
  | set xs => xs
  | _ => []

/-- Every member of the first set is one of the second. -/
def Included (a b : Value) : Prop := ∀ x ∈ a.members, ∃ y ∈ b.members, same x y = true

instance (a b : Value) : Decidable (Included a b) :=
  inferInstanceAs (Decidable (∀ x ∈ a.members, ∃ y ∈ b.members, same x y = true))

/-- The first set is a proper subset of the second. -/
def ProperSubset (a b : Value) : Prop := Included a b ∧ ¬ Included b a

instance (a b : Value) : Decidable (ProperSubset a b) :=
  inferInstanceAs (Decidable (Included a b ∧ ¬ Included b a))

theorem Included.trans {a b c : Value} (hab : Included a b) (hbc : Included b c) : Included a c :=
  forall_exists_same_trans (fun _ _ _ _ => same_trans) hab hbc

/-- **Proper inclusion is transitive** … -/
theorem ProperSubset.trans {a b c : Value} (hab : ProperSubset a b) (hbc : ProperSubset b c) :
    ProperSubset a c :=
  ⟨hab.1.trans hbc.1, fun hca => hab.2 (hbc.1.trans hca)⟩

/-- … and asymmetric. -/
theorem ProperSubset.asymm {a b : Value} (hab : ProperSubset a b) : ¬ ProperSubset b a :=
  fun hba => hba.2 hab.1

/-! ## §3. Inclusion and size. -/

/-- Where every item has a partner and no two items share one, there are as many partners
as items, or more. -/
theorem length_le_of_partners {α β : Type} {R : α → β → Prop} {xs : List α} {ys : List β}
    (apart : xs.Pairwise (fun x x' => ∀ y ∈ ys, R x y → ¬ R x' y))
    (partners : ∀ x ∈ xs, ∃ y ∈ ys, R x y) : xs.length ≤ ys.length := by
  by_contra more
  -- the first items would have all partners, and one more item is left without
  obtain ⟨front, x, back, rfl, size⟩ : ∃ front x back, xs = front ++ x :: back
      ∧ front.length = ys.length := by
    refine ⟨xs.take ys.length, xs[ys.length], xs.drop (ys.length + 1), ?_, ?_⟩
    · rw [← List.drop_eq_getElem_cons, List.take_append_drop]
    · rw [List.length_take]
      omega
  obtain ⟨apart_front, _, apart_x⟩ := List.pairwise_append.mp apart
  obtain ⟨y, hy, hxy⟩ := partners x (List.mem_append_right _ List.mem_cons_self)
  obtain ⟨x', hx', hx'y⟩ := exists_partner size apart_front
    (fun x hx => partners x (List.mem_append_left _ hx)) y hy
  exact apart_x x' hx' x List.mem_cons_self y hy hx'y hxy

section Members

variable {xs ys : List Value} (hxs : ∀ x ∈ xs, x.unhashable? = none)
  (different : xs.Pairwise (fun x y => same x y = false))

include hxs different

/-- No two members of a set are the same as one value. -/
theorem members_apart :
    xs.Pairwise (fun x x' => ∀ y ∈ ys, same x y = true → ¬ same x' y = true) :=
  different.imp_of_mem fun {_ x'} _ hx' hne _ _ =>
    not_same_of_different hne (same_symm_of_hashable (hxs x' hx'))

/-- **One set is less than another iff it is a proper subset of it.** -/
theorem includes_less_iff (hys : ∀ y ∈ ys, y.unhashable? = none)
    (different' : ys.Pairwise (fun x y => same x y = false)) :
    includes .less xs ys = true ↔ ProperSubset (set xs) (set ys) := by
  have included : membersOf xs ys = true ↔ Included (set xs) (set ys) := membersOf_iff
  show (decide (xs.length < ys.length) && membersOf xs ys) = true ↔ _
  rw [Bool.and_eq_true, decide_eq_true_iff, included]
  constructor
  · rintro ⟨fewer, subset⟩
    refine ⟨subset, fun superset => ?_⟩
    have noFewer : ys.length ≤ xs.length :=
      length_le_of_partners (members_apart hys different') superset
    omega
  · rintro ⟨subset, notSuperset⟩
    refine ⟨?_, subset⟩
    have noMore : xs.length ≤ ys.length :=
      length_le_of_partners (members_apart hxs different) subset
    by_contra notFewer
    -- with as many members, every member of the second would have its partner in the first
    have asMany : xs.length = ys.length := by omega
    refine notSuperset fun y hy => ?_
    obtain ⟨x, hx, hxy⟩ := exists_partner asMany (members_apart hxs different) subset y hy
    exact ⟨x, hx, same_symm_of_hashable (hxs x hx) hxy⟩

end Members

/-! ## §4. Comparing sets. -/

/-- The comparison of sets by proper inclusion. -/
def compareSets (a b : Value) : Ordering :=
  if ProperSubset a b then .lt else if ProperSubset b a then .gt else .eq

theorem compareSets_eq_lt {a b : Value} : compareSets a b = .lt ↔ ProperSubset a b := by
  unfold compareSets
  split
  · exact iff_of_true rfl ‹_›
  · split <;> exact iff_of_false Ordering.noConfusion ‹_›

theorem compareSets_eq_gt {a b : Value} : compareSets a b = .gt ↔ ProperSubset b a := by
  unfold compareSets
  split
  · exact iff_of_false Ordering.noConfusion (ProperSubset.asymm ‹_›)
  · split
    · exact iff_of_true rfl ‹_›
    · exact iff_of_false Ordering.noConfusion ‹_›

/-- Orderings are equal if they are less, and greater, at once. -/
theorem ordering_ext {o o' : Ordering} (less : o = .lt ↔ o' = .lt)
    (greater : o = .gt ↔ o' = .gt) : o = o' := by
  cases o with
  | lt => exact (less.mp rfl).symm
  | gt => exact (greater.mp rfl).symm
  | eq =>
      cases o' with
      | lt => exact less.mpr rfl
      | gt => exact greater.mpr rfl
      | eq => rfl

/-- **Two sets are compared by proper inclusion**, without a fault. -/
theorem threeWay_sets {a b : Value} (ha : IsSet a) (hb : IsSet b) :
    (Value.threeWay a b).outcome = .ok (compareSets a b) := by
  obtain ⟨xs, rfl, hxs, different⟩ := ha
  obtain ⟨ys, rfl, hys, different'⟩ := hb
  have comm : ∀ x ∈ xs, ∀ y ∈ ys, same x y = same y x := fun x hx y hy => Bool.eq_iff_iff.mpr
    ⟨same_symm_of_hashable (hxs x hx), same_symm_of_hashable (hys y hy)⟩
  cases opposed_of_sets comm with
  | refused left right forth _ => exact nomatch forth .less
  | decided o forth back =>
      rw [Value.threeWay_of_answers forth]
      -- both questions, from either side, are about proper inclusion
      have less : includes .less xs ys = (o == .lt) := Except.ok.inj (forth .less)
      have greater : includes .less ys xs = (o.swap == .lt) := Except.ok.inj (back .less)
      refine congrArg Except.ok (ordering_ext ?_ ?_)
      · rw [compareSets_eq_lt, ← includes_less_iff hxs different hys different', less, beq_iff_eq]
      · rw [compareSets_eq_gt, ← includes_less_iff hys different' hxs different, greater, beq_iff_eq]
        cases o <;> decide

end OrderBy.Value
