/-
  OrderBy.Proofs.Order.Exchange
  ─────────────────────────────
  **EXCHANGING THE OPERANDS EXCHANGES THE RESULT.**

  Values need not be totally ordered: NaN, sets and values of different types are
  neither less nor greater than each other, or cannot be compared at all.  What
  always holds, of all proper values nested to any depth, is that the two sides
  agree about it:

      a against b gives an ordering   →   b against a gives the reverse
      a against b is refused          →   so is b against a, the types exchanged

  In particular no two values are each less than the other, and a tie is a tie
  from both sides.  Rows under directions inherit this position by position.  No
  transitivity is used or claimed.
-/
import OrderBy.Proofs.Order.Row
import OrderBy.Proofs.Order.Sameness

namespace OrderBy

/-! ## §1. Scalars. -/

theorem Number.less_asymm {x y : Number} (h : x.less y = true) : y.less x = false := by
  rcases x with m | (_ | _) | _ <;> rcases y with n | (_ | _) | _ <;>
    try first | rfl | cases h
  -- two finite numbers are left
  have lt : m < n := of_decide_eq_true h
  exact decide_eq_false (by omega)

/-- Of two scalars, not each is less than the other. -/
theorem Scalar.less_exclusive {x y : Scalar} {less greater : Bool} (hless : x.less? y = some less)
    (hgreater : y.less? x = some greater) : ¬ (less = true ∧ greater = true) := by
  rintro ⟨rfl, rfl⟩
  cases x <;> cases y <;> try cases hless
  all_goals
    have forth := Option.some.inj hless
    have back := Option.some.inj hgreater
  · rw [Number.less_asymm forth] at back
    cases back
  · exact absurd (of_decide_eq_true back) (String.lt_asymm (of_decide_eq_true forth))
  · exact absurd (of_decide_eq_true back) (List.lt_asymm (of_decide_eq_true forth))

theorem Scalar.less_eq_none {x y : Scalar} (h : x.less? y = none) : y.less? x = none := by
  cases x <;> cases y <;> first | rfl | cases h

/-! ## §2. Opposed answers. -/

/-- What two values answer about each other is opposed: both questions are answered as
by one ordering and, from the other side, by its reverse, or all are refused. -/
inductive Value.Opposed (a b : Value) : Prop where
  | decided (o : Ordering) (forth : ∀ q : Question, (a.ask q b).outcome = .ok (q.ofOrdering o))
      (back : ∀ q : Question, (b.ask q a).outcome = .ok (q.ofOrdering o.swap))
  | refused (left right : String)
      (forth : ∀ q : Question, (a.ask q b).outcome = .error (.incomparable q left right))
      (back : ∀ q : Question, (b.ask q a).outcome = .error (.incomparable q right left))

namespace Value

/-- Two answers that are not both yes are those of an ordering. -/
theorem exists_ordering {less greater : Bool} (h : ¬ (less = true ∧ greater = true)) :
    ∃ o : Ordering, (o == .lt) = less ∧ (o == .gt) = greater := by
  cases less <;> cases greater
  · exact ⟨.eq, rfl, rfl⟩
  · exact ⟨.gt, rfl, rfl⟩
  · exact ⟨.lt, rfl, rfl⟩
  · exact absurd ⟨rfl, rfl⟩ h

/-- Values are opposed where each question has the same answer as the other question
from the other side, and not both answers are yes. -/
theorem opposed_of_answers {a b : Value} {less greater : Bool}
    (exclusive : ¬ (less = true ∧ greater = true))
    (forth : ∀ q, (a.ask q b).outcome = .ok (match q with | .less => less | .greater => greater))
    (back : ∀ q, (b.ask q a).outcome = .ok (match q with | .less => greater | .greater => less)) :
    Opposed a b := by
  obtain ⟨o, rfl, rfl⟩ := exists_ordering exclusive
  refine .decided o (fun q => ?_) (fun q => ?_)
  · rw [forth]
    cases q <;> rfl
  · rw [back]
    cases q <;> cases o <;> rfl

/-- Values that answer each other as two opposed values do are opposed. -/
theorem Opposed.congr {a b a' b' : Value} (h : Opposed a b)
    (forth : ∀ q, (a'.ask q b').outcome = (a.ask q b).outcome)
    (back : ∀ q, (b'.ask q a').outcome = (b.ask q a).outcome) : Opposed a' b' := by
  cases h with
  | decided o hforth hback =>
      exact .decided o (fun q => (forth q).trans (hforth q)) (fun q => (back q).trans (hback q))
  | refused left right hforth hback =>
      exact .refused left right (fun q => (forth q).trans (hforth q))
        (fun q => (back q).trans (hback q))

/-! ## §3. Scalars and sets. -/

/-- Scalars of different kinds refuse every question. -/
theorem ask_of_scalar_none {a b : Value} {x y : Scalar} (ha : a.scalar? = some x)
    (hb : b.scalar? = some y) (h : x.less? y = none) (q : Question) :
    (a.ask q b).outcome = .error (.incomparable q a.typeName b.typeName) := by
  cases a <;> cases ha <;> cases b <;> cases hb <;> cases h <;> cases q <;> rfl

theorem opposed_of_scalar {a b : Value} {x y : Scalar} (ha : a.scalar? = some x)
    (hb : b.scalar? = some y) : Opposed a b := by
  cases hless : x.less? y with
  | none =>
      exact .refused _ _ (ask_of_scalar_none ha hb hless)
        (ask_of_scalar_none hb ha (Scalar.less_eq_none hless))
  | some less =>
      cases hgreater : y.less? x with
      | none =>
          rw [Scalar.less_eq_none hgreater] at hless
          cases hless
      | some greater =>
          exact opposed_of_answers (Scalar.less_exclusive hless hgreater)
            (ask_of_scalar ha hb hless hgreater) (ask_of_scalar hb ha hgreater hless)

/-- Sets whose members have a symmetric sameness include each other as seen from
either side. -/
theorem opposed_of_sets {xs ys : List Value} (h : ∀ x ∈ xs, ∀ y ∈ ys, same x y = same y x) :
    Opposed (set xs) (set ys) := by
  have turn : ∀ {us vs : List Value}, (∀ u ∈ us, ∀ v ∈ vs, same u v = same v u) →
      includes .greater us vs = includes .less vs us := by
    intro us vs h
    have members : vs.all (fun v => us.any (fun u => same u v)) = membersOf vs us := by
      rw [Bool.eq_iff_iff, membersOf_iff, List.all_eq_true]
      refine forall₂_congr (fun v hv => ?_)
      rw [List.any_eq_true]
      exact exists_congr (fun u => and_congr_right (fun hu => by rw [h u hu v hv]))
    show (_ && _) = (_ && _)
    rw [members]
  have exclusive : ¬ (includes .less xs ys = true ∧ includes .greater xs ys = true) := by
    rintro ⟨less, greater⟩
    have shorter := of_decide_eq_true (Bool.and_eq_true_iff.mp less).1
    have longer := of_decide_eq_true (Bool.and_eq_true_iff.mp greater).1
    omega
  refine opposed_of_answers exclusive (fun q => ?_) (fun q => ?_)
  · cases q <;> rfl
  · show Except.ok (includes q ys xs) = _
    cases q
    · rw [turn h]
    · rw [turn (fun y hy x hx => (h x hx y hy).symm)]

/-! ## §4. Sequences. -/

/-- Sequences whose items are opposed, and have a symmetric sameness, are opposed. -/
theorem opposed_of_items : ∀ {xs ys : List Value},
    (∀ x ∈ xs, ∀ y ∈ ys, same x y = same y x ∧ Opposed x y) → Opposed (list xs) (list ys)
  | [], [], _ => .decided .eq (fun q => by cases q <;> rfl) (fun q => by cases q <;> rfl)
  | [], _ :: _, _ => .decided .lt (fun q => by cases q <;> rfl) (fun q => by cases q <;> rfl)
  | _ :: _, [], _ => .decided .gt (fun q => by cases q <;> rfl) (fun q => by cases q <;> rfl)
  | x :: xs, y :: ys, h => by
      obtain ⟨comm, head⟩ := h x List.mem_cons_self y List.mem_cons_self
      have tail : Opposed (list xs) (list ys) := opposed_of_items (fun a ha b hb =>
        h a (List.mem_cons_of_mem x ha) b (List.mem_cons_of_mem y hb))
      have forth : ∀ q, (list (x :: xs)).ask q (list (y :: ys))
          = if same x y then (list xs).ask q (list ys) else x.ask q y := fun _ => rfl
      have back : ∀ q, (list (y :: ys)).ask q (list (x :: xs))
          = if same x y then (list ys).ask q (list xs) else y.ask q x := fun _ => comm ▸ rfl
      -- both sides skip the same items, and so come to the same pair
      cases hsame : same x y with
      | true =>
          rw [hsame] at forth back
          exact tail.congr (fun q => congrArg Traced.outcome (forth q))
            (fun q => congrArg Traced.outcome (back q))
      | false =>
          rw [hsame] at forth back
          exact head.congr (fun q => congrArg Traced.outcome (forth q))
            (fun q => congrArg Traced.outcome (back q))

/-! ## §5. All proper values. -/

/-- **What two proper values answer about each other is opposed.** -/
theorem opposed {a b : Value} (ha : a.isProper = true) (hb : b.isProper = true) :
    Opposed a b := by
  induction a using inductionOn generalizing b with
  | flat a flat =>
      cases hx : a.scalar? with
      | none =>
          -- no scalar and no container: every question is refused
          cases a <;> cases flat <;> cases hx <;> cases b <;>
            exact .refused _ _ (fun _ => rfl) (fun _ => rfl)
      | some x =>
          cases hy : b.scalar? with
          | some y => exact opposed_of_scalar hx hy
          | none =>
              cases a <;> cases flat <;> cases hx <;> cases b <;> cases hy <;>
                exact .refused _ _ (fun _ => rfl) (fun _ => rfl)
  | list xs ih =>
      cases b with
      | list ys =>
          have hxs := areProper_iff.mp ha
          have hys := areProper_iff.mp hb
          exact opposed_of_items (fun x hx y hy =>
            ⟨same_comm (hxs x hx) (hys y hy), ih x hx (hxs x hx) (hys y hy)⟩)
      | _ => exact .refused _ _ (fun _ => rfl) (fun _ => rfl)
  | tuple xs ih =>
      cases b with
      | tuple ys =>
          have hxs := areProper_iff.mp ha
          have hys := areProper_iff.mp hb
          -- tuples are asked about as lists of the same items are
          have asLists : Opposed (list xs) (list ys) := opposed_of_items (fun x hx y hy =>
            ⟨same_comm (hxs x hx) (hys y hy), ih x hx (hxs x hx) (hys y hy)⟩)
          exact asLists.congr (fun _ => rfl) (fun _ => rfl)
      | _ => exact .refused _ _ (fun _ => rfl) (fun _ => rfl)
  | set xs ih =>
      cases b with
      | set ys =>
          obtain ⟨hxs, _⟩ := isProper_set_iff.mp ha
          obtain ⟨hys, _⟩ := isProper_set_iff.mp hb
          exact opposed_of_sets (fun x hx y hy => same_comm (hxs x hx) (hys y hy))
      | _ => exact .refused _ _ (fun _ => rfl) (fun _ => rfl)
  | dict es ih => cases b <;> exact .refused _ _ (fun _ => rfl) (fun _ => rfl)
  | probe id label a raises ih =>
      cases b with
      | probe id' label' b raises' =>
          obtain ⟨rfl, proper⟩ := isProper_probe_iff.mp ha
          obtain ⟨rfl, proper'⟩ := isProper_probe_iff.mp hb
          -- probes that do not fail pass the question on
          exact (ih proper proper').congr (fun _ => rfl) (fun _ => rfl)
      | _ => exact .refused _ _ (fun _ => rfl) (fun _ => rfl)

end Value

/-! ## §6. Three-way comparisons. -/

/-- The result of a comparison as it is from the other side: the reverse ordering, or a
refusal that names the types in the other order. -/
def exchanged : Except Fault Ordering → Except Fault Ordering
  | .ok o => .ok o.swap
  | .error (.incomparable question left right) => .error (.incomparable question right left)
  | .error fault => .error fault

theorem Value.threeWay_of_refused {a b : Value} {left right : String}
    (h : ∀ q : Question, (a.ask q b).outcome = .error (.incomparable q left right)) :
    (Value.threeWay a b).outcome = .error (.incomparable .less left right) := by
  unfold Value.threeWay
  rw [Traced.outcome_bind, askRecorded_outcome, h .less]
  rfl

/-- The outcomes of a comparison from its two sides: an ordering and its reverse, or a
refusal of the first question that names the types in either order. -/
inductive OpposedOutcomes : Except Fault Ordering → Except Fault Ordering → Prop where
  | decided (o : Ordering) : OpposedOutcomes (.ok o) (.ok o.swap)
  | refused (left right : String) :
      OpposedOutcomes (.error (.incomparable .less left right))
        (.error (.incomparable .less right left))

theorem OpposedOutcomes.exchange {forth back : Except Fault Ordering}
    (h : OpposedOutcomes forth back) : back = exchanged forth := by
  cases h <;> rfl

/-- **Proper values are compared alike from both sides.** -/
theorem Value.threeWay_opposed {a b : Value} (ha : a.isProper = true) (hb : b.isProper = true) :
    OpposedOutcomes (Value.threeWay a b).outcome (Value.threeWay b a).outcome := by
  cases Value.opposed ha hb with
  | decided o forth back =>
      rw [Value.threeWay_of_answers forth, Value.threeWay_of_answers back]
      exact .decided o
  | refused left right forth back =>
      rw [Value.threeWay_of_refused forth, Value.threeWay_of_refused back]
      exact .refused left right

theorem Direction.threeWay_opposed (d : Direction) {a b : Value} (ha : a.isProper = true)
    (hb : b.isProper = true) :
    OpposedOutcomes (d.threeWay a b).outcome (d.threeWay b a).outcome := by
  cases d with
  | ascending => exact Value.threeWay_opposed ha hb
  | descending => exact Value.threeWay_opposed hb ha

theorem Direction.threeWay_exchange (d : Direction) {a b : Value} (ha : a.isProper = true)
    (hb : b.isProper = true) : (d.threeWay b a).outcome = exchanged (d.threeWay a b).outcome :=
  (d.threeWay_opposed ha hb).exchange

/-- **So are rows of proper values, under all directions and of all lengths.** -/
theorem threeWayRows_opposed : ∀ (ds : List Direction) {as bs : List Value},
    (∀ a ∈ as, a.isProper = true) → (∀ b ∈ bs, b.isProper = true) →
    OpposedOutcomes (threeWayRows ds as bs).outcome (threeWayRows ds bs as).outcome
  | [], _, _, _, _ => .decided .eq
  | _ :: _, [], [], _, _ => .decided .eq
  | _ :: _, [], _ :: _, _, _ => .decided .eq
  | _ :: _, _ :: _, [], _, _ => .decided .eq
  | d :: ds, a :: as, b :: bs, has, hbs => by
      obtain ⟨ha, has⟩ := List.forall_mem_cons.mp has
      obtain ⟨hb, hbs⟩ := List.forall_mem_cons.mp hbs
      have first := d.threeWay_opposed ha hb
      unfold threeWayRows
      rw [Traced.outcome_bind, Traced.outcome_bind]
      generalize (d.threeWay a b).outcome = forth, (d.threeWay b a).outcome = back at first ⊢
      -- the position decides from both sides, or ties from both sides
      cases first with
      | refused left right => exact .refused left right
      | decided o =>
          cases o with
          | lt => exact .decided .lt
          | eq => exact threeWayRows_opposed ds has hbs
          | gt => exact .decided .gt

theorem threeWayRows_exchange (ds : List Direction) {as bs : List Value}
    (has : ∀ a ∈ as, a.isProper = true) (hbs : ∀ b ∈ bs, b.isProper = true) :
    (threeWayRows ds bs as).outcome = exchanged (threeWayRows ds as bs).outcome :=
  (threeWayRows_opposed ds has hbs).exchange

end OrderBy
