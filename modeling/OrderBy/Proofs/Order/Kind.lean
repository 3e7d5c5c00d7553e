/-
  OrderBy.Proofs.Order.Kind
  ─────────────────────────
  **VALUES OF ONE KIND ARE TOTALLY ORDERED.**

  The kinds of value that have a total order: numbers without NaN, texts, bytes,
  and lists or tuples of one kind, nested to any depth.  On values of one kind
  neither question is ever refused, and one comparison gives both answers:

      ask .less a b      succeeds with   compare a b = lt
      ask .greater a b   succeeds with   compare a b = gt
      same a b           holds iff       compare a b = eq

  The comparison is defined on all values, so that its laws need no side
  condition; what it says about values of other kinds does not matter.
-/
import OrderBy.KeyOrder
import OrderBy.Proofs.Outcome

namespace OrderBy

/-! ## §1. Kinds. -/

/-- A kind of values with a total order. -/
inductive Kind where
  | number
  | text
  | bytes
  | list (item : Kind)
  | tuple (item : Kind)

/-- A number that has a place in the order: every one but NaN. -/
def Number.IsOrdered : Number → Prop
  | .nan _ => False
  | _ => True

/-- The values of a kind. -/
def Kind.Has : Kind → Value → Prop
  | number, v => ∃ n, v.scalar? = some (.number n) ∧ n.IsOrdered
  | text, v => ∃ s, v.scalar? = some (.text s)
  | bytes, v => ∃ bs, v.scalar? = some (.bytes bs)
  | list item, v => ∃ xs, v = .list xs ∧ ∀ x ∈ xs, item.Has x
  | tuple item, v => ∃ xs, v = .tuple xs ∧ ∀ x ∈ xs, item.Has x

/-! ## §2. The comparison of a kind. -/

/-- On which side of the finite numbers a number lies. -/
def Number.side : Number → Int
  | .infinite true => -1
  | .infinite false => 1
  | _ => 0

/-- The units of a finite number. -/
def Number.units : Number → Int
  | .exact n => n
  | _ => 0

/-- Numbers are compared by their side, and finite ones by their units. -/
def Number.compare : Number → Number → Ordering :=
  compareLex (compareOn Number.side) (compareOn Number.units)

/-- The number that a value is, if it is one. -/
def Value.asNumber (v : Value) : Number :=
  match v.scalar? with
  | some (.number n) => n
  | _ => .exact 0

/-- The text that a value is, if it is one. -/
def Value.asText (v : Value) : String :=
  match v.scalar? with
  | some (.text s) => s
  | _ => ""

/-- The bytes that a value is, if it is bytes. -/
def Value.asBytes (v : Value) : List UInt8 :=
  match v.scalar? with
  | some (.bytes bs) => bs
  | _ => []

/-- The items of a value, if it is a list or a tuple. -/
def Value.asItems : Value → List Value
  | .list xs | .tuple xs => xs
  | _ => []

/-- The comparison of the values of a kind. -/
def Kind.compare : Kind → Value → Value → Ordering
  | number => fun a b => Number.compare a.asNumber b.asNumber
  | text => compareOn Value.asText
  | bytes => compareOn Value.asBytes
  | list item | tuple item => fun a b => List.compareLex item.compare a.asItems b.asItems

/-! ## §3. It is a total preorder. -/

instance : Std.TransCmp Number.compare :=
  inferInstanceAs (Std.TransCmp (compareLex (compareOn Number.side) (compareOn Number.units)))

/-- Comparing what a function makes of two things keeps the laws. -/
theorem transCmp_comap {α β : Type} (f : α → β) (cmp : β → β → Ordering) [Std.TransCmp cmp] :
    Std.TransCmp (fun a b => cmp (f a) (f b)) where
  eq_swap := Std.OrientedCmp.eq_swap
  isLE_trans := Std.TransCmp.isLE_trans

instance Kind.transCmp_compare (k : Kind) : Std.TransCmp k.compare := by
  induction k with
  | number => exact transCmp_comap Value.asNumber Number.compare
  | text => exact inferInstanceAs (Std.TransCmp (compareOn Value.asText))
  | bytes => exact inferInstanceAs (Std.TransCmp (compareOn Value.asBytes))
  | list item ih => exact transCmp_comap Value.asItems (List.compareLex item.compare)
  | tuple item ih => exact transCmp_comap Value.asItems (List.compareLex item.compare)

/-! ## §4. Scalars. -/

/-- What a comparison answers to a question. -/
def Question.ofOrdering : Question → Ordering → Bool
  | .less, o => o == .lt
  | .greater, o => o == .gt

/-- Asking the other way round is asking about the exchanged comparison. -/
theorem Question.ofOrdering_swap (o : Ordering) :
    Question.greater.ofOrdering o = Question.less.ofOrdering o.swap := by
  cases o <;> rfl

theorem Number.less_eq {x y : Number} (hx : x.IsOrdered) (hy : y.IsOrdered) :
    x.less y = (Number.compare x y == .lt) := by
  -- only two finite numbers have something to compare besides their sides
  have finite : ∀ m n : Int,
      (exact m).less (exact n) = (Number.compare (exact m) (exact n) == .lt) := by
    intro m n
    show decide (m < n) = (Ord.compare m n == .lt)
    rw [Bool.eq_iff_iff, decide_eq_true_iff, beq_iff_eq, Int.compare_eq_lt]
  rcases x with m | (_ | _) | _ <;> rcases y with n | (_ | _) | _ <;>
    first
      | exact hx.elim
      | exact hy.elim
      | exact finite _ _
      | rfl

/-- Whole numbers are ordered as they are, whatever the unit. -/
theorem Number.less_ofInt (m n : Int) : (ofInt m).less (ofInt n) = decide (m < n) := by
  have positive : (0 : Int) < (Binary64.unitsPerOne : Int) := by
    rw [Int.natCast_pos]
    apply Nat.pow_pos
    omega
  show decide (m * (Binary64.unitsPerOne : Int) < n * (Binary64.unitsPerOne : Int)) = _
  rw [Bool.eq_iff_iff, decide_eq_true_iff, decide_eq_true_iff]
  constructor
  · intro h
    exact Int.lt_of_mul_lt_mul_right h (Int.le_of_lt positive)
  · intro h
    exact Int.mul_lt_mul_of_pos_right h positive

theorem Number.eq_iff_compare {x y : Number} (hx : x.IsOrdered) (hy : y.IsOrdered) :
    x = y ↔ Number.compare x y = .eq := by
  unfold Number.compare
  rw [compareLex_eq_eq]
  unfold compareOn
  rcases x with m | (_ | _) | _ <;> rcases y with n | (_ | _) | _ <;>
    first
      | exact hx.elim
      | exact hy.elim
      | simp [Number.side, Number.units]

/-- Scalars are the same if they are equal. -/
theorem Value.same_of_scalar {a b : Value} {x y : Scalar} (ha : a.scalar? = some x)
    (hb : b.scalar? = some y) : Value.same a b = decide (x = y) := by
  cases a <;> simp only [Value.scalar?, reduceCtorEq] at ha <;>
    cases b <;> simp only [Value.scalar?, reduceCtorEq] at hb <;>
      simp_all [Value.same, Value.scalar?]

/-- Scalars of one kind answer by the order of that kind. -/
theorem Value.ask_of_scalar {a b : Value} {x y : Scalar} (ha : a.scalar? = some x)
    (hb : b.scalar? = some y) {less greater : Bool} (hless : x.less? y = some less)
    (hgreater : y.less? x = some greater) (q : Question) :
    (a.ask q b).outcome = .ok (match q with | .less => less | .greater => greater) := by
  -- scalars have no items to look into and are no sets
  have flat : a.ask q b = a.askFlat q b := by
    cases a <;> simp only [Value.scalar?, reduceCtorEq] at ha <;> rfl
  have notSet : ∀ xs, a ≠ .set xs := by
    intro xs h
    subst h
    cases ha
  rw [flat]
  unfold Value.askFlat
  split
  · exact absurd rfl (notSet _)
  · rw [ha, hb]
    cases q
    · simp [hless]
    · simp [hgreater]

theorem decide_lt_text (s t : String) : decide (s < t) = (Ord.compare s t == .lt) := by
  rw [Bool.eq_iff_iff, decide_eq_true_iff, beq_iff_eq]
  exact compareOfLessAndEq_eq_lt.symm

theorem lt_bytes_iff : ∀ as bs : List UInt8, as < bs ↔ Ord.compare as bs = .lt
  | [], [] => by simp
  | [], _ :: _ => by simp
  | _ :: _, [] => by simp
  | a :: as, b :: bs => by
      have head : a < b ↔ Ord.compare a b = .lt := compareOfLessAndEq_eq_lt.symm
      rw [List.cons_lt_cons_iff, lt_bytes_iff as bs, List.compare_cons_cons,
        Ordering.then_eq_lt, Std.LawfulEqOrd.compare_eq_iff_eq, head]

theorem decide_lt_bytes (as bs : List UInt8) :
    decide (as < bs) = (Ord.compare as bs == .lt) := by
  rw [Bool.eq_iff_iff, decide_eq_true_iff, beq_iff_eq, lt_bytes_iff]

/-! ## §5. The answers are those of the comparison. -/

/-- What it means for two values that a comparison decides sameness and both
questions. -/
structure Value.DecidedBy (cmp : Value → Value → Ordering) (a b : Value) : Prop where
  same : Value.same a b = (cmp a b == .eq)
  ask : ∀ q : Question, (a.ask q b).outcome = .ok (q.ofOrdering (cmp a b))

/-- Scalars are decided by every comparison that agrees with their order. -/
theorem Value.decidedBy_of_scalar {cmp : Value → Value → Ordering} [Std.OrientedCmp cmp]
    {a b : Value} {x y : Scalar} (ha : a.scalar? = some x) (hb : b.scalar? = some y)
    (heq : x = y ↔ cmp a b = .eq) (hless : x.less? y = some (cmp a b == .lt))
    (hgreater : y.less? x = some (cmp b a == .lt)) : Value.DecidedBy cmp a b where
  same := by
    rw [Value.same_of_scalar ha hb, Bool.eq_iff_iff, decide_eq_true_iff, beq_iff_eq, heq]
  ask := by
    intro q
    have swapped : cmp b a = (cmp a b).swap := Std.OrientedCmp.eq_swap
    rw [Value.ask_of_scalar ha hb hless hgreater, swapped]
    cases q
    · rfl
    · rw [Question.ofOrdering_swap]
      rfl

/-- A comparison that decides the items of two sequences decides whether the
sequences are the same … -/
theorem Value.sameItems_of_decided {cmp : Value → Value → Ordering} :
    ∀ {xs ys : List Value}, (∀ x ∈ xs, ∀ y ∈ ys, Value.DecidedBy cmp x y) →
      Value.sameItems xs ys = (List.compareLex cmp xs ys == .eq)
  | [], [], _ => rfl
  | [], _ :: _, _ => rfl
  | _ :: _, [], _ => rfl
  | x :: xs, y :: ys, h => by
      have head := (h x List.mem_cons_self y List.mem_cons_self).same
      have tail : Value.sameItems xs ys = (List.compareLex cmp xs ys == .eq) :=
        Value.sameItems_of_decided (fun a ha b hb =>
          h a (List.mem_cons_of_mem _ ha) b (List.mem_cons_of_mem _ hb))
      rw [List.compareLex_cons_cons]
      show (Value.same x y && Value.sameItems xs ys) = _
      rw [head, tail]
      cases cmp x y <;> rfl

/-- … and both questions about them. -/
theorem Value.askItems_of_decided {cmp : Value → Value → Ordering} (q : Question) :
    ∀ {xs ys : List Value}, (∀ x ∈ xs, ∀ y ∈ ys, Value.DecidedBy cmp x y) →
      (Value.askItems q xs ys).outcome = .ok (q.ofOrdering (List.compareLex cmp xs ys))
  | [], [], _ => by cases q <;> rfl
  | [], _ :: _, _ => by cases q <;> rfl
  | _ :: _, [], _ => by cases q <;> rfl
  | x :: xs, y :: ys, h => by
      have head := h x List.mem_cons_self y List.mem_cons_self
      rw [List.compareLex_cons_cons]
      show (if Value.same x y then Value.askItems q xs ys else Value.ask q x y).outcome = _
      rw [head.same]
      by_cases tie : cmp x y = .eq
      · rw [tie]
        exact Value.askItems_of_decided q (fun a ha b hb =>
          h a (List.mem_cons_of_mem _ ha) b (List.mem_cons_of_mem _ hb))
      · -- the first items differ, so they decide
        rw [if_neg (by simpa using tie), head.ask q]
        cases ho : cmp x y
        · rfl
        · exact absurd ho tie
        · rfl

/-- **The comparison of a kind decides everything about values of that kind.** -/
theorem Kind.decidedBy_compare (k : Kind) :
    ∀ {a b : Value}, k.Has a → k.Has b → Value.DecidedBy k.compare a b := by
  induction k with
  | number =>
      intro a b hasA hasB
      obtain ⟨x, ha, hx⟩ := hasA
      obtain ⟨y, hb, hy⟩ := hasB
      have asX : a.asNumber = x := by simp only [Value.asNumber, ha]
      have asY : b.asNumber = y := by simp only [Value.asNumber, hb]
      refine Value.decidedBy_of_scalar ha hb ?_ ?_ ?_ <;>
        simp only [Kind.compare, asX, asY, Scalar.less?]
      · rw [Scalar.number.injEq, Number.eq_iff_compare hx hy]
      · rw [Number.less_eq hx hy]
      · rw [Number.less_eq hy hx]
  | text =>
      intro a b hasA hasB
      obtain ⟨s, ha⟩ := hasA
      obtain ⟨t, hb⟩ := hasB
      have asS : a.asText = s := by simp only [Value.asText, ha]
      have asT : b.asText = t := by simp only [Value.asText, hb]
      refine Value.decidedBy_of_scalar ha hb ?_ ?_ ?_ <;>
        simp only [Kind.compare, compareOn, asS, asT, Scalar.less?]
      · rw [Scalar.text.injEq, Std.LawfulEqOrd.compare_eq_iff_eq]
      · rw [decide_lt_text]
      · rw [decide_lt_text]
  | bytes =>
      intro a b hasA hasB
      obtain ⟨as, ha⟩ := hasA
      obtain ⟨bs, hb⟩ := hasB
      have asA : a.asBytes = as := by simp only [Value.asBytes, ha]
      have asB : b.asBytes = bs := by simp only [Value.asBytes, hb]
      refine Value.decidedBy_of_scalar ha hb ?_ ?_ ?_ <;>
        simp only [Kind.compare, compareOn, asA, asB, Scalar.less?]
      · rw [Scalar.bytes.injEq, Std.LawfulEqOrd.compare_eq_iff_eq]
      · rw [decide_lt_bytes]
      · rw [decide_lt_bytes]
  | list item ih =>
      intro a b hasA hasB
      obtain ⟨xs, rfl, hxs⟩ := hasA
      obtain ⟨ys, rfl, hys⟩ := hasB
      have items : ∀ x ∈ xs, ∀ y ∈ ys, Value.DecidedBy item.compare x y :=
        fun x hx y hy => ih (hxs x hx) (hys y hy)
      exact ⟨Value.sameItems_of_decided items, fun q => Value.askItems_of_decided q items⟩
  | tuple item ih =>
      intro a b hasA hasB
      obtain ⟨xs, rfl, hxs⟩ := hasA
      obtain ⟨ys, rfl, hys⟩ := hasB
      have items : ∀ x ∈ xs, ∀ y ∈ ys, Value.DecidedBy item.compare x y :=
        fun x hx y hy => ih (hxs x hx) (hys y hy)
      exact ⟨Value.sameItems_of_decided items, fun q => Value.askItems_of_decided q items⟩

/-! ## §6. Homogeneous values. -/

/-- A number that is not NaN: a truth value, an integer or a double. -/
def Value.IsNumber : Value → Prop
  | .bool _ | .int _ => True
  | .float (.nan _) => False
  | .float _ => True
  | _ => False

/-- A text; a direction is the text that is its name. -/
def Value.IsText : Value → Prop
  | .text _ | .direction _ => True
  | _ => False

/-- Bytes. -/
def Value.IsBytes : Value → Prop
  | .bytes _ => True
  | _ => False

/-- Values of one sort through and through: all of them numbers, or texts, or
bytes, or lists whose items taken together are homogeneous, or such tuples. -/
inductive Homogeneous : List Value → Prop where
  | numbers {vs : List Value} : (∀ v ∈ vs, v.IsNumber) → Homogeneous vs
  | texts {vs : List Value} : (∀ v ∈ vs, v.IsText) → Homogeneous vs
  | bytes {vs : List Value} : (∀ v ∈ vs, v.IsBytes) → Homogeneous vs
  | lists {xss : List (List Value)} : Homogeneous xss.flatten → Homogeneous (xss.map .list)
  | tuples {xss : List (List Value)} : Homogeneous xss.flatten → Homogeneous (xss.map .tuple)

theorem Value.isNumber_iff (v : Value) : v.IsNumber ↔ Kind.number.Has v := by
  constructor
  · intro h
    cases v with
    | bool b => exact ⟨_, rfl, trivial⟩
    | int n => exact ⟨_, rfl, trivial⟩
    | float x => cases x <;> first | exact h.elim | exact ⟨_, rfl, trivial⟩
    | _ => exact h.elim
  · intro h
    obtain ⟨n, hn, ordered⟩ := h
    cases v with
    | bool b => trivial
    | int n => trivial
    | float x =>
        cases x <;> first | trivial | skip
        simp only [Value.scalar?, Number.ofBinary64, Option.some.injEq,
          Scalar.number.injEq] at hn
        subst hn
        exact ordered.elim
    | _ => cases hn

theorem Value.isText_iff (v : Value) : v.IsText ↔ Kind.text.Has v := by
  constructor
  · intro h
    cases v <;> first | exact h.elim | exact ⟨_, rfl⟩
  · intro h
    obtain ⟨s, hs⟩ := h
    cases v <;> first | trivial | cases hs

theorem Value.isBytes_iff (v : Value) : v.IsBytes ↔ Kind.bytes.Has v := by
  constructor
  · intro h
    cases v <;> first | exact h.elim | exact ⟨_, rfl⟩
  · intro h
    obtain ⟨bs, hbs⟩ := h
    cases v <;> first | trivial | cases hbs

/-- Sequences of one sort are what that sort makes of their items. -/
theorem Value.map_asItems {wrap : List Value → Value} {P : Value → Prop} {vs : List Value}
    (hwrap : ∀ xs, (wrap xs).asItems = xs)
    (h : ∀ v ∈ vs, ∃ xs, v = wrap xs ∧ ∀ x ∈ xs, P x) :
    (∀ x ∈ (vs.map Value.asItems).flatten, P x)
      ∧ (vs.map Value.asItems).map wrap = vs := by
  constructor
  · intro x hx
    obtain ⟨_, hm, hx⟩ := List.mem_flatten.mp hx
    obtain ⟨v, hv, rfl⟩ := List.mem_map.mp hm
    obtain ⟨xs, rfl, hxs⟩ := h v hv
    rw [hwrap] at hx
    exact hxs x hx
  · rw [List.map_map, List.map_congr_left (g := id), List.map_id]
    intro v hv
    obtain ⟨xs, rfl, _⟩ := h v hv
    show wrap (wrap xs).asItems = wrap xs
    rw [hwrap]

/-- **Values are homogeneous iff there is a kind that has all of them.** -/
theorem homogeneous_iff {vs : List Value} :
    Homogeneous vs ↔ ∃ k : Kind, ∀ v ∈ vs, k.Has v := by
  constructor
  · intro h
    induction h with
    | numbers h => exact ⟨.number, fun v hv => v.isNumber_iff.mp (h v hv)⟩
    | texts h => exact ⟨.text, fun v hv => v.isText_iff.mp (h v hv)⟩
    | bytes h => exact ⟨.bytes, fun v hv => v.isBytes_iff.mp (h v hv)⟩
    | lists _ ih =>
        obtain ⟨k, hk⟩ := ih
        refine ⟨.list k, fun v hv => ?_⟩
        obtain ⟨xs, hxs, rfl⟩ := List.mem_map.mp hv
        exact ⟨xs, rfl, fun x hx => hk x (List.mem_flatten.mpr ⟨xs, hxs, hx⟩)⟩
    | tuples _ ih =>
        obtain ⟨k, hk⟩ := ih
        refine ⟨.tuple k, fun v hv => ?_⟩
        obtain ⟨xs, hxs, rfl⟩ := List.mem_map.mp hv
        exact ⟨xs, rfl, fun x hx => hk x (List.mem_flatten.mpr ⟨xs, hxs, hx⟩)⟩
  · -- a kind has been built from the inside, so the values are taken apart with it
    intro h
    obtain ⟨k, hk⟩ := h
    induction k generalizing vs with
    | number => exact .numbers (fun v hv => v.isNumber_iff.mpr (hk v hv))
    | text => exact .texts (fun v hv => v.isText_iff.mpr (hk v hv))
    | bytes => exact .bytes (fun v hv => v.isBytes_iff.mpr (hk v hv))
    | list item ih =>
        obtain ⟨items, rebuilt⟩ := Value.map_asItems (fun _ => rfl) hk
        rw [← rebuilt]
        exact .lists (ih items)
    | tuple item ih =>
        obtain ⟨items, rebuilt⟩ := Value.map_asItems (fun _ => rfl) hk
        rw [← rebuilt]
        exact .tuples (ih items)

end OrderBy
