/-
  OrderBy.Proofs.Sorting.Misfits
  ──────────────────────────────
  **VALUES THAT CANNOT BE COMPARED ARE NEVER SILENTLY PUT IN AN ORDER.**

  A sort asks few of all possible questions, and yet it comes upon a misfit wherever it
  stands: a sort that returned would have an answer about every two neighbours of its
  output, and neighbours that answer each other are of one class throughout.

  With a single key it comes upon the FIRST misfit in the input:

      v₀ v₁ … vᵢ₋₁      of one class, so every question about them is answered
      v₀ v₁ … vᵢ₋₁ vᵢ   not of one class, so sorting these fails at a question about vᵢ

  and with it fails the sort of the whole.
-/
import OrderBy.Proofs.Faults
import OrderBy.Proofs.Order.ValueClass
import OrderBy.Proofs.Reading.Values
import OrderBy.Proofs.Sorting.Answered
import OrderBy.Proofs.Sorting.Neighbours

namespace OrderBy

open BinaryInsertion

variable {σ : Type}

/-! ## §1. Questions about two records. -/

/-- The value of a record under its first key. -/
def Decorated.first (d : Decorated) : Value := d.key.headD .null

/-- Every record has a first value, and it is compared as a whole. -/
def Classed (xs : List Decorated) : Prop :=
  ∀ x ∈ xs, x.key ≠ [] ∧ ∃ c, x.first.class? = some c

variable {d : Direction} {ds : List Direction} {x y : Decorated} {c c' : ValueClass}

/-- Records whose first values are not of one ordered class refuse to be compared, whatever
their other values are. -/
theorem before_of_not_sameClass (hx : x.key ≠ []) (hy : y.key ≠ [])
    (hcx : x.first.class? = some c) (hcy : y.first.class? = some c')
    (h : ¬ Value.SameClass x.first y.first) :
    (Decorated.before (d :: ds) x y).outcome = .error (d.refusal x.first y.first) := by
  obtain ⟨i, r, key⟩ := x
  obtain ⟨j, r', key'⟩ := y
  cases key with
  | nil => exact absurd rfl hx
  | cons a as =>
      cases key' with
      | nil => exact absurd rfl hy
      | cons b bs =>
          have refused : (d.threeWay a b).outcome = .error (d.refusal a b) :=
            d.threeWay_of_not_sameClass hcx hcy h
          rw [before_outcome]
          unfold threeWayRows
          rw [Traced.outcome_bind, refused]
          rfl

/-- An answer about two records is an answer about values of one ordered class. -/
theorem sameClass_of_before {answer : Bool} (hx : x.key ≠ []) (hy : y.key ≠ [])
    (hcx : x.first.class? = some c) (hcy : y.first.class? = some c')
    (h : (Decorated.before (d :: ds) x y).outcome = .ok answer) :
    Value.SameClass x.first y.first := by
  by_contra different
  rw [before_of_not_sameClass hx hy hcx hcy different] at h
  cases h

/-- Records with one value each answer if their values are of one ordered class. -/
theorem before_of_sameClass {a b : Value} (hx : x.key = [a]) (hy : y.key = [b])
    (h : Value.SameClass x.first y.first) :
    ∃ answer, (Decorated.before [d] x y).outcome = .ok answer := by
  have same : Value.SameClass a b := by
    unfold Decorated.first at h
    rwa [hx, hy] at h
  obtain ⟨o, ho⟩ := same.threeWay_direction d
  rw [before_outcome, hx, hy]
  unfold threeWayRows
  rw [Traced.outcome_bind, ho]
  cases o <;> exact ⟨_, rfl⟩

/-! ## §2. Sorting decorated records. -/

variable {xs out : List Decorated}

/-- **A sort that returns has sorted values of one ordered class.** -/
theorem oneClass_of_sortDecorated (size : 2 ≤ xs.length)
    (increasing : xs.Pairwise (fun x y => x.position < y.position)) (classed : Classed xs)
    (h : (sortDecorated (d :: ds) xs).outcome = .ok out) : OneClass (xs.map Decorated.first) := by
  have perm := (sortDecorated_without_perm (d :: ds) xs).2 out h
  have classedOut : Classed out := fun x hx => classed x (perm.mem_iff.mp hx)
  have placed := isChain_of_outcome (fun hxy => by omega) increasing h
  -- neighbours of the output answer each other, one way or the other
  have neighbours : (out.map Decorated.first).IsChain Value.SameClass := by
    rw [List.isChain_map]
    rw [List.isChain_iff_getElem] at placed ⊢
    intro i hi
    obtain ⟨hx, c, hcx⟩ := classedOut out[i] (List.getElem_mem _)
    obtain ⟨hy, c', hcy⟩ := classedOut out[i + 1] (List.getElem_mem hi)
    rcases placed i hi with ⟨_, second⟩ | ⟨_, first⟩
    · exact (sameClass_of_before hy hx hcy hcx second).symm
    · exact sameClass_of_before hx hy hcx hcy first
  have sizeOut : 2 ≤ (out.map Decorated.first).length := by
    rw [List.length_map, perm.length_eq]
    exact size
  obtain ⟨c, ordered, classes⟩ := oneClass_of_isChain sizeOut neighbours
  exact ⟨c, ordered, fun v hv => classes v ((perm.map Decorated.first).mem_iff.mpr hv)⟩

/-- Every record has one value, and it is compared as a whole. -/
def SoleClassed (xs : List Decorated) : Prop :=
  ∀ x ∈ xs, ∃ v c, x.key = [v] ∧ v.class? = some c

theorem SoleClassed.classed (h : SoleClassed xs) : Classed xs := by
  intro x hx
  obtain ⟨v, c, hv, hc⟩ := h x hx
  unfold Decorated.first
  rw [hv]
  exact ⟨List.cons_ne_nil _ _, c, hc⟩

/-- A sort by one key of values of one ordered class returns. -/
theorem sortDecorated_of_oneClass (sole : SoleClassed xs) (h : OneClass (xs.map Decorated.first)) :
    ∃ out, (sortDecorated [d] xs).outcome = .ok out := by
  refine exists_sorted (List.pairwise_of_forall_mem_list fun x hx y hy => ?_)
  obtain ⟨a, _, ha, _⟩ := sole x hx
  obtain ⟨b, _, hb, _⟩ := sole y hy
  exact before_of_sameClass hb ha (h.sameClass (List.mem_map_of_mem (f := Decorated.first) hy)
    (List.mem_map_of_mem (f := Decorated.first) hx))

/-- A refusal of the record at a position, asked about with an earlier one. -/
def RefusesAt (d : Direction) (xs : List Decorated) (i : Nat) (fault : Fault) : Prop :=
  ∃ j < i, ∃ x y, xs[i]? = some x ∧ xs[j]? = some y ∧ fault = d.refusal x.first y.first

/-- Up to the first misfit no other questions are refused than those about the misfit. -/
theorem before_failsOnly_of_firstMisfit (sole : SoleClassed xs) {i : Nat}
    (h : FirstMisfit (xs.map Decorated.first) i) :
    (xs.take (i + 1)).Pairwise fun earlier later =>
      (Decorated.before [d] later earlier).FailsOnly (RefusesAt d xs i) := by
  rw [List.pairwise_iff_getElem]
  intro p q hp hq hpq
  rw [List.length_take] at hp hq
  rw [List.getElem_take, List.getElem_take]
  obtain ⟨a, _, ha, _⟩ := sole xs[p] (List.getElem_mem _)
  obtain ⟨b, _, hb, _⟩ := sole xs[q] (List.getElem_mem _)
  by_cases same : Value.SameClass xs[q].first xs[p].first
  · obtain ⟨answer, hanswer⟩ := before_of_sameClass hb ha same
    exact .ok hanswer
  · obtain ⟨keyed, c, hc⟩ := sole.classed xs[p] (List.getElem_mem _)
    obtain ⟨keyed', c', hc'⟩ := sole.classed xs[q] (List.getElem_mem _)
    have last : q = i := by
      by_contra earlier
      have values : ∀ (k : Nat) (hk : k < xs.length),
          (xs.map Decorated.first)[k]? = some xs[k].first := by
        intro k hk
        rw [List.getElem?_map, List.getElem?_eq_getElem hk]
        rfl
      exact same (h.sameClass hpq (by omega) (values p _) (values q _)).symm
    subst last
    refine .error (before_of_not_sameClass keyed' keyed hc' hc same) ?_
    exact ⟨p, hpq, _, _, List.getElem?_eq_getElem _, List.getElem?_eq_getElem _, rfl⟩

/-- A prefix that ends with the first misfit fails with a refusal of the misfit. -/
theorem sortDecorated_take_of_firstMisfit
    (increasing : xs.Pairwise (fun x y => x.position < y.position)) (sole : SoleClassed xs)
    {i : Nat} (h : FirstMisfit (xs.map Decorated.first) i) :
    ∃ fault, RefusesAt d xs i fault
      ∧ (sortDecorated [d] (xs.take (i + 1))).outcome = .error fault := by
  cases hout : (sortDecorated [d] (xs.take (i + 1))).outcome with
  | error fault =>
      exact ⟨fault, sort_failsOnly (before_failsOnly_of_firstMisfit sole h) fault hout, rfl⟩
  | ok out =>
      -- a sort that returned would have found no misfit
      have size : 2 ≤ (xs.take (i + 1)).length := by
        have pos := h.pos
        have inside : i < xs.length := List.length_map Decorated.first ▸ h.lt
        rw [List.length_take]
        omega
      have fitting := oneClass_of_sortDecorated size increasing.take
        (fun x hx => sole.classed x (List.mem_of_mem_take hx)) hout
      rw [List.map_take] at fitting
      exact absurd fitting h.misfit

/-- **A sort by one key fails at the first misfit**, asked about with an earlier record. -/
theorem sortDecorated_of_firstMisfit
    (increasing : xs.Pairwise (fun x y => x.position < y.position)) (sole : SoleClassed xs)
    {i : Nat} (h : FirstMisfit (xs.map Decorated.first) i) :
    ∃ fault, RefusesAt d xs i fault ∧ (sortDecorated [d] xs).outcome = .error fault := by
  obtain ⟨fault, refuses, refused⟩ := sortDecorated_take_of_firstMisfit (d := d) increasing sole h
  have whole := sort_append_of_error refused (xs.drop (i + 1))
  rw [List.take_append_drop] at whole
  exact ⟨fault, refuses, whole⟩

/-- It fails in no other case. -/
theorem sortDecorated_error_iff (size : 2 ≤ xs.length)
    (increasing : xs.Pairwise (fun x y => x.position < y.position)) (sole : SoleClassed xs) :
    (∃ fault, (sortDecorated [d] xs).outcome = .error fault)
      ↔ ¬ OneClass (xs.map Decorated.first) := by
  constructor
  · rintro ⟨fault, hfault⟩ oneClass
    obtain ⟨out, hout⟩ := sortDecorated_of_oneClass (d := d) sole oneClass
    rw [hout] at hfault
    cases hfault
  · intro misfits
    rw [← List.length_map Decorated.first] at size
    obtain ⟨i, hi⟩ := exists_firstMisfit size misfits
    obtain ⟨fault, _, refused⟩ := sortDecorated_of_firstMisfit (d := d) increasing sole hi
    exact ⟨fault, refused⟩

/-! ## §3. Which faults there are. -/

/-- A refusal to say which of two values is less. -/
def Fault.IsRefusal (fault : Fault) : Prop := ∃ left right, fault = .incomparable .less left right

/-- Rows of proper values are compared or refused. -/
theorem threeWayRows_failsOnly_refusals (ds : List Direction) {as bs : List Value}
    (has : ∀ a ∈ as, a.isProper = true) (hbs : ∀ b ∈ bs, b.isProper = true) :
    (threeWayRows ds as bs).FailsOnly Fault.IsRefusal := by
  have opposed := threeWayRows_opposed ds has hbs
  intro fault hfault
  rw [hfault] at opposed
  generalize (threeWayRows ds bs as).outcome = back at opposed
  cases opposed with
  | refused left right => exact ⟨left, right, rfl⟩

theorem sortDecorated_failsOnly_refusals (ds : List Direction)
    (hproper : ∀ x ∈ xs, ∀ v ∈ x.key, v.isProper = true) :
    (sortDecorated ds xs).FailsOnly Fault.IsRefusal :=
  sort_failsOnly (List.pairwise_of_forall_mem_list fun x hx y hy =>
    before_failsOnly (threeWayRows_failsOnly_refusals ds (hproper y hy) (hproper x hx)))

/-! ## §4. Sorting records. -/

/-- Fewer than two records are not compared. -/
theorem sortDecorated_of_length_le_one (ds : List Direction) (h : xs.length ≤ 1) :
    sortDecorated ds xs = ⟨[], .ok xs⟩ := by
  match xs, h with
  | [], _ => rfl
  | [x], _ => rfl

/-- Decorated records have a value under the first key. -/
theorem Decorates.classed {e : Expression} {records : List Record}
    (h : Decorates e.fields.length records xs) (firsts : ∀ x ∈ xs, ∃ c, x.first.class? = some c) :
    Classed xs := by
  intro x hx
  refine ⟨fun empty => ?_, firsts x hx⟩
  have width := h.keys x hx
  rw [empty] at width
  have keys : e.keys.length = 0 := List.length_map SortKey.field ▸ width.symm
  exact e.keys_ne_nil (List.length_eq_zero_iff.mp keys)

/-- By a single key they have one value each. -/
theorem Decorates.soleClassed {e : Expression} {records : List Record}
    (h : Decorates e.fields.length records xs) (firsts : ∀ x ∈ xs, ∃ c, x.first.class? = some c)
    {k : SortKey} (sole : e.keys = [k]) : SoleClassed xs := by
  intro x hx
  have width := h.keys x hx
  unfold Expression.fields at width
  rw [sole] at width
  obtain ⟨v, hv⟩ := List.length_eq_one_iff.mp width
  obtain ⟨c, hc⟩ := firsts x hx
  unfold Decorated.first at hc
  rw [hv] at hc
  exact ⟨v, c, hv, hc⟩

/-- Expressions have a first direction. -/
theorem Expression.exists_directions (e : Expression) : ∃ d ds, e.directions = d :: ds := by
  obtain ⟨k, ks, keys⟩ := List.exists_cons_of_ne_nil e.keys_ne_nil
  unfold Expression.directions
  rw [keys]
  exact ⟨_, _, rfl⟩

/-- **Values that cannot be compared are never silently put in an order.**

Fewer than two records are returned, whatever their values are.  If the first values of
more records are compared as a whole and are not all numbers, all texts or all bytes, the
sort is refused, whatever the further keys are.  By a single key it is refused in no other
case, and then at the first record that does not fit to those in front of it: with its type
and that of an earlier record, in this order if the key ascends and in the other one if
it descends. -/
theorem sort_refuses_misfits (s : Sorter) (schedule : List Nat) (source : Source)
    (criterion : Criterion) (extractors : Extractors σ) (st : σ) {e : Expression}
    {records : List Record} {concurrent : Bool} {decorated : List Decorated}
    (hread : (criterion.read s.parser).outcome = .ok e) (hsource : source.toList = .ok records)
    (hworkers : s.isConcurrent = .ok concurrent)
    (hreads : (decorate concurrent schedule e.fields extractors records).outcome st
      = .ok decorated) :
    Decorates e.fields.length records decorated
      ∧ (records.length ≤ 1 →
          (s.sort schedule source criterion extractors).outcome st = .ok records)
      ∧ (2 ≤ records.length → (∀ d ∈ decorated, ∃ c, d.first.class? = some c) →
          ¬ OneClass (decorated.map Decorated.first) →
          (∀ d ∈ decorated, ∀ v ∈ d.key, v.isProper = true) →
          ∃ left right, (s.sort schedule source criterion extractors).outcome st
            = .error (.incomparable .less left right))
      ∧ (∀ k, e.keys = [k] → 2 ≤ records.length → (∀ d ∈ decorated, ∃ c, d.first.class? = some c) →
          ((∃ fault, (s.sort schedule source criterion extractors).outcome st = .error fault)
              ↔ ¬ OneClass (decorated.map Decorated.first))
            ∧ (¬ OneClass (decorated.map Decorated.first) →
                ∃ i, FirstMisfit (decorated.map Decorated.first) i)
            ∧ ∀ i, FirstMisfit (decorated.map Decorated.first) i →
                ∃ j < i, ∃ x y, decorated[i]? = some x ∧ decorated[j]? = some y
                  ∧ (s.sort schedule source criterion extractors).outcome st
                    = .error (k.direction.refusal x.first y.first)
                  ∧ (k.direction.refusal x.first y.first).message? = some (match k.direction with
                    | .ascending => "'<' not supported between instances of '"
                        ++ x.first.typeName ++ "' and '" ++ y.first.typeName ++ "'"
                    | .descending => "'<' not supported between instances of '"
                        ++ y.first.typeName ++ "' and '" ++ x.first.typeName ++ "'")) := by
  have shape := decorate_shape hreads
  have size : decorated.length = records.length := by
    rw [← shape.records, List.length_map]
  have sorts := sort_of_decorate hread hsource hworkers hreads
  rw [sorts]
  refine ⟨shape, fun few => ?_, fun many classed misfits proper => ?_, fun k sole many classed => ?_⟩
  · rw [sortDecorated_of_length_le_one _ (size ▸ few)]
    exact congrArg Except.ok shape.records
  · obtain ⟨d, ds, directions⟩ := e.exists_directions
    cases hout : (sortDecorated e.directions decorated).outcome with
    | ok out =>
        rw [directions] at hout
        exact absurd (oneClass_of_sortDecorated (size ▸ many) shape.increasing
          (shape.classed classed) hout) misfits
    | error fault =>
        obtain ⟨left, right, rfl⟩ := sortDecorated_failsOnly_refusals _ proper fault hout
        exact ⟨left, right, rfl⟩
  · have directions : e.directions = [k.direction] := by
      unfold Expression.directions
      rw [sole]
      rfl
    have soles := shape.soleClassed classed sole
    simp only [directions, map_eq_error]
    refine ⟨sortDecorated_error_iff (size ▸ many) shape.increasing soles, ?_, fun i hi => ?_⟩
    · refine exists_firstMisfit ?_
      rw [List.length_map, size]
      exact many
    · obtain ⟨_, ⟨j, hj, x, y, hx, hy, rfl⟩, refused⟩ :=
        sortDecorated_of_firstMisfit (d := k.direction) shape.increasing soles hi
      exact ⟨j, hj, x, y, hx, hy, refused, k.direction.refusal_message _ _⟩

/-- Two numbers, a text, and nothing. -/
def mixedRows : List Decorated :=
  [recordOfA 0 (.int 3), recordOfA 1 (.bool true), recordOfA 2 (.text "x"), recordOfA 3 .null]

/-- The text is the first misfit, and the sort ends with it. -/
theorem sort_refuses_misfits_mixed :
    FirstMisfit (mixedRows.map Decorated.first) 2
      ∧ ∃ j < 2, ∃ x y, mixedRows[2]? = some x ∧ mixedRows[j]? = some y
        ∧ (Sorter.standard.sort [] (.records (mixedRows.map Decorated.record)) (.parsed soleA)
            ([] : Extractors Unit)).outcome ()
          = .error (.incomparable .less x.first.typeName y.first.typeName) := by
  have classed : ∀ d ∈ mixedRows, ∃ c, d.first.class? = some c := by
    intro d hd
    simp only [mixedRows, List.mem_cons, List.not_mem_nil, or_false] at hd
    rcases hd with rfl | rfl | rfl | rfl <;> exact ⟨_, rfl⟩
  have firstMisfit : FirstMisfit (mixedRows.map Decorated.first) 2 := by
    refine ⟨by decide, by decide, ?_, ?_⟩
    · rintro ⟨c, _, classes⟩
      have number := classes (.int 3) (by simp [mixedRows, recordOfA, Decorated.first])
      have text := classes (.text "x") (by simp [mixedRows, recordOfA, Decorated.first])
      cases number
      cases text
    · intro j _ _
      obtain rfl : j = 1 := by omega
      refine ⟨.number, ValueClass.noConfusion, ?_⟩
      simp [mixedRows, recordOfA, Decorated.first, Value.class?]
  have reads : (decorate false [] ["a"] ([] : Extractors Unit)
      (mixedRows.map Decorated.record)).outcome () = .ok mixedRows := rfl
  obtain ⟨_, _, _, single⟩ := sort_refuses_misfits Sorter.standard []
    (.records (mixedRows.map Decorated.record)) (.parsed soleA) ([] : Extractors Unit) () rfl rfl
    Sorter.isConcurrent_standard reads
  obtain ⟨_, _, refused⟩ := single _ rfl (by decide) classed
  obtain ⟨j, hj, x, y, hx, hy, fault, _⟩ := refused 2 firstMisfit
  exact ⟨firstMisfit, j, hj, x, y, hx, hy, fault⟩

end OrderBy
