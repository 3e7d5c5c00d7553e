/-
  OrderBy.Proofs.Sorting.RepeatedFields
  ─────────────────────────────────────
  **A FIELD COUNTS WHERE IT OCCURS FIRST; FURTHER OCCURRENCES CAN BE LEFT OUT.**

  By the time a field is compared once more, its values have tied already.  A tie of
  proper values is a tie from both sides, so neither direction breaks it, and the
  repeated position neither decides nor fails:

      a, b DESC, a DESC      sorts as      a, b DESC

  The distinct fields are the same, and so is everything that is read, be the extractors
  what they may.
-/
import OrderBy.Proofs.Order.Exchange
import OrderBy.Proofs.Order.Lexicographic
import OrderBy.Proofs.Sorting.ByPosition
import OrderBy.Proofs.Sorting.Congruence
import OrderBy.Proofs.Sorting.Reversal

namespace OrderBy

variable {σ : Type}

/-! ## §1. Keys of first occurrences. -/

/-- The keys whose field occurs in no earlier key, nor among the fields that were seen in
front of them. -/
def firstKeys (seen : List String) : List SortKey → List SortKey
  | [] => []
  | k :: ks => if k.field ∈ seen then firstKeys seen ks else k :: firstKeys (k.field :: seen) ks

/-- What is distinct stays as it is. -/
theorem distinct_distinct (fields : List String) : distinct (distinct fields) = distinct fields := by
  induction fields with
  | nil => rfl
  | cons f fields ih =>
      show f :: (distinct ((distinct fields).filter (· != f))).filter (· != f)
        = f :: (distinct fields).filter (· != f)
      rw [distinct_filter, ih, List.filter_filter]
      simp only [Bool.and_self]

/-- **The fields of these keys are the distinct ones** that have not been seen. -/
theorem map_field_firstKeys (ks : List SortKey) : ∀ seen : List String,
    (firstKeys seen ks).map SortKey.field
      = (distinct (ks.map SortKey.field)).filter (fun f => decide (f ∉ seen)) := by
  induction ks with
  | nil =>
      intro seen
      rfl
  | cons k ks ih =>
      intro seen
      rw [List.map_cons]
      unfold firstKeys distinct
      by_cases hk : k.field ∈ seen
      · -- the field was seen, so leaving it out of the others changes nothing
        rw [if_pos hk, ih, List.filter_cons_of_neg (by simpa using hk), List.filter_filter]
        refine List.filter_congr fun f _ => ?_
        by_cases hf : f = k.field
        · simp [hf, hk]
        · simp [hf]
      · rw [if_neg hk, List.map_cons, ih, List.filter_cons_of_pos (by simpa using hk),
          List.filter_filter]
        refine congrArg (k.field :: ·) (List.filter_congr fun f _ => ?_)
        by_cases hf : f = k.field
        · simp [hf]
        · simp [hf]

theorem distinct_firstKeys {p p' : Expression} (hkeys : p'.keys = firstKeys [] p.keys) :
    distinct p'.fields = distinct p.fields := by
  have fields : p'.fields = distinct p.fields := by
    unfold Expression.fields
    rw [hkeys, map_field_firstKeys]
    simp
  rw [fields, distinct_distinct]

/-! ## §2. Rows with repeated fields. -/

/-- A tie of proper values is a tie in every direction. -/
theorem Direction.tie_of_tie {d : Direction} {a b : Value} (ha : a.isProper = true)
    (hb : b.isProper = true) (h : (d.threeWay a b).outcome = .ok .eq) (d' : Direction) :
    (d'.threeWay a b).outcome = .ok .eq := by
  have back : (d.threeWay b a).outcome = .ok .eq := by
    rw [d.threeWay_exchange ha hb, h]
    rfl
  cases d <;> cases d' <;> first | exact h | exact back

/-- **Rows are compared as their first occurrences are**, if the fields that were seen tie. -/
theorem threeWayRows_firstKeys {v w : String → Value} : ∀ {ks : List SortKey} {seen : List String},
    (∀ k ∈ ks, (v k.field).isProper = true) → (∀ k ∈ ks, (w k.field).isProper = true) →
    (∀ f ∈ seen, ∀ d : Direction, (d.threeWay (v f) (w f)).outcome = .ok .eq) →
    (threeWayRows (ks.map SortKey.direction) (ks.map (v ·.field)) (ks.map (w ·.field))).outcome
      = (threeWayRows ((firstKeys seen ks).map SortKey.direction)
          ((firstKeys seen ks).map (v ·.field)) ((firstKeys seen ks).map (w ·.field))).outcome
  | [], _, _, _, _ => rfl
  | k :: ks, seen, hv, hw, tied => by
      obtain ⟨hvk, hvks⟩ := List.forall_mem_cons.mp hv
      obtain ⟨hwk, hwks⟩ := List.forall_mem_cons.mp hw
      simp only [List.map_cons]
      unfold firstKeys
      rw [threeWayRows_cons]
      by_cases hk : k.field ∈ seen
      · rw [if_pos hk, onTie_of_tie (tied k.field hk k.direction)]
        exact threeWayRows_firstKeys hvks hwks tied
      · rw [if_neg hk]
        simp only [List.map_cons, threeWayRows_cons]
        by_cases tie : (k.direction.threeWay (v k.field) (w k.field)).outcome = .ok .eq
        · -- from here on this field ties, whichever way it is asked about again
          rw [onTie_of_tie tie, onTie_of_tie tie]
          refine threeWayRows_firstKeys hvks hwks (List.forall_mem_cons.mpr ⟨fun d => ?_, tied⟩)
          exact Direction.tie_of_tie hvk hwk tie d
        · rw [onTie_of_not_tie tie, onTie_of_not_tie tie]

/-! ## §3. Decorated records. -/

/-- The value that was read of a field. -/
def FieldValues.valueOf (values : FieldValues) (f : String) : Value := (values.lookup f).getD .null

theorem FieldValues.key_fields (values : FieldValues) (e : Expression) :
    values.key e.fields = e.keys.map (values.valueOf ·.field) := by
  unfold FieldValues.key Expression.fields
  rw [List.map_map]
  rfl

/-- Decorations of one record with what was read of it, under two expressions. -/
structure SameReading (p p' : Expression) (x y : Decorated) : Prop where
  position : x.position = y.position
  proper : ∀ v ∈ x.key, v.isProper = true
  values : ∃ values : FieldValues, x.key = values.key p.fields ∧ y.key = values.key p'.fields

variable {p p' : Expression}

theorem decorateFrom_sameReading :
    ∀ {position : Nat} {records : List Record} {rows : List FieldValues},
      (∀ d ∈ decorateFrom p.fields position records rows, ∀ v ∈ d.key, v.isProper = true) →
      List.Forall₂ (SameReading p p') (decorateFrom p.fields position records rows)
        (decorateFrom p'.fields position records rows)
  | _, [], _, _ => .nil
  | _, _ :: _, [], _ => .nil
  | position, r :: records, row :: rows, h => by
      obtain ⟨first, others⟩ := List.forall_mem_cons.mp h
      exact .cons ⟨rfl, first, row, rfl, rfl⟩ (decorateFrom_sameReading others)

/-- **Records are asked about alike under all keys and under the first occurrences.** -/
theorem SameReading.before (hkeys : p'.keys = firstKeys [] p.keys) {x x' y y' : Decorated}
    (hx : SameReading p p' x x') (hy : SameReading p p' y y') :
    (Decorated.before p.directions y x).SameThrough Event.question?
      (Decorated.before p'.directions y' x') where
  outcome := by
    obtain ⟨values, hkey, hkey'⟩ := hx.values
    obtain ⟨others, okey, okey'⟩ := hy.values
    rw [FieldValues.key_fields] at hkey hkey' okey okey'
    have proper : ∀ k ∈ p.keys, (values.valueOf k.field).isProper = true :=
      fun k hk => hx.proper _ (hkey ▸ List.mem_map_of_mem hk)
    have proper' : ∀ k ∈ p.keys, (others.valueOf k.field).isProper = true :=
      fun k hk => hy.proper _ (okey ▸ List.mem_map_of_mem hk)
    rw [before_outcome, before_outcome, hkey, hkey', okey, okey', hkeys]
    unfold Expression.directions
    rw [hkeys, threeWayRows_firstKeys proper' proper (List.forall_mem_nil _)]
  events := by
    rw [question_before, question_before, hx.position, hy.position]

/-- **Records with repeated fields are sorted as they are by the first occurrences.** -/
theorem sortDecorated_firstKeys (hkeys : p'.keys = firstKeys [] p.keys) {records : List Record}
    {rows : List FieldValues}
    (increasing : (decorateFrom p.fields 0 records rows).Pairwise
      (fun x y => x.position < y.position))
    (hproper : ∀ d ∈ decorateFrom p.fields 0 records rows, ∀ v ∈ d.key, v.isProper = true) :
    (List.map Decorated.position <$> sortDecorated p.directions
        (decorateFrom p.fields 0 records rows)).SameThrough Event.question?
      (List.map Decorated.position <$> sortDecorated p'.directions
        (decorateFrom p'.fields 0 records rows)) :=
  sortDecorated_sameThrough (decorateFrom_sameReading hproper) (fun _ _ h => h.position) increasing
    fun _ _ _ _ hx hy _ => SameReading.before hkeys hx hy

/-! ## §4. Sorting. -/

section Sorts

variable {s : Sorter} {schedule : List Nat} {source : Source} {criterion : Criterion}
  {e : Expression} {records : List Record} {concurrent : Bool} {extractors : Extractors σ} {st : σ}
  (hread : (criterion.read s.parser).outcome = .ok e) (hsource : source.toList = .ok records)
  (hworkers : s.isConcurrent = .ok concurrent)

include hread hsource hworkers

/-- What is read in a sort is read for its distinct fields. -/
theorem reading_events :
    ((s.sort schedule source criterion extractors).events st).filter Event.isReading
      = (((askRows concurrent schedule (distinct e.fields) records.length).run extractors
          records).events st).filter Event.isReading := by
  unfold Sorter.sort
  rw [Run.events_map, sortKeyed_events hread hsource hworkers, List.filter_append,
    (without_log (fun _ => rfl) _).filter_eq_nil, List.nil_append, Run.events_bind,
    List.filter_append]
  refine (congrArg (_ ++ ·) (Without.filter_eq_nil ?_)).trans (List.append_nil _)
  split
  · exact sortAndLog_without e _ _
  · exact List.forall_mem_nil _

end Sorts

/-- **Repeated fields are redundant.**

Leave out of an expression every key whose field occurs in an earlier key, whatever the
directions.  Sorting returns the same records in the same order or fails with the same
fault, reads the same fields in the same sequence, and asks about the same records.

The extractors may answer differently on every call, or fail.  The values may be of any
kind, comparable or not; it is only asked of what was read to be proper, so that no probe in
it fails. -/
theorem sort_repeatedFields (s : Sorter) (schedule : List Nat) (source : Source)
    (criterion criterion' : Criterion) (extractors : Extractors σ) (st : σ)
    {records : List Record} {concurrent : Bool} (hkeys : p'.keys = firstKeys [] p.keys)
    (hread : (criterion.read s.parser).outcome = .ok p)
    (hread' : (criterion'.read s.parser).outcome = .ok p') (hsource : source.toList = .ok records)
    (hworkers : s.isConcurrent = .ok concurrent)
    (hproper : ∀ decorated, (decorate concurrent schedule p.fields extractors records).outcome st
      = .ok decorated → ∀ d ∈ decorated, ∀ v ∈ d.key, v.isProper = true) :
    (s.sort schedule source criterion extractors).outcome st
        = (s.sort schedule source criterion' extractors).outcome st
      ∧ s.order schedule source criterion extractors st
        = s.order schedule source criterion' extractors st
      ∧ ((s.sort schedule source criterion extractors).events st).filter Event.isReading
        = ((s.sort schedule source criterion' extractors).events st).filter Event.isReading
      ∧ s.questions schedule source criterion extractors st
        = s.questions schedule source criterion' extractors st := by
  have fields := distinct_firstKeys hkeys
  -- both sorts go on from the same rows
  have alike : ∀ rows, ((askRows concurrent schedule (distinct p.fields) records.length).run
      extractors records).outcome st = .ok rows →
      (List.map Decorated.position <$> sortDecorated p.directions
          (decorateFrom p.fields 0 records rows)).SameThrough Event.question?
        (List.map Decorated.position <$> sortDecorated p'.directions
          (decorateFrom p'.fields 0 records rows)) := by
    intro rows hrows
    have decorated := decorate_of_rows hrows
    exact sortDecorated_firstKeys hkeys (decorate_shape decorated).increasing (hproper _ decorated)
  have order : s.order schedule source criterion extractors st
      = s.order schedule source criterion' extractors st := by
    rw [order_eq hread hsource hworkers, order_eq hread' hsource hworkers, fields]
    cases hrows : ((askRows concurrent schedule (distinct p.fields) records.length).run extractors
        records).outcome st with
    | error fault => rfl
    | ok rows =>
        have outcome := (alike rows hrows).outcome
        rwa [Traced.outcome_map, Traced.outcome_map] at outcome
  have questions : s.questions schedule source criterion extractors st
      = s.questions schedule source criterion' extractors st := by
    rw [questions_eq, questions_eq, comparisons_eq hread hsource hworkers,
      comparisons_eq hread' hsource hworkers, fields]
    cases hrows : ((askRows concurrent schedule (distinct p.fields) records.length).run extractors
        records).outcome st with
    | error fault => rfl
    | ok rows =>
        have events := (alike rows hrows).events
        rw [Traced.events_map, Traced.events_map] at events
        simp only [filterMap_question_filter]
        exact events
  refine ⟨?_, order, ?_, questions⟩
  · rw [sort_outcome_of_order hread hsource hworkers, order,
      ← sort_outcome_of_order hread' hsource hworkers]
  · rw [reading_events hread hsource hworkers, reading_events hread' hsource hworkers, fields]

/-- A record with a set of texts and a text. -/
def setAndText (n : Nat) (members : List String) (b : String) : Record :=
  ⟨n, .object [("a", .set (members.map .text)), ("b", .text b)]⟩

/-- Two sets of which neither includes the other, and one that includes both. -/
def threeSets : List Record :=
  [setAndText 0 ["x"] "m", setAndText 1 ["y"] "n", setAndText 2 ["x", "y"] "m"]

/-- The key `a`, then the key `b` descending, then the key `a` again, descending. -/
def aBackAgain : Expression where
  text := "a, b DESC, a DESC"
  keys := upDown.keys ++ [⟨"a", .descending, isFieldName_a⟩]
  keys_ne_nil := List.cons_ne_nil _ _

/-- The sets of the first two records tie, and still do when they are looked at the other
way round, so that the texts decide in either sort. -/
theorem sort_repeatedFields_sets :
    Sorter.standard.order [] (.records threeSets) (.parsed aBackAgain) ([] : Extractors Unit) ()
        = .ok [1, 0, 2]
      ∧ Sorter.standard.order [] (.records threeSets) (.parsed upDown) ([] : Extractors Unit) ()
        = .ok [1, 0, 2] := by
  have keys : upDown.keys = firstKeys [] aBackAgain.keys := rfl
  have proper : ∀ decorated, (decorate false [] aBackAgain.fields ([] : Extractors Unit)
      threeSets).outcome () = .ok decorated → ∀ d ∈ decorated, ∀ v ∈ d.key, v.isProper = true := by
    intro decorated h
    obtain rfl := Except.ok.inj h
    decide
  obtain ⟨_, order, _⟩ := sort_repeatedFields Sorter.standard [] (.records threeSets)
    (.parsed aBackAgain) (.parsed upDown) ([] : Extractors Unit) () keys rfl rfl rfl
    Sorter.isConcurrent_standard proper
  have computed : Sorter.standard.order [] (.records threeSets) (.parsed upDown)
      ([] : Extractors Unit) () = .ok [1, 0, 2] := by
    rw [order_eq (e := upDown) rfl rfl Sorter.isConcurrent_standard]
    rfl
  exact ⟨order.trans computed, computed⟩

end OrderBy
