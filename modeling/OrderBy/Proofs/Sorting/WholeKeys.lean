/-
  OrderBy.Proofs.Sorting.WholeKeys
  ────────────────────────────────
  **ROWS ARE COMPARED PART BY PART, AND A SORT LEAVES NO PART OUT.**

  A comparison of rows goes on with what stands behind a first part only if that part
  ties; a fault or a decision in it is the last word, for the outcome and for the trace:

      first part faults     that fault, and its comparisons
      first part decides    that decision, and its comparisons
      first part ties       the outcome of the rest, and the comparisons of both

  The recursion stops with the shortest of the three rows, so keys could be lost.  In a
  sort none is.  Every comparison that a sort makes is one of two decorated records, and a
  record that is decorated has a value for every key: fields that occur in several keys
  are read once, but the key repeats what was read of them.
-/
import OrderBy.Proofs.Order.Lexicographic
import OrderBy.Proofs.Reading.Values

namespace OrderBy

variable {σ ω : Type}

/-! ## §1. Parts of rows. -/

/-- A comparison goes through a first one and, if that ties, through a second one. -/
structure Traced.Continues (whole first second : Traced Comparison Ordering) : Prop where
  faulted : ∀ fault, first.outcome = .error fault →
    whole.outcome = .error fault ∧ whole.events = first.events
  decided : ∀ o, first.outcome = .ok o → o ≠ .eq →
    whole.outcome = .ok o ∧ whole.events = first.events
  tied : first.outcome = .ok .eq →
    whole.outcome = second.outcome ∧ whole.events = first.events ++ second.events

theorem continues_onTie (t u : Traced Comparison Ordering) : (onTie t u).Continues t u where
  faulted := by
    intro fault faulted
    rw [onTie_of_not_tie (by rw [faulted]; exact nofun)]
    exact ⟨faulted, rfl⟩
  decided := by
    intro o decided strict
    rw [onTie_of_not_tie (by rw [decided]; exact fun tie => strict (Except.ok.inj tie))]
    exact ⟨decided, rfl⟩
  tied := by
    intro tie
    rw [onTie_of_tie tie]
    exact ⟨rfl, rfl⟩

/-- One comparison after another ties iff both do. -/
theorem onTie_eq_tie_iff {t u : Traced Comparison Ordering} :
    (onTie t u).outcome = .ok .eq ↔ t.outcome = .ok .eq ∧ u.outcome = .ok .eq := by
  by_cases tie : t.outcome = .ok .eq
  · rw [onTie_of_tie tie]
    exact (and_iff_right tie).symm
  · rw [onTie_of_not_tie tie]
    exact iff_of_false tie fun both => tie both.1

/-! ## §2. What a sort compares. -/

/-- The simulation that says which questions the events of a computation come from. -/
def BinaryInsertion.Simulation.asking {α : Type} (before : α → α → Traced ω Bool)
    (P : α × α → Prop) : Simulation (Traced ω) Id where
  rel Q t _ := (∃ asked : List (α × α), (∀ p ∈ asked, P p)
      ∧ t.events = asked.flatMap fun p => (before p.1 p.2).events)
    ∧ ∀ b, t.outcome = .ok b → Q b
  rel_pure h := ⟨⟨[], List.forall_mem_nil _, rfl⟩, fun _ hb => Except.ok.inj hb ▸ h⟩
  rel_bind {_ _ _ _ t _ f _} h k := by
    obtain ⟨⟨asked, hasked, events⟩, result⟩ := h
    cases ht : t.outcome with
    | error fault =>
        rw [Traced.bind_error ht]
        exact ⟨⟨asked, hasked, events⟩, fun _ hb => nomatch hb⟩
    | ok b =>
        obtain ⟨⟨others, hothers, events'⟩, result'⟩ := k b (result b ht)
        rw [Traced.bind_ok ht]
        refine ⟨⟨asked ++ others, List.forall_mem_append.mpr ⟨hasked, hothers⟩, ?_⟩, result'⟩
        rw [List.flatMap_append, ← events, ← events']
  rel_mono h k := ⟨h.1, fun b hb => k b (h.2 b hb)⟩

/-- **The events of a sort are those of questions about its items**, also where one of them
is not answered. -/
theorem BinaryInsertion.exists_asked {α : Type} (before : α → α → Traced ω Bool) (xs : List α) :
    ∃ asked : List (α × α), (∀ p ∈ asked, p.1 ∈ xs ∧ p.2 ∈ xs)
      ∧ (BinaryInsertion.sort before xs).events
        = asked.flatMap fun p => (before p.1 p.2).events := by
  have asks : xs.Pairwise ((Simulation.asking before fun p => p.1 ∈ xs ∧ p.2 ∈ xs).Asks before
      (fun _ _ => pure false)) := by
    apply List.pairwise_of_forall_mem_list
    intro earlier hearlier later hlater
    refine ⟨⟨[(later, earlier)], List.forall_mem_singleton.mpr ⟨hlater, hearlier⟩, ?_⟩, ?_⟩
    · exact (List.append_nil _).symm
    · exact fun _ _ => trivial
  exact ((Simulation.asking before fun p => p.1 ∈ xs ∧ p.2 ∈ xs).sort asks).1

/-- A question about two decorated records leaves events of comparing only. -/
theorem isComparing_of_mem_before {ds : List Direction} {x y : Decorated} {ev : Event}
    (h : ev ∈ (Decorated.before ds x y).events) : ev.isComparing = true := by
  rw [before_events] at h
  rcases List.mem_cons.mp h with rfl | h
  · rfl
  · obtain ⟨c, _, rfl⟩ := List.mem_map.mp h
    rfl

/-! ## §3. Whole keys. -/

/-- A decorated record has the answer for every key of an expression, in order. -/
def HasFullKey (answer : Nat → String → Except Fault Value) (e : Expression) (d : Decorated) :
    Prop :=
  List.Forall₂ (fun k v => answer d.position k.field = .ok v) e.keys d.key

variable {answer : Nat → String → Except Fault Value} {e : Expression} {d : Decorated}

theorem HasFullKey.length (h : HasFullKey answer e d) : d.key.length = e.keys.length :=
  (List.Forall₂.length_eq h).symm

/-- The row of the distinct fields has a value for every key, repetitions included. -/
theorem HasFullKey.of_answeredRow {row : FieldValues} (key : d.key = row.key e.fields)
    (h : answeredRow answer d.position (distinct e.fields) = .ok row) : HasFullKey answer e d := by
  unfold HasFullKey
  unfold FieldValues.key Expression.fields at key
  rw [key, List.map_map, List.forall₂_map_right_iff, List.forall₂_same]
  intro k hk
  have distinctly : k.field ∈ distinct e.fields :=
    (mem_distinct k.field).mpr (List.mem_map_of_mem hk)
  obtain ⟨v, found, answered⟩ := lookup_of_answeredRow h k.field distinctly
  -- the value that stands in for a missing one is never needed
  show answer d.position k.field = .ok ((row.lookup k.field).getD .null)
  rw [found, answered]
  rfl

/-- Records that are joined with the rows of the answers have full keys. -/
theorem HasFullKey.of_answeredRows :
    ∀ {records : List Record} {position : Nat} {rows : List FieldValues},
      answeredRows answer (distinct e.fields) (List.range' position records.length) = .ok rows →
      ∀ d ∈ decorateFrom e.fields position records rows, HasFullKey answer e d
  | [], _, _, _ => List.forall_mem_nil _
  | r :: records, position, rows, h => by
      rw [List.length_cons, List.range'_succ, answeredRows_cons] at h
      cases hrow : answeredRow answer position (distinct e.fields) with
      | error fault =>
          rw [hrow] at h
          cases h
      | ok row =>
          cases hrest : answeredRows answer (distinct e.fields)
              (List.range' (position + 1) records.length) with
          | error fault =>
              rw [hrow, hrest] at h
              cases h
          | ok rest =>
              rw [hrow, hrest] at h
              obtain rfl := Except.ok.inj h
              intro d hd
              rcases List.mem_cons.mp hd with rfl | hd
              · exact .of_answeredRow rfl hrow
              · exact of_answeredRows hrest d hd

/-- **Values of all keys tie iff those of every key do.** -/
theorem threeWayRows_tie_iff {i j : Nat} {ks : List SortKey} {as bs : List Value}
    (has : List.Forall₂ (fun k v => answer i k.field = .ok v) ks as)
    (hbs : List.Forall₂ (fun k v => answer j k.field = .ok v) ks bs) :
    (threeWayRows (ks.map SortKey.direction) as bs).outcome = .ok .eq
      ↔ ∀ k ∈ ks, ∀ a b, answer i k.field = .ok a → answer j k.field = .ok b →
          (k.direction.threeWay a b).outcome = .ok .eq := by
  induction has generalizing bs with
  | nil => exact iff_of_true rfl (List.forall_mem_nil _)
  | @cons k a ks as ha _ ih =>
      cases hbs with
      | @cons _ b _ bs hb hbs =>
          rw [List.map_cons, threeWayRows_cons, onTie_eq_tie_iff, ih hbs, List.forall_mem_cons]
          -- the answers for the first key are the values at the first position
          refine and_congr_left fun _ => ⟨fun tie a' b' ha' hb' => ?_, fun ties => ties a b ha hb⟩
          obtain rfl := Except.ok.inj (ha.symm.trans ha')
          obtain rfl := Except.ok.inj (hb.symm.trans hb')
          exact tie

/-- Two decorated records are compared under all keys of an expression: the row of
directions and both rows of values have an entry for every key, so that a tie is a tie
under every key. -/
structure ComparedWhole (answer : Nat → String → Except Fault Value) (e : Expression)
    (x y : Decorated) : Prop where
  left : HasFullKey answer e x
  right : HasFullKey answer e y
  directions_length : e.directions.length = e.keys.length
  left_length : x.key.length = e.keys.length
  right_length : y.key.length = e.keys.length
  tie_iff : (threeWayRows e.directions x.key y.key).outcome = .ok .eq
    ↔ ∀ k ∈ e.keys, ∀ a b, answer x.position k.field = .ok a → answer y.position k.field = .ok b →
        (k.direction.threeWay a b).outcome = .ok .eq

theorem HasFullKey.comparedWhole {x y : Decorated} (hx : HasFullKey answer e x)
    (hy : HasFullKey answer e y) : ComparedWhole answer e x y where
  left := hx
  right := hy
  directions_length := List.length_map _
  left_length := hx.length
  right_length := hy.length
  tie_iff := threeWayRows_tie_iff hx hy

/-! ## §4. Sorting. -/

section Sorts

variable {s : Sorter} {schedule : List Nat} {source : Source} {criterion : Criterion}
  {extractors : Extractors σ} {st : σ}

/-- A sort that does not get to its readings compares nothing. -/
theorem FailsUntouched.comparisons_eq_nil {fault : Fault}
    (h : FailsUntouched (s.sort schedule source criterion extractors) st fault) :
    s.comparisons schedule source criterion extractors st = [] := by
  have uncompared := h.uncompared
  unfold Sorter.sort at uncompared
  rw [Run.events_map] at uncompared
  exact uncompared.filter_eq_nil

variable (s schedule source criterion extractors st) in
/-- A sort that compares anything has an expression, records and a number of workers. -/
theorem comparisons_eq_nil_or_phases :
    s.comparisons schedule source criterion extractors st = []
      ∨ ∃ e records concurrent, (criterion.read s.parser).outcome = .ok e
          ∧ source.toList = .ok records ∧ s.isConcurrent = .ok concurrent := by
  cases hread : (criterion.read s.parser).outcome with
  | error fault => exact .inl (sort_of_unread hread).comparisons_eq_nil
  | ok e =>
      cases hsource : source.toList with
      | error fault => exact .inl (sort_of_unlisted hread hsource).comparisons_eq_nil
      | ok records =>
          cases hworkers : s.isConcurrent with
          | error fault => exact .inl (sort_of_uncounted hread hsource hworkers).comparisons_eq_nil
          | ok concurrent => exact .inr ⟨e, records, concurrent, rfl, rfl, rfl⟩

variable {records : List Record} {concurrent : Bool}

/-- **A sort compares nothing but whole keys.** -/
theorem exists_comparedWhole (hread : (criterion.read s.parser).outcome = .ok e)
    (hsource : source.toList = .ok records) (hworkers : s.isConcurrent = .ok concurrent)
    (give : GiveAnswers answer (sortReadings concurrent schedule e extractors records st)) :
    ∃ asked : List (Decorated × Decorated),
      s.comparisons schedule source criterion extractors st
          = asked.flatMap (fun p => .question p.1.position p.2.position
              :: (threeWayRows e.directions p.1.key p.2.key).events.map .comparison)
        ∧ ∀ p ∈ asked, ComparedWhole answer e p.1 p.2 := by
  rw [comparisons_of_answers hread hsource hworkers give, List.range_eq_range']
  cases hrows : answeredRows answer (distinct e.fields) (List.range' 0 records.length) with
  | error fault =>
      -- a reading has failed, so nothing is compared
      exact ⟨[], rfl, List.forall_mem_nil _⟩
  | ok rows =>
      have full := HasFullKey.of_answeredRows hrows
      obtain ⟨asked, inside, events⟩ := BinaryInsertion.exists_asked
        (Decorated.before e.directions) (decorateFrom e.fields 0 records rows)
      refine ⟨asked, ?_, fun p hp => (full _ (inside p hp).1).comparedWhole (full _ (inside p hp).2)⟩
      simp only [← before_events]
      show (sortDecorated e.directions _).events.filter Event.isComparing = _
      unfold sortDecorated
      rw [events, List.filter_eq_self]
      intro ev hev
      obtain ⟨p, _, hev⟩ := List.mem_flatMap.mp hev
      exact isComparing_of_mem_before hev

end Sorts

/-- **Keys are compared part by part, and in a sort as a whole.**

Rows whose first parts are as long as their directions are compared as the first parts,
and on a tie, of which nothing else is known, as the second parts: with the same result,
the same fault and the same comparisons.  The second parts may be of any lengths.

A sort makes its comparisons, if any, when it has an expression, records and workers; and
its readings have answers.  Each comparison is of two decorated records that have the answer
for every key, the same field as often as it is named, so that all rows are as long as
there are keys, and records tie only if they tie under every key. -/
theorem keys_comparedInParts :
    (∀ (ds ds' : List Direction) (as bs as' bs' : List Value),
        as.length = ds.length → bs.length = ds.length →
        (threeWayRows (ds ++ ds') (as ++ as') (bs ++ bs')).Continues
          (threeWayRows ds as bs) (threeWayRows ds' as' bs'))
      ∧ (∀ (σ : Type) (s : Sorter) (schedule : List Nat) (source : Source) (criterion : Criterion)
          (extractors : Extractors σ) (st : σ),
          s.comparisons schedule source criterion extractors st = []
          ∨ ∃ e records concurrent answer, ∃ asked : List (Decorated × Decorated),
              (criterion.read s.parser).outcome = .ok e ∧ source.toList = .ok records
              ∧ s.isConcurrent = .ok concurrent
              ∧ GiveAnswers answer (sortReadings concurrent schedule e extractors records st)
              ∧ s.comparisons schedule source criterion extractors st
                = asked.flatMap (fun p => .question p.1.position p.2.position
                    :: (threeWayRows e.directions p.1.key p.2.key).events.map .comparison)
              ∧ ∀ p ∈ asked, ComparedWhole answer e p.1 p.2) := by
  constructor
  · intro ds ds' as bs as' bs' has hbs
    rw [threeWayRows_append has hbs]
    exact continues_onTie _ _
  · intro σ s schedule source criterion extractors st
    rcases comparisons_eq_nil_or_phases s schedule source criterion extractors st with
      none | ⟨e, records, concurrent, hread, hsource, hworkers⟩
    · exact .inl none
    · obtain ⟨answer, give⟩ := exists_answers hread hsource hworkers
      obtain ⟨asked, comparisons, whole⟩ := exists_comparedWhole hread hsource hworkers give
      exact .inr ⟨e, records, concurrent, answer, asked, hread, hsource, hworkers, give, comparisons,
        whole⟩

/-- Two records with the same texts. -/
def twins : List Record :=
  [⟨0, .object [("a", .text "x"), ("b", .text "y")]⟩, ⟨1, .object [("b", .text "y"), ("a", .text "x")]⟩]

/-- A tie is followed by a refusal under the second of three directions, for which one row
is too short.  Twins are compared once, by three values each, although two fields of
them were read. -/
theorem keys_comparedInParts_twins :
    (threeWayRows [.ascending, .descending, .ascending] [.text "x", .null]
        [.text "x", .int 1, .int 2]).outcome = .error (.incomparable .less "int" "NoneType")
      ∧ ∃ asked : List (Decorated × Decorated), asked ≠ []
        ∧ Sorter.standard.comparisons [] (.records twins) (.parsed repeatedB)
            ([] : Extractors Unit) ()
          = asked.flatMap (fun p => .question p.1.position p.2.position
              :: (threeWayRows repeatedB.directions p.1.key p.2.key).events.map .comparison)
        ∧ ∀ p ∈ asked, p.1.key.length = 3 ∧ p.2.key.length = 3 := by
  obtain ⟨parts, sorts⟩ := keys_comparedInParts
  have continues := parts [.ascending] [.descending, .ascending] [.text "x"] [.text "x"] [.null]
    [.int 1, .int 2] rfl rfl
  have compares : ∃ others, Sorter.standard.comparisons [] (.records twins) (.parsed repeatedB)
      ([] : Extractors Unit) () = .question 1 0 :: others := by
    rw [comparisons_eq (e := repeatedB) rfl rfl Sorter.isConcurrent_standard]
    exact ⟨_, rfl⟩
  obtain ⟨others, compares⟩ := compares
  refine ⟨(continues.tied rfl).1, ?_⟩
  rcases sorts Unit Sorter.standard [] (.records twins) (.parsed repeatedB) [] () with
    none | ⟨e, _, _, _, asked, hread, _, _, _, comparisons, whole⟩
  · rw [compares] at none
    cases none
  · obtain rfl : repeatedB = e := Except.ok.inj hread
    refine ⟨asked, ?_, comparisons, ?_⟩
    · rintro rfl
      rw [compares] at comparisons
      cases comparisons
    · intro p hp
      exact ⟨(whole p hp).left_length, (whole p hp).right_length⟩

end OrderBy
