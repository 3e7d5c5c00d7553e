/-
  OrderBy.Proofs.Sorting.LowerKeys
  ────────────────────────────────
  **LOWER KEYS ARE LOOKED AT ON A TIE OF THE UPPER ONES, AND NOT OTHERWISE.**

  Let an expression have the keys of another one and then some lower ones.  Two records
  that do not tie on the upper keys are compared by these alone, and a record is never
  compared with itself:

      no two records tie on the upper keys   →   the lower ones are not looked at
      one record ties with no other          →   its values of the lower keys are not

  What is not looked at can be anything, also values that cannot be compared.
-/
import OrderBy.Proofs.Faults
import OrderBy.Proofs.Order.Lexicographic
import OrderBy.Proofs.Sorting.ByPosition
import OrderBy.Proofs.Sorting.Congruence
import OrderBy.Proofs.Sorting.MultiPass

namespace OrderBy

variable {σ σ' : Type} {value value' : Record → String → Value} {p e : Expression}
  {lower : List SortKey}

/-! ## §1. Rows of upper and lower values. -/

theorem fields_upper (hkeys : e.keys = p.keys ++ lower) :
    e.fields = p.fields ++ lower.map SortKey.field := by
  unfold Expression.fields
  rw [hkeys, List.map_append]

theorem directions_upper (hkeys : e.keys = p.keys ++ lower) :
    e.directions = p.directions ++ lower.map SortKey.direction := by
  unfold Expression.directions
  rw [hkeys, List.map_append]

/-- A row has the values of the upper keys and then those of the lower ones. -/
theorem rowOf_upper (hkeys : e.keys = p.keys ++ lower) (value : Record → String → Value)
    (r : Record) : rowOf value e r = rowOf value p r ++ lower.map (value r ·.field) := by
  unfold rowOf
  rw [fields_upper hkeys, List.map_append, List.map_map]
  rfl

theorem length_rowOf (value : Record → String → Value) (e : Expression) (r : Record) :
    (rowOf value e r).length = e.directions.length := by
  simp only [rowOf, Expression.fields, Expression.directions, List.length_map]

/-- Rows are compared by the upper keys and, on a tie, by the lower ones. -/
theorem threeWayRows_upper (hkeys : e.keys = p.keys ++ lower) (value : Record → String → Value)
    (r r' : Record) :
    threeWayRows e.directions (rowOf value e r) (rowOf value e r')
      = onTie (threeWayRows p.directions (rowOf value p r) (rowOf value p r'))
          (threeWayRows (lower.map SortKey.direction) (lower.map (value r ·.field))
            (lower.map (value r' ·.field))) := by
  rw [directions_upper hkeys, rowOf_upper hkeys, rowOf_upper hkeys]
  exact threeWayRows_append (length_rowOf value p r) (length_rowOf value p r')

/-- Two records tie on the upper keys. -/
def TiesOn (value : Record → String → Value) (p : Expression) (r r' : Record) : Prop :=
  (threeWayRows p.directions (rowOf value p r) (rowOf value p r')).outcome = .ok .eq

/-- Records that do not tie are compared by the upper keys alone. -/
theorem threeWayRows_of_not_tiesOn (hkeys : e.keys = p.keys ++ lower) {r r' : Record}
    (h : ¬ TiesOn value p r r') :
    threeWayRows e.directions (rowOf value e r) (rowOf value e r')
      = threeWayRows p.directions (rowOf value p r) (rowOf value p r') := by
  rw [threeWayRows_upper hkeys, onTie_of_not_tie h]

/-- A row is made of the values of its fields. -/
theorem rowOf_congr {r r' : Record} (h : ∀ f ∈ e.fields, value' r' f = value r f) :
    rowOf value' e r' = rowOf value e r :=
  List.map_congr_left h

/-! ## §2. Changes that no tie notices. -/

/-- Records that have been replaced by others: with the same values of the upper keys, and, if
they tie with any other record, of all keys. -/
structure ChangedOffTies (p e : Expression) (value value' : Record → String → Value)
    (records records' : List Record) : Prop where
  size : records'.length = records.length
  upper : ∀ (i : Nat) r r', records[i]? = some r → records'[i]? = some r' →
    ∀ f ∈ p.fields, value' r' f = value r f
  tying : ∀ (i j : Nat) r r' t, i ≠ j → records[i]? = some r → records'[i]? = some r' →
    records[j]? = some t → TiesOn value p r t ∨ TiesOn value p t r →
    ∀ f ∈ e.fields, value' r' f = value r f

/-- **Such records are compared as those that they replace.** -/
theorem ChangedOffTies.threeWayRows {records records' : List Record}
    (h : ChangedOffTies p e value value' records records') (hkeys : e.keys = p.keys ++ lower)
    {i j : Nat} {r t r' t' : Record} (hij : i ≠ j) (hr : records[i]? = some r)
    (ht : records[j]? = some t) (hr' : records'[i]? = some r') (ht' : records'[j]? = some t') :
    threeWayRows e.directions (rowOf value e t) (rowOf value e r)
      = threeWayRows e.directions (rowOf value' e t') (rowOf value' e r') := by
  by_cases tie : TiesOn value p t r
  · -- records that tie have not been changed
    rw [rowOf_congr (h.tying i j r r' t hij hr hr' ht (.inr tie)),
      rowOf_congr (h.tying j i t t' r hij.symm ht ht' hr (.inl tie))]
  · have upperRows : rowOf value' p r' = rowOf value p r ∧ rowOf value' p t' = rowOf value p t :=
      ⟨rowOf_congr (h.upper i r r' hr hr'), rowOf_congr (h.upper j t t' ht ht')⟩
    have tie' : ¬ TiesOn value' p t' r' := by
      unfold TiesOn
      rwa [upperRows.1, upperRows.2]
    rw [threeWayRows_of_not_tiesOn hkeys tie, threeWayRows_of_not_tiesOn hkeys tie', upperRows.1,
      upperRows.2]

/-! ## §3. Sorting. -/

section Sorts

variable {s : Sorter} (schedule schedule' : List Nat) {source : Source}
  {criterion criterion' : Criterion} {extractors : Extractors σ} (st st' : σ)
  {records : List Record} {concurrent : Bool}

/-- Records of which every two can be compared are sorted. -/
theorem exists_sort_of_compared (hread : (criterion.read s.parser).outcome = .ok p)
    (hsource : source.toList = .ok records) (hworkers : s.isConcurrent = .ok concurrent)
    (hreads : ReadsAs extractors p.fields records value)
    (h : ∀ (i j : Nat) r t, i ≠ j → records[i]? = some r → records[j]? = some t →
      ∃ o, (threeWayRows p.directions (rowOf value p r) (rowOf value p t)).outcome = .ok o) :
    ∃ out, (s.sort schedule source criterion extractors).outcome st = .ok out := by
  have shape := decorates_decoratedAs value p records
  obtain ⟨sorted, hsorted⟩ : ∃ sorted,
      (sortDecorated p.directions (decoratedAs value p records)).outcome = .ok sorted := by
    refine BinaryInsertion.exists_sorted (shape.increasing.imp_of_mem fun {x y} hx hy hxy => ?_)
    obtain ⟨o, ho⟩ := h y.position x.position _ _ (by omega) (shape.record_at y hy)
      (shape.record_at x hx)
    rw [before_outcome, decoratedAs_key hx, decoratedAs_key hy, ho]
    exact ⟨_, rfl⟩
  rw [sort_of_decorate hread hsource hworkers (decorate_of_readsAs hreads _ _ _), hsorted]
  exact ⟨_, rfl⟩

/-- **Where no two records tie on the upper keys**, sorting by all keys gives the order of
sorting by these, by the same comparisons. -/
theorem order_comparisons_of_untied (hkeys : e.keys = p.keys ++ lower)
    (hread : (criterion.read s.parser).outcome = .ok e)
    (hread' : (criterion'.read s.parser).outcome = .ok p) (hsource : source.toList = .ok records)
    (hworkers : s.isConcurrent = .ok concurrent)
    (hreads : ReadsAs extractors e.fields records value)
    (h : ∀ (i j : Nat) r t, i ≠ j → records[i]? = some r → records[j]? = some t →
      ¬ TiesOn value p r t) :
    s.order schedule source criterion extractors st
        = s.order schedule' source criterion' extractors st'
      ∧ s.comparisons schedule source criterion extractors st
        = s.comparisons schedule' source criterion' extractors st' := by
  have hreads' : ReadsAs extractors p.fields records value :=
    hreads.mono (fun f hf => fields_upper hkeys ▸ List.mem_append_left _ hf) fun _ hr => hr
  refine order_comparisons_of_values hread hread' hsource hsource hworkers hworkers hreads hreads'
    rfl fun i j r t r' t' hij hr ht hr' ht' => ?_
  obtain rfl := Option.some.inj (hr.symm.trans hr')
  obtain rfl := Option.some.inj (ht.symm.trans ht')
  exact threeWayRows_of_not_tiesOn hkeys (h j i t r (by omega) ht hr)

end Sorts

/-- **Lower keys matter on ties only.**

Let an expression have the keys of another one and then some lower ones.  If no two
different records tie on the upper keys, and comparing these raises nothing, then sorting
by all keys succeeds, as sorting by the upper ones does, with the same order and the very
same comparisons, none of which is of a value of the lower keys.

Whether they tie or not: replace records by others with the same values of the upper keys,
read in whatever way, and of all keys where a record ties with any other one.  The order or
fault remains, and so do the comparisons. -/
theorem sort_lowerKeys (s : Sorter) (schedule schedule' : List Nat) (source : Source)
    (criterion criterion' : Criterion) (extractors : Extractors σ) (st st' : σ)
    {records : List Record} {concurrent : Bool} (hkeys : e.keys = p.keys ++ lower)
    (hread : (criterion.read s.parser).outcome = .ok e)
    (hread' : (criterion'.read s.parser).outcome = .ok p) (hsource : source.toList = .ok records)
    (hworkers : s.isConcurrent = .ok concurrent)
    (hreads : ReadsAs extractors e.fields records value) :
    ((∀ (i j : Nat) r t, i ≠ j → records[i]? = some r → records[j]? = some t →
          ∃ o, (threeWayRows p.directions (rowOf value p r) (rowOf value p t)).outcome = .ok o
            ∧ o ≠ .eq) →
        ∃ out, (s.sort schedule source criterion extractors).outcome st = .ok out
          ∧ (s.sort schedule' source criterion' extractors).outcome st' = .ok out
          ∧ s.order schedule source criterion extractors st
            = s.order schedule' source criterion' extractors st'
          ∧ s.comparisons schedule source criterion extractors st
            = s.comparisons schedule' source criterion' extractors st')
      ∧ (∀ (σ' : Type) (extractors' : Extractors σ') (st'' : σ') (source' : Source)
          (records' : List Record) (value' : Record → String → Value),
          source'.toList = .ok records' → ReadsAs extractors' e.fields records' value' →
          ChangedOffTies p e value value' records records' →
          s.order schedule source criterion extractors st
              = s.order schedule' source' criterion extractors' st''
            ∧ s.comparisons schedule source criterion extractors st
              = s.comparisons schedule' source' criterion extractors' st'') := by
  constructor
  · intro apart
    have hreads' : ReadsAs extractors p.fields records value :=
      hreads.mono (fun f hf => fields_upper hkeys ▸ List.mem_append_left _ hf) fun _ hr => hr
    have untied : ∀ (i j : Nat) r t, i ≠ j → records[i]? = some r → records[j]? = some t →
        ¬ TiesOn value p r t := by
      intro i j r t hij hr ht tie
      obtain ⟨o, ho, decided⟩ := apart i j r t hij hr ht
      exact decided (Except.ok.inj (ho.symm.trans tie))
    obtain ⟨order, comparisons⟩ := order_comparisons_of_untied schedule schedule' st st' hkeys hread
      hread' hsource hworkers hreads untied
    obtain ⟨out, upper⟩ := exists_sort_of_compared schedule' st' hread' hsource hworkers hreads'
      fun i j r t hij hr ht => (apart i j r t hij hr ht).imp fun _ compared => compared.1
    refine ⟨out, ?_, upper, order, comparisons⟩
    -- the order says which records come out
    rw [sort_outcome_of_order hread hsource hworkers, order,
      ← sort_outcome_of_order hread' hsource hworkers, upper]
  · intro σ' extractors' st'' source' records' value' hsource' hreads' changed
    exact order_comparisons_of_values hread hread hsource hsource' hworkers hworkers hreads hreads'
      changed.size fun i j r t r' t' hij hr ht hr' ht' =>
        changed.threeWayRows hkeys (by omega) hr ht hr' ht'

/-- A record with a text and any other value. -/
def pairRecord (n : Nat) (a : String) (b : Value) : Record := ⟨n, .object [("a", .text a), ("b", b)]⟩

/-- The keys `a` and then `b`. -/
def aThenB : Expression :=
  ⟨"a, b", [⟨"a", .ascending, isFieldName_a⟩, ⟨"b", .ascending, isFieldName_b⟩], List.cons_ne_nil _ _⟩

theorem readsAs_pairRecords {records : List Record}
    (h : ∀ r ∈ records, ∃ n a b, r = pairRecord n a b) :
    ReadsAs ([] : Extractors Unit) aThenB.fields records attributeOf := by
  refine readsAs_attributeOf (fun _ _ => rfl) fun r hr => ?_
  obtain ⟨n, a, b, rfl⟩ := h r hr
  exact ⟨n, _, rfl, List.forall_mem_cons.mpr ⟨rfl, List.forall_mem_singleton.mpr rfl⟩⟩

/-- Three records with different texts, and values that cannot be compared. -/
def apartRecords : List Record :=
  [pairRecord 0 "n" (.int 1), pairRecord 1 "m" (.text "x"), pairRecord 2 "o" .null]

/-- Two records that tie, and one that does not, with a value of the lower key. -/
def tyingRecords (b : Value) : List Record :=
  [pairRecord 0 "m" (.text "y"), pairRecord 1 "m" (.text "x"), pairRecord 2 "n" b]

/-- The texts decide, so that the other values are not compared; and where two texts tie, the
value of the third record can be anything. -/
theorem sort_lowerKeys_incomparable :
    (∃ out, (Sorter.standard.sort [] (.records apartRecords) (.parsed aThenB)
          ([] : Extractors Unit)).outcome () = .ok out
        ∧ (Sorter.standard.sort [] (.records apartRecords) (.parsed soleA)
          ([] : Extractors Unit)).outcome () = .ok out)
      ∧ Sorter.standard.order [] (.records (tyingRecords .null)) (.parsed aThenB)
          ([] : Extractors Unit) () = .ok [1, 0, 2]
      ∧ Sorter.standard.order [] (.records (tyingRecords (.int 7))) (.parsed aThenB)
          ([] : Extractors Unit) () = .ok [1, 0, 2] := by
  have keys : aThenB.keys = soleA.keys ++ [⟨"b", .ascending, isFieldName_b⟩] := rfl
  have readsApart : ReadsAs ([] : Extractors Unit) aThenB.fields apartRecords attributeOf :=
    readsAs_pairRecords (by simp [apartRecords])
  have readsTying : ∀ b, ReadsAs ([] : Extractors Unit) aThenB.fields (tyingRecords b) attributeOf :=
    fun b => readsAs_pairRecords (by simp [tyingRecords])
  have apart : ∀ (i j : Nat) r t, i ≠ j → apartRecords[i]? = some r → apartRecords[j]? = some t →
      ∃ o, (threeWayRows soleA.directions (rowOf attributeOf soleA r)
        (rowOf attributeOf soleA t)).outcome = .ok o ∧ o ≠ .eq := by
    intro i j r t hij hr ht
    rcases i with _ | _ | _ | i <;> rcases j with _ | _ | _ | j <;> cases hr <;> cases ht <;>
      first
        | exact absurd rfl hij
        | exact ⟨.lt, rfl, Ordering.noConfusion⟩
        | exact ⟨.gt, rfl, Ordering.noConfusion⟩
  have changed : ChangedOffTies soleA aThenB attributeOf attributeOf (tyingRecords .null)
      (tyingRecords (.int 7)) := by
    refine ⟨rfl, ?_, ?_⟩
    · intro i r r' hr hr' f hf
      obtain rfl : f = "a" := List.mem_singleton.mp hf
      rcases i with _ | _ | _ | i <;> cases hr <;> cases hr' <;> rfl
    · intro i j r r' t hij hr hr' ht ties
      rcases i with _ | _ | _ | i <;> cases hr <;> cases hr'
      · exact fun _ _ => rfl
      · exact fun _ _ => rfl
      · -- the third record ties with none
        rcases j with _ | _ | _ | j <;> cases ht <;>
          first
            | exact absurd rfl hij
            | exact ties.elim (fun tie => nomatch (show Except.ok Ordering.gt = .ok .eq from tie))
                (fun tie => nomatch (show Except.ok Ordering.lt = .ok .eq from tie))
  obtain ⟨decided, _⟩ := sort_lowerKeys Sorter.standard [] [] (.records apartRecords)
    (.parsed aThenB) (.parsed soleA) ([] : Extractors Unit) () () keys rfl rfl rfl
    Sorter.isConcurrent_standard readsApart
  obtain ⟨_, unnoticed⟩ := sort_lowerKeys Sorter.standard [] [] (.records (tyingRecords .null))
    (.parsed aThenB) (.parsed soleA) ([] : Extractors Unit) () () keys rfl rfl rfl
    Sorter.isConcurrent_standard (readsTying .null)
  obtain ⟨out, all, upper, _, _⟩ := decided apart
  have same := (unnoticed Unit [] () (.records (tyingRecords (.int 7))) _ _ rfl
    (readsTying (.int 7)) changed).1
  have order : Sorter.standard.order [] (.records (tyingRecords .null)) (.parsed aThenB)
      ([] : Extractors Unit) () = .ok [1, 0, 2] := by
    rw [order_eq (e := aThenB) rfl rfl Sorter.isConcurrent_standard]
    rfl
  exact ⟨⟨out, all, upper⟩, order, same.symm.trans order⟩

end OrderBy
