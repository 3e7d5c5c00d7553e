/-
  OrderBy.Proofs.Sorting.Congruence
  ─────────────────────────────────
  **SORTS WHOSE QUESTIONS LOOK ALIKE LOOK ALIKE.**

  Two sorts decorate records that correspond to each other, position by position, and
  compare them each in its own way.  If every question of the one looks like the question
  of the other about the corresponding records, then the sorts put the positions into the
  same order or fail with the same fault, and look alike on the way.

  How much is looked at is given by a view of events: of all of them, or of the questions
  about records but not of the values that these compare.
-/
import OrderBy.Proofs.Reading.Values
import Mathlib.Data.List.Forall2

namespace OrderBy

variable {ω ω' α β : Type} {view : ω → Option ω'}

/-! ## §1. Computations that look alike. -/

/-- Two computations have the same outcome, and the same events as far as a view shows them. -/
structure Traced.SameThrough (view : ω → Option ω') (t u : Traced ω α) : Prop where
  outcome : t.outcome = u.outcome
  events : t.events.filterMap view = u.events.filterMap view

namespace Traced.SameThrough

theorem refl (t : Traced ω α) : t.SameThrough view t := ⟨rfl, rfl⟩

theorem of_eq {t u : Traced ω α} (h : t = u) : t.SameThrough view u := h ▸ refl t

/-- **Looking alike is passed on by sequencing.** -/
theorem bind {t u : Traced ω α} {f g : α → Traced ω β} (h : t.SameThrough view u)
    (k : ∀ a, t.outcome = .ok a → (f a).SameThrough view (g a)) :
    (t >>= f).SameThrough view (u >>= g) := by
  cases ho : t.outcome with
  | error fault =>
      rw [bind_error ho, bind_error (h.outcome.symm.trans ho)]
      exact ⟨rfl, h.events⟩
  | ok a =>
      rw [bind_ok ho, bind_ok (h.outcome.symm.trans ho)]
      refine ⟨(k a ho).outcome, ?_⟩
      show List.filterMap view (_ ++ _) = List.filterMap view (_ ++ _)
      rw [List.filterMap_append, List.filterMap_append, h.events, (k a ho).events]

/-- What is made of the results may differ if it comes to the same. -/
theorem map {γ : Type} {t u : Traced ω α} {f : α → γ} {g : α → γ} (h : t.SameThrough view u)
    (k : ∀ a, t.outcome = .ok a → f a = g a) : (f <$> t).SameThrough view (g <$> u) where
  outcome := by
    rw [outcome_map, outcome_map, ← h.outcome]
    cases ho : t.outcome with
    | error fault => rfl
    | ok a => exact congrArg Except.ok (k a ho)
  events := by
    rw [events_map, events_map, h.events]

end Traced.SameThrough

/-- The simulation of computations that look alike. -/
def BinaryInsertion.Simulation.sameThrough (view : ω → Option ω') :
    Simulation (Traced ω) (Traced ω) where
  rel Q t u := t.SameThrough view u ∧ ∀ b, t.outcome = .ok b → Q b
  rel_pure h := ⟨.refl _, fun _ hb => Except.ok.inj hb ▸ h⟩
  rel_bind h k := by
    obtain ⟨same, result⟩ := h
    refine ⟨same.bind fun a ha => (k a (result a ha)).1, fun c hc => ?_⟩
    obtain ⟨a, ha, hc⟩ := Traced.outcome_bind_eq_ok hc
    exact (k a (result a ha)).2 c hc
  rel_mono h k := ⟨h.1, fun b hb => k b (h.2 b hb)⟩

/-! ## §2. Sorting pairs. -/

section Pairs

variable {view : Event → Option ω'} {ds ds' : List Direction}

/-- Sorting one half of some pairs is sorting the pairs by it and then looking at that half. -/
theorem sortDecorated_map (ds : List Direction) (half : α → Decorated) (pairs : List α) :
    sortDecorated ds (pairs.map half)
      = List.map half
        <$> BinaryInsertion.sort (fun p q => Decorated.before ds (half p) (half q)) pairs :=
  BinaryInsertion.sort_map (fun _ _ => rfl) pairs

/-- Pairs that are asked about alike by either half are sorted alike by either half. -/
theorem sortDecorated_pairs {pairs : List (Decorated × Decorated)}
    (positions : ∀ p ∈ pairs, p.1.position = p.2.position)
    (h : pairs.Pairwise (fun p q => (Decorated.before ds q.1 p.1).SameThrough view
      (Decorated.before ds' q.2 p.2))) :
    (List.map Decorated.position <$> sortDecorated ds (pairs.map Prod.fst)).SameThrough view
      (List.map Decorated.position <$> sortDecorated ds' (pairs.map Prod.snd)) := by
  have asks := h.imp fun {p q} same =>
    show (BinaryInsertion.Simulation.sameThrough view).Asks
      (fun p q : Decorated × Decorated => Decorated.before ds p.1 q.1)
      (fun p q => Decorated.before ds' p.2 q.2) p q from ⟨same, fun _ _ => trivial⟩
  obtain ⟨same, perm⟩ := (BinaryInsertion.Simulation.sameThrough view).sort asks
  rw [sortDecorated_map, sortDecorated_map, Functor.map_map, Functor.map_map]
  refine same.map fun out hout => ?_
  rw [List.map_map, List.map_map]
  exact List.map_congr_left fun p hp => positions p ((perm out hout).mem_iff.mp hp)

/-- **Records that correspond and are asked about alike are sorted alike.** -/
theorem sortDecorated_sameThrough {R : Decorated → Decorated → Prop} {xs ys : List Decorated}
    (related : List.Forall₂ R xs ys) (positions : ∀ x y, R x y → x.position = y.position)
    (increasing : xs.Pairwise (fun x y => x.position < y.position))
    (h : ∀ x x' y y', R x x' → R y y' → x.position < y.position →
      (Decorated.before ds y x).SameThrough view (Decorated.before ds' y' x')) :
    (List.map Decorated.position <$> sortDecorated ds xs).SameThrough view
      (List.map Decorated.position <$> sortDecorated ds' ys) := by
  obtain ⟨size, zipped⟩ := List.forall₂_iff_zip.mp related
  have firsts : (xs.zip ys).map Prod.fst = xs := List.map_fst_zip (by omega)
  have seconds : (xs.zip ys).map Prod.snd = ys := List.map_snd_zip (by omega)
  have behind : (xs.zip ys).Pairwise (fun p q => p.1.position < q.1.position) := by
    rw [← firsts, List.pairwise_map] at increasing
    exact increasing
  have alike : (xs.zip ys).Pairwise (fun p q => (Decorated.before ds q.1 p.1).SameThrough view
      (Decorated.before ds' q.2 p.2)) :=
    behind.imp_of_mem fun {p q} hp hq hpq => h _ _ _ _ (zipped hp) (zipped hq) hpq
  have same := sortDecorated_pairs (fun p hp => positions _ _ (zipped hp)) alike
  rwa [firsts, seconds] at same

end Pairs

/-! ## §3. Sorting records. -/

section Records

variable {σ σ' : Type} {value value' : Record → String → Value} {e e' : Expression}
  {records records' : List Record}

/-- Decorations of the records at one position. -/
def Corresponding (value value' : Record → String → Value) (e e' : Expression)
    (records records' : List Record) (x y : Decorated) : Prop :=
  ∃ i r r', records[i]? = some r ∧ records'[i]? = some r'
    ∧ x = ⟨i, r, rowOf value e r⟩ ∧ y = ⟨i, r', rowOf value' e' r'⟩

theorem decoratedAs_corresponding (hsize : records'.length = records.length) :
    List.Forall₂ (Corresponding value value' e e' records records') (decoratedAs value e records)
      (decoratedAs value' e' records') := by
  rw [List.forall₂_iff_get]
  refine ⟨by simp [decoratedAs, hsize], fun i hi hi' => ?_⟩
  have inside : i < records.length := by simpa [decoratedAs] using hi
  refine ⟨i, records[i], records'[i], List.getElem?_eq_getElem _, List.getElem?_eq_getElem _, ?_, ?_⟩
  · simp [decoratedAs]
  · simp [decoratedAs]

/-- Two decorated records are asked about as their rows are compared. -/
theorem before_eq_of_rows {ds ds' : List Direction} {x y x' y' : Decorated}
    (hx : x.position = x'.position) (hy : y.position = y'.position)
    (rows : threeWayRows ds x.key y.key = threeWayRows ds' x'.key y'.key) :
    Decorated.before ds x y = Decorated.before ds' x' y' := by
  unfold Decorated.before keyBefore
  rw [hx, hy, rows]

variable {s s' : Sorter} {schedule schedule' : List Nat} {source source' : Source}
  {criterion criterion' : Criterion} {extractors : Extractors σ} {extractors' : Extractors σ'}
  {st : σ} {st' : σ'} {concurrent concurrent' : Bool}

/-- **Sorts that compare the rows of corresponding records alike have the same order and the
same comparisons.** -/
theorem order_comparisons_of_values (hread : (criterion.read s.parser).outcome = .ok e)
    (hread' : (criterion'.read s'.parser).outcome = .ok e') (hsource : source.toList = .ok records)
    (hsource' : source'.toList = .ok records') (hworkers : s.isConcurrent = .ok concurrent)
    (hworkers' : s'.isConcurrent = .ok concurrent')
    (hreads : ReadsAs extractors e.fields records value)
    (hreads' : ReadsAs extractors' e'.fields records' value')
    (hsize : records'.length = records.length)
    (h : ∀ (i j : Nat) r t r' t', i < j → records[i]? = some r → records[j]? = some t →
      records'[i]? = some r' → records'[j]? = some t' →
      threeWayRows e.directions (rowOf value e t) (rowOf value e r)
        = threeWayRows e'.directions (rowOf value' e' t') (rowOf value' e' r')) :
    s.order schedule source criterion extractors st
        = s'.order schedule' source' criterion' extractors' st'
      ∧ s.comparisons schedule source criterion extractors st
        = s'.comparisons schedule' source' criterion' extractors' st' := by
  have decorated := decorate_of_readsAs hreads concurrent schedule st
  have decorated' := decorate_of_readsAs hreads' concurrent' schedule' st'
  have alike : (List.map Decorated.position <$> sortDecorated e.directions
      (decoratedAs value e records)).SameThrough some (List.map Decorated.position <$>
        sortDecorated e'.directions (decoratedAs value' e' records')) := by
    refine sortDecorated_sameThrough (decoratedAs_corresponding hsize) ?_
      (decorates_decoratedAs value e records).increasing ?_
    · rintro x y ⟨i, r, r', _, _, rfl, rfl⟩
      rfl
    · rintro x x' y y' ⟨i, r, r', hr, hr', rfl, rfl⟩ ⟨j, t, t', ht, ht', rfl, rfl⟩ hij
      exact .of_eq (before_eq_of_rows rfl rfl (h i j r t r' t' hij hr ht hr' ht'))
  constructor
  · rw [order_of_decorate hread hsource hworkers decorated,
      order_of_decorate hread' hsource' hworkers' decorated', ← Traced.outcome_map,
      ← Traced.outcome_map, alike.outcome]
  · have events := alike.events
    rw [List.filterMap_some, List.filterMap_some, Traced.events_map, Traced.events_map] at events
    rw [comparisons_of_decorate hread hsource hworkers decorated,
      comparisons_of_decorate hread' hsource' hworkers' decorated', events]

end Records

end OrderBy
