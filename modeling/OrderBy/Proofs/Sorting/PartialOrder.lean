/-
  OrderBy.Proofs.Sorting.PartialOrder
  ───────────────────────────────────
  **SETS ARE SORTED BY INCLUSION IFF BEING INCOMPARABLE IS TRANSITIVE.**

  A sort compares sets by proper inclusion and takes incomparable ones for tied.  It
  asks about few pairs, and concludes the rest as if ties were transitive.  Among the
  sets of some universe every sort is a linear extension of inclusion iff the conclusion
  is right:

      a ⊂ c   →   a ⊂ b  or  b ⊂ c          for all a, b, c of the universe

  If so, inclusion is a total preorder on each list of records, and the sort is the
  stable sort under it.  If not, the three sets in the order c, b, a are left as they
  are, with a behind c: neither neighbours c, b nor b, a give the sort a reason to move
  anything.
-/
import OrderBy.Proofs.Expression.Canonical
import OrderBy.Proofs.Order.Inclusion
import OrderBy.Proofs.Sorting.Answered
import OrderBy.Proofs.Sorting.StableRecords
import Mathlib.Data.List.Count

namespace OrderBy

open BinaryInsertion

/-! ## §1. Ranks. -/

section Rank

variable {α : Type} (R : α → α → Prop) [DecidableRel R]

/-- A strict order of the items of a list in which being incomparable is transitive. -/
structure WeaklyOrders (xs : List α) : Prop where
  irrefl : ∀ x, ¬ R x x
  trans : ∀ {x y z}, R x y → R y z → R x z
  cotrans : ∀ {x y z}, x ∈ xs → y ∈ xs → z ∈ xs → R x z → R x y ∨ R y z

/-- How many items of a list come before an item. -/
def rank (xs : List α) (x : α) : Nat := xs.countP (fun y => R y x)

variable {R} {xs : List α}

/-- **One item comes before another iff its rank is smaller.** -/
theorem WeaklyOrders.rank_lt_iff (h : WeaklyOrders R xs) {x y : α} (hx : x ∈ xs) (hy : y ∈ xs) :
    rank R xs x < rank R xs y ↔ R x y := by
  unfold rank
  constructor
  · intro smaller
    by_contra notBefore
    -- what comes before y then comes before x, so there is no more of it
    refine absurd smaller (Nat.not_lt.mpr (List.countP_mono_left fun z hz hzy => ?_))
    rw [decide_eq_true_iff] at hzy ⊢
    exact (h.cotrans hz hx hy hzy).resolve_right notBefore
  · intro before
    -- what comes before x comes before y, and so does x itself
    have inner : xs.countP (fun z => R z x)
        = (xs.filter (fun z => R z y)).countP (fun z => R z x) := by
      rw [List.countP_filter]
      refine List.countP_congr fun z _ => ?_
      rw [Bool.and_eq_true, decide_eq_true_iff, decide_eq_true_iff]
      exact ⟨fun hzx => ⟨hzx, h.trans hzx before⟩, And.left⟩
    rw [inner, List.countP_eq_length_filter (p := fun z => decide (R z y))]
    refine List.countP_lt_length_iff.mpr ⟨x, List.mem_filter.mpr ⟨hx, decide_eq_true before⟩, ?_⟩
    exact decide_eq_false (h.irrefl x)

end Rank

/-! ## §2. Sets in a direction. -/

open Value (ProperSubset IsSet compareSets compareSets_eq_lt compareSets_eq_gt ordering_ext)

/-- One set comes strictly before another in a direction. -/
def Direction.Precedes : Direction → Value → Value → Prop
  | ascending, a, b => ProperSubset a b
  | descending, a, b => ProperSubset b a

namespace Direction

instance : ∀ d : Direction, DecidableRel d.Precedes
  | ascending => fun a b => inferInstanceAs (Decidable (ProperSubset a b))
  | descending => fun a b => inferInstanceAs (Decidable (ProperSubset b a))

variable (d : Direction)

theorem orient_compareSets_eq_lt {a b : Value} :
    d.orient compareSets a b = .lt ↔ d.Precedes a b := by
  cases d <;> exact compareSets_eq_lt

theorem orient_compareSets_eq_gt {a b : Value} :
    d.orient compareSets a b = .gt ↔ d.Precedes b a := by
  cases d <;> exact compareSets_eq_gt

theorem Precedes.trans {a b c : Value} (hab : d.Precedes a b) (hbc : d.Precedes b c) :
    d.Precedes a c := by
  cases d with
  | ascending => exact ProperSubset.trans hab hbc
  | descending => exact ProperSubset.trans hbc hab

theorem not_precedes_self (a : Value) : ¬ d.Precedes a a := by
  cases d <;> exact fun h => h.asymm h

theorem threeWay_sets {a b : Value} (ha : IsSet a) (hb : IsSet b) :
    (d.threeWay a b).outcome = .ok (d.orient compareSets a b) := by
  cases d with
  | ascending => exact Value.threeWay_sets ha hb
  | descending => exact Value.threeWay_sets hb ha

end Direction

/-! ## §3. Sorting by one key. -/

/-- The expression of one key. -/
def SortKey.expression (k : SortKey) : Expression := ⟨k.render, [k], List.cons_ne_nil _ _⟩

/-- It is what is read of the written form of the key. -/
theorem SortKey.read_render (k : SortKey) :
    ((Criterion.written (.text k.render)).read Sorter.standard.parser).outcome
      = .ok k.expression := by
  have form : k.expression.canonical = k.render := rfl
  have read := congrArg Traced.outcome (Parser.parse_canonical true k.expression)
  rw [form] at read
  exact read

section Sets

variable {σ : Type} {k : SortKey} {extractors : Extractors σ} {records : List Record}
  {value : Record → Value}

/-- Records whose values are sets are compared by inclusion. -/
theorem comparesRecords_sets (hsets : ∀ r ∈ records, IsSet (value r)) :
    ComparesRecords (fun r _ => value r) k.expression records
      (fun r r' => k.direction.orient compareSets (value r) (value r')) := by
  intro r hr r' hr'
  show (threeWayRows [k.direction] [value r] [value r']).outcome
    = .ok (k.direction.orient compareSets (value r) (value r'))
  unfold threeWayRows
  rw [Traced.outcome_bind, k.direction.threeWay_sets (hsets r hr) (hsets r' hr')]
  -- there is no second key that could decide a tie
  cases k.direction.orient compareSets (value r) (value r') <;> rfl

variable (hreads : ReadsAs extractors [k.field] records (fun r _ => value r))

include hreads

/-- They are put where inclusion says, as far as it is asked. -/
theorem sortBy_sets (hsets : ∀ r ∈ records, IsSet (value r)) (st : σ) :
    (sortBy (.records records) (.written (.text k.render)) extractors).outcome st
      = .ok (sorted (fun r r' => k.direction.orient compareSets (value r) (value r') == .lt)
          records) :=
  Sorter.standard.sort_eq_sorted [] k.read_render rfl Sorter.isConcurrent_standard hreads
    (comparesRecords_sets hsets) st

/-- Records of which none precedes the one before it are left as they are, whichever precede
others further on. -/
theorem sortBy_sets_unmoved (hsets : ∀ r ∈ records, IsSet (value r))
    (chain : records.IsChain (fun r r' => ¬ k.direction.Precedes (value r') (value r))) (st : σ) :
    (sortBy (.records records) (.written (.text k.render)) extractors).outcome st = .ok records := by
  rw [sortBy_sets hreads hsets st]
  refine congrArg Except.ok (sorted_of_isChain (chain.imp fun r r' inOrder => ?_))
  rw [beq_eq_false_iff_ne, ne_eq, k.direction.orient_compareSets_eq_lt]
  exact inOrder

/-- **Where being incomparable is transitive, that is a stable sort**, under a total preorder
that compares the records as inclusion does. -/
theorem sortBy_sets_stableSort (hsets : ∀ r ∈ records, IsSet (value r))
    (hweak : WeaklyOrders (fun r r' => k.direction.Precedes (value r) (value r')) records) (st : σ) :
    ∃ out, (sortBy (.records records) (.written (.text k.render)) extractors).outcome st = .ok out
      ∧ ∃ cmp : Record → Record → Ordering, Std.TransCmp cmp
        ∧ (∀ r ∈ records, ∀ r' ∈ records,
          cmp r r' = k.direction.orient compareSets (value r) (value r'))
        ∧ StableSort cmp records out := by
  have agrees : ∀ r ∈ records, ∀ r' ∈ records,
      compareOn (rank (fun r r' => k.direction.Precedes (value r) (value r')) records) r r'
        = k.direction.orient compareSets (value r) (value r') := by
    intro r hr r' hr'
    refine ordering_ext ?_ ?_
    · rw [k.direction.orient_compareSets_eq_lt, ← hweak.rank_lt_iff hr hr']
      exact Nat.compare_eq_lt
    · rw [k.direction.orient_compareSets_eq_gt, ← hweak.rank_lt_iff hr' hr]
      exact Nat.compare_eq_gt
  have compares : ComparesRecords (fun r _ => value r) k.expression records
      (compareOn (rank (fun r r' => k.direction.Precedes (value r) (value r')) records)) := by
    intro r hr r' hr'
    rw [agrees r hr r' hr']
    exact comparesRecords_sets hsets r hr r' hr'
  have trans : Std.TransCmp
      (compareOn (rank (fun r r' => k.direction.Precedes (value r) (value r')) records)) :=
    inferInstance
  have source : (Source.records records).toList = .ok records := rfl
  obtain ⟨out, hout, stable⟩ := Sorter.standard.sort_stableSort [] k.read_render source
    Sorter.isConcurrent_standard hreads compares st
  exact ⟨out, hout, _, trans, agrees, stable⟩

end Sets

/-! ## §4. Linear extensions. -/

/-- Sorting by a key extends inclusion, whenever the values of the field are sets of a
universe: nothing raises, each record comes out once, and none behind, at whatever distance,
one that it strictly precedes. -/
def SortsByInclusion (k : SortKey) (U : Value → Prop) : Prop :=
  ∀ (σ : Type) (extractors : Extractors σ) (records : List Record) (value : Record → Value)
    (st : σ), ReadsAs extractors [k.field] records (fun r _ => value r) →
    (∀ r ∈ records, U (value r)) →
    ∃ out, (sortBy (.records records) (.written (.text k.render)) extractors).outcome st = .ok out
      ∧ out.Perm records
      ∧ out.Pairwise (fun r r' => ¬ k.direction.Precedes (value r') (value r))

/-- Being incomparable is transitive among some sets. -/
def IncomparabilityTransitive (U : Value → Prop) : Prop :=
  ∀ a b c, U a → U b → U c → ProperSubset a c → ProperSubset a b ∨ ProperSubset b c

/-- It is read in the same way in either direction. -/
theorem incomparabilityTransitive_iff (d : Direction) {U : Value → Prop} :
    IncomparabilityTransitive U
      ↔ ∀ a b c, U a → U b → U c → d.Precedes a c → d.Precedes a b ∨ d.Precedes b c := by
  cases d with
  | ascending => exact Iff.rfl
  | descending =>
      exact ⟨fun h a b c ha hb hc hac => (h c b a hc hb ha hac).symm,
        fun h a b c ha hb hc hac => (h c b a hc hb ha hac).symm⟩

/-- A dictionary with one entry, for the field of a key. -/
def SortKey.recordOf (k : SortKey) (n : Nat) (v : Value) : Record :=
  ⟨n, .plain (.dict [(.text k.field, v)])⟩

/-- The value of a dictionary's first entry. -/
def firstEntry (r : Record) : Value :=
  match r.body with
  | .plain (.dict ((_, v) :: _)) => v
  | _ => .null

/-- Dictionaries with one entry read as the value of that entry. -/
theorem SortKey.readsAs_firstEntry (k : SortKey) {records : List Record}
    (h : ∀ r ∈ records, ∃ n v, r = k.recordOf n v) :
    ReadsAs ([] : Extractors Unit) [k.field] records (fun r _ => firstEntry r) := by
  intro r hr f hf st
  obtain ⟨n, v, rfl⟩ := h r hr
  obtain rfl := List.mem_singleton.mp hf
  have found : Value.getEntry? (.text k.field) [(.text k.field, v)] = some v := by
    unfold Value.getEntry?
    rw [List.find?_cons_of_pos (by exact decide_eq_true rfl), Option.map_some]
  show (Traced.ofExcept (Value.entryOf [(.text k.field, v)] (.text k.field))).outcome = .ok v
  unfold Value.entryOf
  rw [found]
  rfl

/-- **Sets are sorted by inclusion iff being incomparable is transitive among them.** -/
theorem sortsByInclusion_iff (k : SortKey) {U : Value → Prop} (hU : ∀ v, U v → IsSet v) :
    SortsByInclusion k U ↔ IncomparabilityTransitive U := by
  rw [incomparabilityTransitive_iff k.direction]
  constructor
  · intro sorts a b c ha hb hc hac
    by_contra neither
    obtain ⟨hab, hbc⟩ := not_or.mp neither
    -- in the order c, b, a no neighbour precedes the other
    have reads : ReadsAs ([] : Extractors Unit) [k.field]
        [k.recordOf 0 c, k.recordOf 1 b, k.recordOf 2 a] (fun r _ => firstEntry r) :=
      k.readsAs_firstEntry (by simp)
    have values : ∀ r ∈ [k.recordOf 0 c, k.recordOf 1 b, k.recordOf 2 a], U (firstEntry r) := by
      simp [SortKey.recordOf, firstEntry, ha, hb, hc]
    have chain : [k.recordOf 0 c, k.recordOf 1 b, k.recordOf 2 a].IsChain
        (fun r r' => ¬ k.direction.Precedes (firstEntry r') (firstEntry r)) :=
      List.isChain_cons_cons.mpr ⟨hbc, List.isChain_cons_cons.mpr ⟨hab, List.isChain_singleton _⟩⟩
    have unmoved := sortBy_sets_unmoved reads (fun r hr => hU _ (values r hr)) chain ()
    obtain ⟨out, hout, _, extension⟩ := sorts Unit [] _ firstEntry () reads values
    obtain rfl := Except.ok.inj (unmoved.symm.trans hout)
    exact (List.pairwise_cons.mp extension).1 (k.recordOf 2 a) (by simp) hac
  · intro weak σ extractors records value st hreads hvalues
    have weaklyOrders : WeaklyOrders (fun r r' => k.direction.Precedes (value r) (value r')) records :=
      ⟨fun r => k.direction.not_precedes_self (value r),
        fun hxy hyz => Direction.Precedes.trans _ hxy hyz,
        fun hx hy hz => weak _ _ _ (hvalues _ hx) (hvalues _ hy) (hvalues _ hz)⟩
    obtain ⟨out, hout, cmp, _, agrees, stable⟩ := sortBy_sets_stableSort hreads
      (fun r hr => hU _ (hvalues r hr)) weaklyOrders st
    refine ⟨out, hout, stable.perm, stable.ordered.imp_of_mem fun {r r'} hr hr' ordered => ?_⟩
    rwa [agrees r (stable.perm.mem_iff.mp hr) r' (stable.perm.mem_iff.mp hr'), ne_eq,
      k.direction.orient_compareSets_eq_gt] at ordered

/-- The empty set and two sets with one member each. -/
def smallSets : List Value := [.set [], .set [.text "x"], .set [.text "y"]]

/-- Being incomparable is transitive among these, so every list of them is sorted. -/
theorem sortsByInclusion_smallSets :
    (∀ v ∈ smallSets, IsSet v)
      ∧ IncomparabilityTransitive (· ∈ smallSets)
      ∧ SortsByInclusion ⟨"f", .ascending, rfl⟩ (· ∈ smallSets) := by
  have sets : ∀ v ∈ smallSets, IsSet v := by
    intro v hv
    simp only [smallSets, List.mem_cons, List.not_mem_nil, or_false] at hv
    rcases hv with rfl | rfl | rfl <;> exact ⟨_, rfl, by decide, by decide⟩
  have transitive : IncomparabilityTransitive (· ∈ smallSets) := by
    have listed : ∀ a ∈ smallSets, ∀ b ∈ smallSets, ∀ c ∈ smallSets,
        ProperSubset a c → ProperSubset a b ∨ ProperSubset b c := by decide
    exact fun a b c ha hb hc => listed a ha b hb c hc
  exact ⟨sets, transitive, (sortsByInclusion_iff ⟨"f", .ascending, rfl⟩ sets).mpr transitive⟩

/-- Three sets of which the last is a proper subset of the first. -/
def strayedSets : List Record :=
  [⟨0, .plain (.dict [(.text "f", .set [.text "x", .text "y"])])⟩,
   ⟨1, .plain (.dict [(.text "f", .set [.text "z"])])⟩,
   ⟨2, .plain (.dict [(.text "f", .set [.text "x"])])⟩]

/-- **They are left as they are, though inclusion puts the last before the first**, and
likewise in the other direction if they come the other way round. -/
theorem strayedSets_unmoved :
    ReadsAs ([] : Extractors Unit) ["f"] strayedSets (fun r _ => firstEntry r)
      ∧ (∀ r ∈ strayedSets, IsSet (firstEntry r))
      ∧ (sortBy (.records strayedSets) (.written (.text "f ASC"))
          ([] : Extractors Unit)).outcome () = .ok strayedSets
      ∧ ¬ strayedSets.Pairwise (fun r r' => ¬ ProperSubset (firstEntry r') (firstEntry r))
      ∧ (sortBy (.records strayedSets.reverse) (.written (.text "f DESC"))
          ([] : Extractors Unit)).outcome () = .ok strayedSets.reverse
      ∧ ¬ strayedSets.reverse.Pairwise
          (fun r r' => ¬ ProperSubset (firstEntry r) (firstEntry r')) := by
  have reads : ReadsAs ([] : Extractors Unit) ["f"] strayedSets (fun r _ => firstEntry r) :=
    SortKey.readsAs_firstEntry ⟨"f", .ascending, rfl⟩ (by simp [strayedSets, SortKey.recordOf])
  have readsBack : ReadsAs ([] : Extractors Unit) ["f"] strayedSets.reverse
      (fun r _ => firstEntry r) :=
    reads.mono (fun _ hf => hf) (fun _ hr => List.mem_reverse.mp hr)
  have sets : ∀ r ∈ strayedSets, IsSet (firstEntry r) := by
    intro r hr
    simp only [strayedSets, List.mem_cons, List.not_mem_nil, or_false] at hr
    rcases hr with rfl | rfl | rfl <;> exact ⟨_, rfl, by decide, by decide⟩
  have setsBack : ∀ r ∈ strayedSets.reverse, IsSet (firstEntry r) :=
    fun r hr => sets r (List.mem_reverse.mp hr)
  refine ⟨reads, sets, ?_, by decide, ?_, by decide⟩
  · exact sortBy_sets_unmoved (k := ⟨"f", .ascending, rfl⟩) reads sets (by decide) ()
  · exact sortBy_sets_unmoved (k := ⟨"f", .descending, rfl⟩) readsBack setsBack (by decide) ()

end OrderBy
