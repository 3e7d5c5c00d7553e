/-
  OrderBy.Proofs.Sorting.MultiPass
  ────────────────────────────────
  **LATER KEYS BREAK THE TIES OF EARLIER ONES.**

  Where readings depend on the record alone, the order of records under a list of
  keys is a comparison of records, and the comparison under a longer list is
  lexicographic:

      compareRecords (ks ++ ls)  =  first compareRecords ks, then compareRecords ls

  A sort is the stable sort under that comparison.  Two stable sorts in a row are
  one by both comparisons, so sorting by `s,t` is sorting by `t` and then by `s`.
-/
import OrderBy.Proofs.Expression.Concatenation
import OrderBy.Proofs.Sorting.StableRecords

namespace OrderBy

variable {σ : Type}

/-! ## §1. The comparison of records under keys. -/

/-- The comparison of records under some keys, given the values of their fields and
the kinds of these values. -/
def compareRecords (kind : String → Kind) (value : Record → String → Value) :
    List SortKey → Record → Record → Ordering
  | [] => fun _ _ => .eq
  | k :: ks =>
    compareLex
      (fun r r' => k.direction.orient (kind k.field).compare (value r k.field) (value r' k.field))
      (compareRecords kind value ks)

variable {kind : String → Kind} {value : Record → String → Value}

instance transCmp_compareRecords (ks : List SortKey) :
    Std.TransCmp (compareRecords kind value ks) := by
  induction ks with
  | nil => exact { eq_swap := rfl, isLE_trans := fun _ _ => rfl }
  | cons k ks ih =>
      have head := transCmp_comap (fun r : Record => value r k.field)
        (k.direction.orient (kind k.field).compare)
      exact inferInstanceAs (Std.TransCmp (compareLex _ _))

/-- **The keys of two lists are used one list after the other.** -/
theorem compareRecords_append (ks ls : List SortKey) :
    compareRecords kind value (ks ++ ls)
      = compareLex (compareRecords kind value ks) (compareRecords kind value ls) := by
  induction ks with
  | nil => rfl
  | cons k ks ih =>
      funext r r'
      show Ordering.then _ (compareRecords kind value (ks ++ ls) r r') = _
      rw [ih]
      exact (Ordering.then_assoc _ _ _).symm

/-- The comparison of records is that of their rows of values. -/
theorem compareRows_values (ks : List SortKey) (r r' : Record) :
    compareRows ((ks.map SortKey.direction).zip (ks.map (fun k => kind k.field)))
        (ks.map (fun k => value r k.field)) (ks.map (fun k => value r' k.field))
      = compareRecords kind value ks r r' := by
  induction ks with
  | nil => rfl
  | cons k ks ih =>
      exact congrArg (Ordering.then _) ih

/-- **Records whose values have the kinds of their fields are compared without a
fault.** -/
theorem threeWayRows_records {ks : List SortKey} {r r' : Record}
    (h : ∀ k ∈ ks, (kind k.field).Has (value r k.field))
    (h' : ∀ k ∈ ks, (kind k.field).Has (value r' k.field)) :
    (threeWayRows (ks.map SortKey.direction) (ks.map (fun k => value r k.field))
        (ks.map (fun k => value r' k.field))).outcome
      = .ok (compareRecords kind value ks r r') := by
  have rows : ∀ {r : Record}, (∀ k ∈ ks, (kind k.field).Has (value r k.field)) →
      List.Forall₂ Kind.Has (ks.map (fun k => kind k.field)) (ks.map (fun k => value r k.field)) := by
    intro r h
    rw [List.forall₂_map_left_iff, List.forall₂_map_right_iff, List.forall₂_same]
    exact h
  rw [threeWayRows_of_kinds (rows h) (rows h'), compareRows_values]

/-! ## §2. A sort is a stable sort of the records. -/

variable {extractors : Extractors σ} {records : List Record}

/-- Values that have the kinds of their fields are compared as records are. -/
theorem comparesRecords_of_kinds {e : Expression}
    (hkinds : ∀ f ∈ e.fields, ∀ r ∈ records, (kind f).Has (value r f)) :
    ComparesRecords value e records (compareRecords kind value e.keys) := by
  intro r hr r' hr'
  have values : ∀ {r : Record}, r ∈ records → ∀ k ∈ e.keys, (kind k.field).Has (value r k.field) :=
    fun hr k hk => hkinds k.field (List.mem_map_of_mem hk) _ hr
  unfold rowOf Expression.fields Expression.directions
  rw [List.map_map, List.map_map]
  exact threeWayRows_records (values hr) (values hr')

/-- **Sorting by an expression is stably sorting under the comparison of its keys.** -/
theorem sortBy_stableSort {criterion : Criterion} {e : Expression}
    (hread : (criterion.read Parser.standard).outcome = .ok e)
    (hreads : ReadsAs extractors e.fields records value)
    (hkinds : ∀ f ∈ e.fields, ∀ r ∈ records, (kind f).Has (value r f)) (st : σ) :
    ∃ out, (sortBy (.records records) criterion extractors).outcome st = .ok out
      ∧ StableSort (compareRecords kind value e.keys) records out :=
  Sorter.standard.sort_stableSort [] hread rfl Sorter.isConcurrent_standard hreads
    (comparesRecords_of_kinds hkinds) st

/-! ## §3. The law. -/

/-- Homogeneous values have a kind, for every field its own. -/
theorem exists_kind_of_fields {fields : List String}
    (h : ∀ f ∈ fields, Homogeneous (records.map (value · f))) :
    ∃ kind : String → Kind, ∀ f ∈ fields, ∀ r ∈ records, (kind f).Has (value r f) := by
  have kinds : ∀ f : String, ∃ k : Kind, f ∈ fields → ∀ r ∈ records, k.Has (value r f) := by
    intro f
    by_cases hf : f ∈ fields
    · obtain ⟨k, hk⟩ := homogeneous_iff.mp (h f hf)
      exact ⟨k, fun _ r hr => hk _ (List.mem_map_of_mem hr)⟩
    · exact ⟨.number, fun hf' => absurd hf' hf⟩
  choose kind hkind using kinds
  exact ⟨kind, hkind⟩

/-- **The multi-pass law.**  Sorting by `s,t` is sorting by `t` and then by `s`. -/
theorem sortBy_comma {s t : String} {p q : Expression}
    (hs : (Expression.read (.text s)).outcome = .ok p)
    (ht : (Expression.read (.text t)).outcome = .ok q)
    (hreads : ReadsAs extractors (p.fields ++ q.fields) records value)
    (hkinds : ∀ f ∈ p.fields ++ q.fields, Homogeneous (records.map (value · f)))
    (st st' st'' : σ) :
    ∃ mid out,
      (sortBy (.records records) (.written (.text t)) extractors).outcome st = .ok mid
      ∧ (sortBy (.records mid) (.written (.text s)) extractors).outcome st' = .ok out
      ∧ (sortBy (.records records) (.written (.text (s ++ "," ++ t))) extractors).outcome st''
          = .ok out := by
  obtain ⟨kind, kinds⟩ := exists_kind_of_fields hkinds
  obtain ⟨e, he, keys⟩ := read_comma hs ht
  have readBoth : ((Criterion.written (.text (s ++ "," ++ t))).read Parser.standard).outcome
      = .ok e := he
  have fields : e.fields = p.fields ++ q.fields := by
    unfold Expression.fields
    rw [keys, List.map_append]
  have readS : ((Criterion.written (.text s)).read Parser.standard).outcome = .ok p := hs
  have readT : ((Criterion.written (.text t)).read Parser.standard).outcome = .ok q := ht
  obtain ⟨mid, hmid, first⟩ := sortBy_stableSort readT
    (hreads.mono (fun f hf => List.mem_append_right _ hf) (fun _ hr => hr))
    (fun f hf => kinds f (List.mem_append_right _ hf)) st
  -- the first pass keeps the records, so the second can be read and compared as well
  have kept : ∀ r ∈ mid, r ∈ records := fun r hr => first.perm.mem_iff.mp hr
  obtain ⟨out, hout, second⟩ := sortBy_stableSort readS
    (hreads.mono (fun f hf => List.mem_append_left _ hf) kept)
    (fun f hf r hr => kinds f (List.mem_append_left _ hf) r (kept r hr)) st'
  -- one pass by both lists of keys is the same stable sort
  obtain ⟨once, honce, both⟩ := sortBy_stableSort readBoth (fields ▸ hreads) (fields ▸ kinds) st''
  have twice : StableSort (compareRecords kind value e.keys) records out := by
    rw [keys, compareRecords_append]
    exact first.twoPasses second
  obtain rfl := both.unique twice
  exact ⟨mid, once, hmid, hout, honce⟩

/-- The value of an attribute of an object, which has it. -/
def attributeOf (r : Record) (f : String) : Value :=
  match r.body with
  | .object attributes => (attributes.lookup f).getD .null
  | _ => .null

/-- Objects that have all attributes are read so where there is no extractor. -/
theorem readsAs_attributeOf {extractors : Extractors σ} {fields : List String}
    {records : List Record} (unextracted : ∀ f ∈ fields, extractors.lookup f = none)
    (h : ∀ r ∈ records, ∃ n attributes, r = ⟨n, .object attributes⟩
      ∧ ∀ f ∈ fields, (attributes.lookup f).isSome) :
    ReadsAs extractors fields records attributeOf := by
  intro r hr f hf st
  obtain ⟨n, attributes, rfl, has⟩ := h r hr
  obtain ⟨v, hv⟩ := Option.isSome_iff_exists.mp (has f hf)
  have read : ((⟨n, .object attributes⟩ : Record).readField f).outcome
      = Except.ok (attributeOf ⟨n, .object attributes⟩ f) := by
    unfold Record.readField Record.readName Record.readAttribute attributeOf
    simp only [Value.text?, hv]
    rfl
  unfold Accessor.forField
  rw [unextracted f hf]
  exact read

/-- Three records with a tie in either field. -/
def tiedObjects : List Record :=
  [⟨0, .object [("a", .int 1), ("b", .text "y")]⟩,
   ⟨1, .object [("a", .bool true), ("b", .text "x")]⟩,
   ⟨2, .object [("a", .float (.infinite false)), ("b", .text "x")]⟩]

/-- The law holds of these records and texts. -/
theorem sortBy_comma_tied :
    ∃ mid out,
      (sortBy (.records tiedObjects) (.written (.text "b")) ([] : Extractors Unit)).outcome ()
          = .ok mid
      ∧ (sortBy (.records mid) (.written (.text "a DESC")) ([] : Extractors Unit)).outcome ()
          = .ok out
      ∧ (sortBy (.records tiedObjects) (.written (.text ("a DESC" ++ "," ++ "b")))
            ([] : Extractors Unit)).outcome () = .ok out := by
  have reads : ReadsAs ([] : Extractors Unit) ["a", "b"] tiedObjects attributeOf := by
    intro r hr f hf st
    simp only [tiedObjects, List.mem_cons, List.not_mem_nil, or_false] at hr hf
    rcases hr with rfl | rfl | rfl <;> rcases hf with rfl | rfl <;> rfl
  have kinds : ∀ f ∈ ["a", "b"], Homogeneous (tiedObjects.map (attributeOf · f)) := by
    intro f hf
    simp only [List.mem_cons, List.not_mem_nil, or_false] at hf
    rcases hf with rfl | rfl
    · show Homogeneous [.int 1, .bool true, .float (.infinite false)]
      exact .numbers (by simp [Value.IsNumber])
    · show Homogeneous [.text "y", .text "x", .text "x"]
      exact .texts (by simp [Value.IsText])
  exact sortBy_comma
    (show (Expression.read (.text "a DESC")).outcome
      = .ok ⟨"a DESC", [⟨"a", .descending, rfl⟩], List.cons_ne_nil _ _⟩ from rfl)
    (show (Expression.read (.text "b")).outcome
      = .ok ⟨"b", [⟨"b", .ascending, rfl⟩], List.cons_ne_nil _ _⟩ from rfl)
    reads kinds () () ()

end OrderBy
