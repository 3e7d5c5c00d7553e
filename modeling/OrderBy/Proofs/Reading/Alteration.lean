/-
  OrderBy.Proofs.Reading.Alteration
  ─────────────────────────────────
  **WHAT CAN BE CHANGED ABOUT RECORDS AND EXTRACTORS WITHOUT ANY READING NOTICING.**

  A reading of a field sees, of all there is,

      the extractor registered under the name of the field, if there is one,
      and what that extractor makes of the record,
      else what the record has under that name: the entry of a dictionary or
      mapping, the attribute of an object

  and nothing else: not the other fields, not the attributes of a mapping, not what
  a record itself has under a name that an extractor is registered for.
-/
import OrderBy.Proofs.Reading.Dialogue

namespace OrderBy

variable {σ : Type}

/-! ## §1. Dictionaries. -/

/-- The same as a text is what is that text as a scalar. -/
theorem Value.same_text_iff (f : String) (v : Value) :
    Value.same (.text f) v = true ↔ v.scalar? = some (.text f) := by
  have decided : ∀ s, decide (Scalar.text f = Scalar.text s) = true
      ↔ some (Scalar.text s) = some (.text f) :=
    fun s => by rw [decide_eq_true_iff, Option.some_inj, eq_comm]
  cases v with
  | text s => exact decided s
  | direction d => exact decided d.name
  | _ => simp [Value.same, Value.scalar?]

/-- No value is the same as two texts. -/
theorem Value.not_same_text {f g : String} (h : f ≠ g) {v : Value}
    (hg : Value.same (.text g) v = true) : Value.same (.text f) v = false := by
  rw [← Bool.not_eq_true, Value.same_text_iff]
  rw [Value.same_text_iff] at hg
  rw [hg]
  exact fun same => h (Scalar.text.inj (Option.some.inj same)).symm

theorem Value.getEntry?_cons (k l w : Value) (es : List (Value × Value)) :
    Value.getEntry? k ((l, w) :: es)
      = if Value.same k l = true then some w else Value.getEntry? k es := by
  unfold Value.getEntry?
  rw [List.find?_cons]
  cases Value.same k l <;> rfl

/-- Putting an entry leaves the values at other texts as they are. -/
theorem Value.getEntry?_putEntry {f g : String} (h : f ≠ g) (v : Value) :
    ∀ es : List (Value × Value),
      Value.getEntry? (.text f) (Value.putEntry (.text g) v es) = Value.getEntry? (.text f) es
  | [] => by
      have itself : Value.same (.text g) (.text g) = true := (Value.same_text_iff g _).mpr rfl
      rw [Value.putEntry, Value.getEntry?_cons, Value.not_same_text h itself]
      rfl
  | (l, w) :: es => by
      rw [Value.putEntry]
      cases hg : Value.same (.text g) l with
      | true =>
          rw [if_pos rfl, Value.getEntry?_cons, Value.getEntry?_cons, Value.not_same_text h hg]
          rfl
      | false =>
          rw [if_neg Bool.false_ne_true, Value.getEntry?_cons, Value.getEntry?_cons,
            Value.getEntry?_putEntry h v es]

/-- Putting a value under a name leaves the values under other names as they are. -/
theorem Record.lookup_putName {f g : String} (h : f ≠ g) (v : Value) :
    ∀ entries : List (String × Value),
      (Record.putName g v entries).lookup f = entries.lookup f
  | [] => by
      rw [Record.putName, List.lookup_cons, beq_eq_false_iff_ne.mpr h]
  | (n, w) :: entries => by
      rw [Record.putName]
      by_cases hn : n = g
      · subst hn
        rw [if_pos (beq_self_eq_true n), List.lookup_cons, List.lookup_cons,
          beq_eq_false_iff_ne.mpr h]
      · rw [if_neg (by rw [beq_iff_eq]; exact hn), List.lookup_cons, List.lookup_cons,
          Record.lookup_putName h v entries]

/-! ## §2. Records that look alike. -/

namespace Record

/-- Two records of one kind that have the same under some names.  Mappings may have any
attributes. -/
def AgreeOn (names : List String) (r r' : Record) : Prop :=
  match r.body, r'.body with
  | .plain (.dict es), .plain (.dict es') =>
    ∀ f ∈ names, Value.getEntry? (.text f) es = Value.getEntry? (.text f) es'
  | .plain v, .plain v' => v = v'
  | .object attributes, .object attributes' =>
    ∀ f ∈ names, attributes.lookup f = attributes'.lookup f
  | .mapping entries _, .mapping entries' _ => ∀ f ∈ names, entries.lookup f = entries'.lookup f
  | _, _ => False

variable {names : List String} {r r' : Record} {f : String}

/-- The attribute of an object is what it has under the name. -/
theorem readField_object (id : Nat) (attributes : List (String × Value)) (f : String) :
    ((⟨id, .object attributes⟩ : Record).readField f).outcome
      = match attributes.lookup f with
        | some v => .ok v
        | none => .error (.missingAttribute objectClass f) := rfl

/-- The entry of a mapping is what it has under the key, whatever its attributes are. -/
theorem readField_mapping (id : Nat) (entries attributes : List (String × Value)) (f : String) :
    ((⟨id, .mapping entries attributes⟩ : Record).readField f).outcome
      = match entries.lookup f with
        | some v => .ok v
        | none => .error (.missingKey (.text f)) := rfl

/-- The entry of a dictionary is what it has under the key. -/
theorem readField_dict (id : Nat) (es : List (Value × Value)) (f : String) :
    ((⟨id, .plain (.dict es)⟩ : Record).readField f).outcome
      = match Value.getEntry? (.text f) es with
        | some v => .ok v
        | none => .error (.missingKey (.text f)) := rfl

/-- **Records that agree on a name read alike under it.** -/
theorem AgreeOn.readField (h : AgreeOn names r r') (hf : f ∈ names) :
    (r.readField f).outcome = (r'.readField f).outcome := by
  obtain ⟨id, body⟩ := r
  obtain ⟨id', body'⟩ := r'
  unfold AgreeOn at h
  split at h
  · rename_i es es' hbody hbody'
    subst hbody hbody'
    rw [readField_dict, readField_dict, h f hf]
  · rename_i v v' _ hbody hbody'
    subst hbody hbody' h
    cases v <;> rfl
  · rename_i attributes attributes' hbody hbody'
    subst hbody hbody'
    rw [readField_object, readField_object, h f hf]
  · rename_i entries _ entries' _ hbody hbody'
    subst hbody hbody'
    rw [readField_mapping, readField_mapping, h f hf]
  · exact h.elim

/-- **Setting a field changes nothing under other names.** -/
theorem agreeOn_setField (r : Record) {g : String} (hg : g ∉ names) (v : Value) :
    AgreeOn names r (r.setField g v) := by
  have other : ∀ f ∈ names, f ≠ g := fun f hf same => hg (same ▸ hf)
  obtain ⟨id, body⟩ := r
  cases body with
  | plain w =>
      cases w with
      | dict es => exact fun f hf => (Value.getEntry?_putEntry (other f hf) v es).symm
      | _ => rfl
  | object attributes => exact fun f hf => (lookup_putName (other f hf) v attributes).symm
  | mapping entries attributes => exact fun f hf => (lookup_putName (other f hf) v entries).symm

end Record

/-! ## §3. Alterations. -/

/-- The fields that are read off the records themselves: no extractor is registered under
their names. -/
def ownFields (extractors : Extractors σ) (fields : List String) : List String :=
  fields.filter (fun f => (extractors.lookup f).isNone)

/-- An alteration of records and extractors that leaves alone what some fields are read
from. -/
structure Altered (fields : List String) (extractors extractors' : Extractors σ)
    (records records' : List Record) : Prop where
  size : records'.length = records.length
  /-- Extractors may change under other names only. -/
  registered : ∀ f ∈ fields, extractors'.lookup f = extractors.lookup f
  /-- Records may change under names that they are not read by. -/
  own : ∀ (i : Nat) (r r' : Record), records[i]? = some r → records'[i]? = some r' →
    Record.AgreeOn (ownFields extractors fields) r r'
  /-- Extractors make the same of the records. -/
  extracted : ∀ (i : Nat) (r r' : Record), records[i]? = some r → records'[i]? = some r' →
    ∀ f ∈ fields, ∀ reading, extractors.lookup f = some (some reading) →
      ∀ st, (reading r).outcome st = (reading r').outcome st
        ∧ (reading r).final st = (reading r').final st

/-- **No reading notices such an alteration.** -/
theorem Altered.takeAt {fields : List String} {extractors extractors' : Extractors σ}
    {records records' : List Record} (h : Altered fields extractors extractors' records records')
    {i : Nat} {f : String} (hi : i < records.length) (hf : f ∈ fields) (st : σ) :
    (takeAt extractors records i f).outcome st = (takeAt extractors' records' i f).outcome st
      ∧ (takeAt extractors records i f).final st = (takeAt extractors' records' i f).final st := by
  have hr : records[i]? = some records[i] := List.getElem?_eq_getElem hi
  have hi' : i < records'.length := h.size ▸ hi
  have hr' : records'[i]? = some records'[i] := List.getElem?_eq_getElem hi'
  have same : Accessor.forField extractors' f = Accessor.forField extractors f := by
    unfold Accessor.forField
    rw [h.registered f hf]
  rw [takeAt_of_getElem? hr, takeAt_of_getElem? hr', same, readOne_outcome, readOne_outcome,
    readOne_final, readOne_final]
  unfold Accessor.forField
  -- no extractor, one that cannot be called, or one that makes something of the record
  cases registered : extractors.lookup f with
  | none =>
      have own : f ∈ ownFields extractors fields :=
        List.mem_filter.mpr ⟨hf, by rw [registered]; rfl⟩
      exact ⟨(h.own i _ _ hr hr').readField own, rfl⟩
  | some x =>
      cases x with
      | none => exact ⟨rfl, rfl⟩
      | some reading => exact h.extracted i _ _ hr hr' f hf reading registered st

end OrderBy
