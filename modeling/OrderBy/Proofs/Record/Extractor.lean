/-
  OrderBy.Proofs.Record.Extractor
  ───────────────────────────────
  **WHAT EXTRACTORS GIVE.**

      most extractors    what depends on the record alone
      a counter          1, 2, 3, … in the order of the readings
      a remainder        of integers, one with the sign of the divisor;
                         of a text, the text with its places filled in

  The theorems about sorting speak of all extractors, or of all that depend on the record
  alone; this is what they say of the ones that can be named.
-/
import OrderBy.Proofs.Decoration
import OrderBy.Proofs.Reads
import OrderBy.Record.Extractor

namespace OrderBy

namespace Extractor

/-! ## §1. Extractors that do not count. -/

/-- Whether an extractor looks at how often it has been called. -/
def counts : Extractor → Bool
  | counter | constant _ => true
  | _ => false

/-- What is registered for a field is the first extractor with its name. -/
theorem lookup_register (xs : List (String × Option Extractor)) (f : String) :
    (register xs).lookup f = (xs.lookup f).map (Option.map (reading f)) := by
  induction xs with
  | nil => rfl
  | cons x xs ih =>
      obtain ⟨name, extractor⟩ := x
      show ((name, extractor.map (reading name)) :: register xs).lookup f = _
      rw [List.lookup_cons, List.lookup_cons]
      cases here : f == name with
      | true =>
          rw [← beq_iff_eq.mp here]
          rfl
      | false => exact ih

theorem reading_outcome {f : String} {x : Extractor} (h : x.counts = false) (r : Record)
    (tally tally' : Tally) : (reading f x r).outcome tally = (reading f x r).outcome tally' := by
  cases x with
  | counter | constant _ => cases h
  | _ => rfl

/-- **Extractors that do not count give what depends on the record alone.** -/
theorem register_recordDetermined {xs : List (String × Option Extractor)}
    (h : ∀ p ∈ xs, ∀ x ∈ p.2, x.counts = false) : RecordDetermined (register xs) := by
  intro f r st st'
  unfold Accessor.forField
  rw [lookup_register]
  cases found : xs.lookup f with
  | none => rfl
  | some extractor =>
      cases extractor with
      | none => rfl
      | some x =>
          have mem : (f, some x) ∈ xs := by
            obtain ⟨front, back, rfl, _⟩ := List.lookup_eq_some_iff.mp found
            exact List.mem_append_right front List.mem_cons_self
          exact reading_outcome (h _ mem x rfl) r st st'

/-! ## §2. Counters. -/

/-- How often the extractor of a field has been called. -/
def called (f : String) (tally : Tally) : Nat := (tally.lookup f).getD 0

theorem called_next (f : String) (tally : Tally) :
    called f (tally.next f).2 = called f tally + 1 := by
  unfold called Tally.next
  dsimp only
  rw [List.lookup_cons_self]
  rfl

/-- Reading a record by a counter alone gives the number of the call. -/
theorem readFields_counter (f : String) (position : Nat) (r : Record) (tally : Tally) :
    (readFields position r [(f, .extractor (reading f counter))]).outcome tally
        = .ok [(f, .int (called f tally + 1 : Nat))]
      ∧ (readFields position r [(f, .extractor (reading f counter))]).final tally
        = (tally.next f).2 :=
  ⟨rfl, rfl⟩

/-- **Counting numbers the records in the order in which they are read.** -/
theorem readSerially_counter (f : String) :
    ∀ (position : Nat) (records : List Record) (tally : Tally),
      (readSerially [(f, .extractor (reading f counter))] position records).outcome tally
        = .ok ((List.range' (called f tally + 1) records.length).map
            fun (n : Nat) => [(f, .int n)])
  | _, [], _ => rfl
  | position, r :: records, tally => by
      obtain ⟨first, after⟩ := readFields_counter f position r tally
      have others := readSerially_counter f (position + 1) records (tally.next f).2
      rw [called_next] at others
      unfold readSerially
      rw [Run.outcome_bind_ok first, after, Run.outcome_bind_ok others]
      rfl

end Extractor

/-! ## §3. Remainders. -/

namespace Value

theorem fmod_of_neg (m : Int) {n : Int} (h : n < 0) : n < m.fmod n ∧ m.fmod n ≤ 0 := by
  have turned := Int.neg_fmod_neg m n
  have positive : 0 < -n := by omega
  have bounds := And.intro (Int.fmod_nonneg_of_pos (-m) positive) (Int.fmod_lt_of_pos (-m) positive)
  omega

/-- **The remainder of integers has the sign of the divisor**, and is what is left of the
division. -/
theorem remainder_int (m : Int) {n : Int} (h : n ≠ 0) :
    ∃ q r, (int m).remainder (int n) = .ok (int r) ∧ m = n * q + r
      ∧ (0 ≤ r ∧ r < n ∨ n < r ∧ r ≤ 0) := by
  have divided : (int m).remainder (int n) = .ok (int (m.fmod n)) :=
    if_neg (Bool.eq_false_iff.mp (beq_false_of_ne h))
  refine ⟨m.fdiv n, m.fmod n, divided, (Int.mul_fdiv_add_fmod m n).symm, ?_⟩
  rcases Int.lt_or_gt_of_ne h with negative | positive
  · exact .inr (fmod_of_neg m negative)
  · exact .inl ⟨Int.fmod_nonneg_of_pos m positive, Int.fmod_lt_of_pos m positive⟩

end Value

namespace Template

/-- A text with its percent signs doubled. -/
def escape (s : List Char) : List Char := s.flatMap fun c => if c = '%' then ['%', '%'] else [c]

theorem escape_percent (s : List Char) : escape ('%' :: s) = '%' :: '%' :: escape s := rfl

theorem escape_cons {c : Char} (h : c ≠ '%') (s : List Char) : escape (c :: s) = c :: escape s := by
  unfold escape
  rw [List.flatMap_cons, if_neg h]
  rfl

theorem length_le_escape (s : List Char) : s.length ≤ (escape s).length := by
  induction s with
  | nil => exact Nat.le_refl 0
  | cons c s ih =>
      by_cases percent : c = '%'
      · subst percent
        exact Nat.le_succ_of_le (Nat.succ_le_succ ih)
      · rw [escape_cons percent]
        exact Nat.succ_le_succ ih

/-- One step of filling in passes one character of the text. -/
theorem fillFrom_escape (medium : Medium) (length : Nat) :
    ∀ (s : List Char) {fuel : Nat}, s.length < fuel →
      fillFrom medium length fuel ⟨[], none⟩ (escape s) = .ok s := by
  intro s
  induction s with
  | nil =>
      intro fuel enough
      obtain ⟨fuel, rfl⟩ := Nat.exists_eq_succ_of_ne_zero (Nat.ne_of_gt enough)
      rfl
  | cons c s ih =>
      intro fuel enough
      obtain ⟨fuel, rfl⟩ := Nat.exists_eq_succ_of_ne_zero (Nat.ne_of_gt (Nat.zero_lt_of_lt enough))
      have rest := ih (Nat.lt_of_succ_lt_succ enough)
      by_cases percent : c = '%'
      · subst percent
        rw [escape_percent]
        show (fillFrom medium length fuel ⟨[], none⟩ (escape s) >>= _) = _
        rw [rest]
        rfl
      · rw [escape_cons percent, fillFrom]
        · rw [rest]
          rfl
        -- a character that is no percent sign begins none of the places
        all_goals simp [percent]

/-- **A text whose percent signs are doubled is filled in as the text**, if nothing is
supplied. -/
theorem fill_escape (medium : Medium) (s : List Char) :
    fill medium (escape s) (.tuple []) = .ok s :=
  fillFrom_escape medium _ s (Nat.lt_succ_of_le (length_le_escape s))

end Template

end OrderBy
