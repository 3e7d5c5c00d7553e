/-
  OrderBy.Proofs.Expression.Concatenation
  ───────────────────────────────────────
  **READING TEXTS THAT ARE JOINED BY A COMMA.**

  A comma separates groups, so the pieces of `s,t` are those of `s` and then those of
  `t`.  The text is read iff both parts are, and its keys are theirs; otherwise its
  reason is that of the first part that is not read:

      s is blank                      the first group is empty
      s is malformed otherwise        the reason of s
      s has n keys, t is blank        group n + 1 is empty
      s has n keys, t is malformed    the reason of t, n groups further to the right

  A blank text by itself has no fields at all; as a part it is one empty group.
-/
import OrderBy.Proofs.Expression.Grammar
import OrderBy.Proofs.Expression.Groups

namespace OrderBy

open Text

/-! ## §1. Reading is cutting into groups. -/

/-- A text is malformed, for a reason. -/
def MalformedAs (s : String) (reason : Reason) : Prop :=
  (Expression.read (.text s)).outcome = .error (.malformed (.text s) reason)

/-- What the standard parser makes of the pieces of a text, the first of which is at the
given position. -/
abbrev standardGroups (position : Nat) (s : List Char) : Except Reason (List Group) :=
  Group.ofPieces 2 position (pieces [','] s)

variable {s t : String} {reason : Reason}

/-- A blank text is one piece, and that is an empty group. -/
theorem standardGroups_of_blank {s : List Char} (h : allBlank s = true) (position : Nat) :
    standardGroups position s = .error (.emptyGroup position) := by
  have single : pieces [','] s = [s] := by
    rw [pieces_singleton, List.splitOn_eq_singleton (not_mem_comma_of_allBlank h)]
  have empty : Misfit 2 position (tokensOf s) (.emptyGroup position) := by
    rw [tokensOf_eq_nil_iff.mpr h]
    exact .none
  have first : Group.ofPieces 2 position ([] ++ [s]) = .error (.emptyGroup position) :=
    Group.ofPieces_of_misfit (List.forall_mem_nil _) empty
  unfold standardGroups
  rw [single]
  exact first

/-- A text that is read has groups, one for each key. -/
theorem exists_standardGroups_of_read {p : Expression}
    (h : (Expression.read (.text s)).outcome = .ok p) :
    (∃ gs, standardGroups 1 s.toList = .ok gs) ∧ (pieces [','] s.toList).length = p.keys.length := by
  obtain ⟨gs, hgs, _, keys⟩ := writes_of_read h
  unfold standardGroups
  rw [hgs.pieces, keys, List.length_map, List.length_map]
  exact ⟨⟨_, ofPieces_text gs 1⟩, rfl⟩

/-- A text that is not blank is malformed for the reason of its groups. -/
theorem malformedAs_iff (h : allBlank s.toList = false) :
    MalformedAs s reason ↔ standardGroups 1 s.toList = .error reason := by
  have text : (Value.text s).text? = some s := rfl
  have groups : (Parser.ofGrammar true).groups (.text s) s.toList
      = (standardGroups 1 s.toList).mapError (Fault.malformed (.text s)) :=
    Parser.groups_ofGrammar h
  have forward : ∀ r, standardGroups 1 s.toList = .error r → MalformedAs s r := by
    intro r hr
    rw [hr] at groups
    show ((Parser.ofGrammar true).parse (.text s)).outcome = _
    rw [Parser.parse_of_error text groups]
  constructor
  · intro malformed
    cases hpieces : standardGroups 1 s.toList with
    | error r =>
        have same := (forward r hpieces).symm.trans malformed
        injection same with same
        injection same with _ same
        rw [same]
    | ok gs =>
        -- a text with groups is written by the grammar, so it would have been read
        have writes : ∃ ws : List WrittenGroup, Writes ws s.toList := by
          by_contra none
          obtain ⟨r, fails⟩ := Parser.groups_of_not_writes true (.text s) none
          rw [groups, hpieces] at fails
          cases fails
        obtain ⟨ws, hws⟩ := writes
        unfold MalformedAs at malformed
        rw [read_of_writes hws] at malformed
        cases malformed
  · exact forward reason

/-! ## §2. Two texts and a comma. -/

theorem toList_joined (s t : String) : (s ++ "," ++ t).toList = s.toList ++ ',' :: t.toList := by
  rw [String.toList_append, String.toList_append, List.append_assoc]
  rfl

/-- A text with a comma is not blank. -/
theorem joined_not_blank (s t : String) : allBlank (s ++ "," ++ t).toList = false := by
  rw [toList_joined, allBlank_append, allBlank_cons, isBlank_comma, Bool.false_and, Bool.and_false]

/-- The groups of the text are those of the first part and, counted on, of the second. -/
theorem standardGroups_joined (s t : String) :
    standardGroups 1 (s ++ "," ++ t).toList = (do
      let gs ← standardGroups 1 s.toList
      let hs ← standardGroups (1 + (pieces [','] s.toList).length) t.toList
      pure (gs ++ hs)) := by
  unfold standardGroups
  rw [toList_joined, pieces_append, Group.ofPieces_append]

/-- What is wrong with the groups of the first part is wrong with the text. -/
theorem malformedAs_of_left (h : standardGroups 1 s.toList = .error reason) (t : String) :
    MalformedAs (s ++ "," ++ t) reason := by
  rw [malformedAs_iff (joined_not_blank s t), standardGroups_joined, h]
  rfl

/-- After a part that is read, what is wrong with the groups of the second part, counted
on, is wrong with the text. -/
theorem malformedAs_of_right {p : Expression} (hs : (Expression.read (.text s)).outcome = .ok p)
    (ht : standardGroups (1 + p.keys.length) t.toList = .error reason) :
    MalformedAs (s ++ "," ++ t) reason := by
  obtain ⟨⟨gs, hgs⟩, length⟩ := exists_standardGroups_of_read hs
  rw [malformedAs_iff (joined_not_blank s t), standardGroups_joined, hgs, length, ht]
  rfl

/-- Texts that are read, joined by a comma, are read as the keys of both. -/
theorem read_comma {p q : Expression} (hs : (Expression.read (.text s)).outcome = .ok p)
    (ht : (Expression.read (.text t)).outcome = .ok q) :
    ∃ e, (Expression.read (.text (s ++ "," ++ t))).outcome = .ok e ∧ e.keys = p.keys ++ q.keys := by
  obtain ⟨gs, hgs, _, hp⟩ := writes_of_read hs
  obtain ⟨hs', hhs, _, hq⟩ := writes_of_read ht
  have whole : Writes (gs ++ hs') (s ++ "," ++ t).toList := by
    rw [toList_joined]
    exact hgs.append hhs
  refine ⟨_, read_of_writes whole, ?_⟩
  rw [hp, hq]
  exact List.map_append

/-! ## §3. The outcome of the whole from those of the parts. -/

/-- A blank first part is an empty group. -/
theorem malformedAs_joined_of_blank_left (hs : allBlank s.toList = true) (t : String) :
    MalformedAs (s ++ "," ++ t) (.emptyGroup 1) :=
  malformedAs_of_left (standardGroups_of_blank hs 1) t

/-- Any other first part that is not read passes its reason on. -/
theorem malformedAs_joined_of_left (hblank : allBlank s.toList = false)
    (hs : MalformedAs s reason) (t : String) : MalformedAs (s ++ "," ++ t) reason :=
  malformedAs_of_left ((malformedAs_iff hblank).mp hs) t

/-- A blank second part is an empty group behind those of the first. -/
theorem malformedAs_joined_of_blank_right {p : Expression}
    (hs : (Expression.read (.text s)).outcome = .ok p) (ht : allBlank t.toList = true) :
    MalformedAs (s ++ "," ++ t) (.emptyGroup (p.keys.length + 1)) := by
  refine malformedAs_of_right hs ?_
  rw [standardGroups_of_blank ht, Nat.add_comm]

/-- Any other second part that is not read passes its reason on, counted on. -/
theorem malformedAs_joined_of_right {p : Expression}
    (hs : (Expression.read (.text s)).outcome = .ok p) (hblank : allBlank t.toList = false)
    (ht : MalformedAs t reason) :
    MalformedAs (s ++ "," ++ t) (reason.shift p.keys.length) := by
  have counted : standardGroups (1 + p.keys.length) t.toList
      = (standardGroups 1 t.toList).mapError (Reason.shift p.keys.length) :=
    Group.ofPieces_shift 2 _ _ 1
  refine malformedAs_of_right hs ?_
  rw [counted, (malformedAs_iff hblank).mp ht]
  rfl

/-- A text that is malformed is not read. -/
theorem MalformedAs.not_read {e : Expression} (h : MalformedAs s reason) :
    (Expression.read (.text s)).outcome ≠ .ok e := by
  intro read
  cases h.symm.trans read

/-- Both parts of a text that is read are read. -/
theorem read_of_joined {e : Expression}
    (h : (Expression.read (.text (s ++ "," ++ t))).outcome = .ok e) :
    (∃ p, (Expression.read (.text s)).outcome = .ok p)
      ∧ ∃ q, (Expression.read (.text t)).outcome = .ok q := by
  rcases read_or_malformed s with ⟨p, hs⟩ | ⟨reason, hs⟩
  · rcases read_or_malformed t with ⟨q, ht⟩ | ⟨reason, ht⟩
    · exact ⟨⟨p, hs⟩, q, ht⟩
    · cases hblank : allBlank t.toList with
      | true => exact absurd h (malformedAs_joined_of_blank_right hs hblank).not_read
      | false => exact absurd h (malformedAs_joined_of_right hs hblank ht).not_read
  · cases hblank : allBlank s.toList with
    | true => exact absurd h (malformedAs_joined_of_blank_left hblank t).not_read
    | false => exact absurd h (malformedAs_joined_of_left hblank hs t).not_read

/-- **Reading is a homomorphism on texts that are joined by a comma, faults included.**
The whole is read iff both parts are, as the keys of both; and if it is not, the parts say
why not. -/
theorem read_joined (s t : String) :
    ((∃ e, (Expression.read (.text (s ++ "," ++ t))).outcome = .ok e)
        ↔ (∃ p, (Expression.read (.text s)).outcome = .ok p)
          ∧ ∃ q, (Expression.read (.text t)).outcome = .ok q)
      ∧ (∀ e p q, (Expression.read (.text (s ++ "," ++ t))).outcome = .ok e →
          (Expression.read (.text s)).outcome = .ok p →
          (Expression.read (.text t)).outcome = .ok q → e.keys = p.keys ++ q.keys)
      ∧ (allBlank s.toList = true → MalformedAs (s ++ "," ++ t) (.emptyGroup 1))
      ∧ (∀ reason, allBlank s.toList = false → MalformedAs s reason →
          MalformedAs (s ++ "," ++ t) reason)
      ∧ (∀ p, (Expression.read (.text s)).outcome = .ok p → allBlank t.toList = true →
          MalformedAs (s ++ "," ++ t) (.emptyGroup (p.keys.length + 1)))
      ∧ (∀ p reason, (Expression.read (.text s)).outcome = .ok p → allBlank t.toList = false →
          MalformedAs t reason → MalformedAs (s ++ "," ++ t) (reason.shift p.keys.length))
      ∧ ∀ position, (Reason.emptyGroup position).text
          = "group " ++ toString position ++ " is empty" := by
  refine ⟨⟨?_, ?_⟩, ?_, fun h => malformedAs_joined_of_blank_left h t,
    fun _ h hs => malformedAs_joined_of_left h hs t,
    fun _ => malformedAs_joined_of_blank_right, fun _ _ => malformedAs_joined_of_right,
    fun _ => rfl⟩
  · rintro ⟨e, h⟩
    exact read_of_joined h
  · rintro ⟨⟨p, hs⟩, q, ht⟩
    obtain ⟨e, h, _⟩ := read_comma hs ht
    exact ⟨e, h⟩
  · intro e p q h hs ht
    obtain ⟨e', h', keys⟩ := read_comma hs ht
    obtain rfl : e = e' := Except.ok.inj (h.symm.trans h')
    exact keys

end OrderBy
