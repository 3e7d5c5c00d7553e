/-
  OrderBy.Proofs.Expression.Groups
  ────────────────────────────────
  **THE LEFTMOST PIECE THAT MAKES NO GROUP DECIDES.**

  The tokens of a piece make a group if there is one and there are not more than
  allowed.  Pieces are looked at from left to right, so the groups of two lists of
  pieces are those of the first and then, counted on, those of the second:

      ofPieces n (ps ++ qs)  =  ofPieces n ps,  then  ofPieces (n + |ps|) qs

  and where a piece makes no group, only the pieces in front of it matter.  Counting on
  does nothing but raise the number in the reason.
-/
import OrderBy.Proofs.Expression.Reading
import OrderBy.Proofs.Text.Occurrence

namespace OrderBy

open Text

/-! ## §1. Tokens. -/

/-- The tokens of a piece: its words, as texts. -/
def tokensOf (piece : List Char) : List String := (words piece).map String.ofList

/-- A piece has some tokens: they are its words. -/
def HasTokens (piece : List Char) (tokens : List String) : Prop :=
  HasWords piece (tokens.map String.toList)

/-- A piece has the tokens that are computed, and no others. -/
theorem hasTokens_iff {piece : List Char} {tokens : List String} :
    HasTokens piece tokens ↔ tokensOf piece = tokens := by
  unfold HasTokens tokensOf
  rw [hasWords_iff]
  constructor
  · intro h
    rw [h, List.map_map]
    exact (List.map_congr_left fun _ _ => String.ofList_toList).trans (List.map_id tokens)
  · rintro rfl
    rw [List.map_map]
    exact ((List.map_congr_left fun _ _ => String.toList_ofList).trans (List.map_id _)).symm

theorem hasTokens_tokensOf (piece : List Char) : HasTokens piece (tokensOf piece) :=
  hasTokens_iff.mpr rfl

/-- Tokens are words. -/
theorem isWord_of_mem_tokensOf {piece : List Char} {token : String} (h : token ∈ tokensOf piece) :
    IsWord token.toList :=
  (hasTokens_tokensOf piece).isWord _ (List.mem_map_of_mem h)

/-- The characters of a token are in the piece. -/
theorem mem_of_mem_tokensOf {piece : List Char} {token : String} {c : Char}
    (h : token ∈ tokensOf piece) (hc : c ∈ token.toList) : c ∈ piece :=
  (hasTokens_tokensOf piece).mem_of_mem (List.mem_map_of_mem h) hc

/-- A piece has no tokens iff it is blank. -/
theorem tokensOf_eq_nil_iff {piece : List Char} : tokensOf piece = [] ↔ allBlank piece = true := by
  unfold tokensOf
  rw [List.map_eq_nil_iff, words_eq_nil_iff]

/-! ## §2. One piece. -/

/-- Some tokens make a group: there is one, and there are not more than allowed. -/
structure IsGroup (maxTokens : Int) (tokens : List String) : Prop where
  ne_nil : tokens ≠ []
  length_le : tokens.length ≤ maxTokens

/-- Why the tokens at a position make no group: there is none, or there are too many. -/
inductive Misfit (maxTokens : Int) (position : Nat) : List String → Reason → Prop where
  | none : Misfit maxTokens position [] (.emptyGroup position)
  | tooMany {tokens : List String} : tokens ≠ [] → maxTokens < tokens.length →
      Misfit maxTokens position tokens (.tooManyTokens position tokens.length)

/-- The group of some tokens: the first is its field, the second its direction token. -/
def Group.ofFirst : List String → Group
  | [] => ⟨"", none⟩
  | field :: more => ⟨field, more.head?⟩

variable {maxTokens : Int} {position : Nat} {tokens : List String} {reason : Reason}

theorem Group.ofTokens_of_isGroup (h : IsGroup maxTokens tokens) :
    ofTokens maxTokens position tokens = .ok (ofFirst tokens) := by
  cases tokens with
  | nil => exact absurd rfl h.ne_nil
  | cons field more =>
      exact Group.ofTokens_eq_ok.mpr ⟨field, more, rfl, by simpa using h.length_le, rfl⟩

theorem Group.ofTokens_of_misfit (h : Misfit maxTokens position tokens reason) :
    ofTokens maxTokens position tokens = .error reason := by
  cases h with
  | none => rfl
  | @tooMany tokens ne_nil many =>
      obtain ⟨field, more, rfl⟩ := List.exists_cons_of_ne_nil ne_nil
      exact if_pos (by simpa using many)

/-- Tokens make a group, or there is a reason why not. -/
theorem isGroup_or_misfit (maxTokens : Int) (position : Nat) (tokens : List String) :
    IsGroup maxTokens tokens ∨ ∃ reason, Misfit maxTokens position tokens reason := by
  cases tokens with
  | nil => exact .inr ⟨_, .none⟩
  | cons field more =>
      have ne_nil := List.cons_ne_nil field more
      by_cases many : maxTokens < (field :: more).length
      · exact .inr ⟨_, .tooMany ne_nil many⟩
      · exact .inl ⟨ne_nil, Int.not_lt.mp many⟩

/-! ## §3. The pieces of a text. -/

/-- **The groups of two lists of pieces**: those of the first, and then those of the
second, counted on. -/
theorem Group.ofPieces_append (maxTokens : Int) (ps qs : List (List Char)) :
    ∀ position : Nat, ofPieces maxTokens position (ps ++ qs) = (do
      let gs ← ofPieces maxTokens position ps
      let hs ← ofPieces maxTokens (position + ps.length) qs
      pure (gs ++ hs)) := by
  induction ps with
  | nil =>
      intro position
      show _ = ofPieces maxTokens position qs >>= fun hs => pure hs
      rw [bind_pure]
      rfl
  | cons p ps ih =>
      intro position
      have counted : position + 1 + ps.length = position + (p :: ps).length := by
        rw [List.length_cons]
        omega
      rw [List.cons_append, ofPieces, ofPieces, ih, counted]
      simp only [bind_assoc, pure_bind, List.cons_append]

/-- Pieces that all make groups make those. -/
theorem Group.ofPieces_of_isGroup {ps : List (List Char)}
    (h : ∀ piece ∈ ps, IsGroup maxTokens (tokensOf piece)) (position : Nat) :
    ofPieces maxTokens position ps = .ok (ps.map fun piece => ofFirst (tokensOf piece)) := by
  induction ps generalizing position with
  | nil => rfl
  | cons p ps ih =>
      obtain ⟨hp, hps⟩ := List.forall_mem_cons.mp h
      have first : ofTokens maxTokens position ((words p).map String.ofList)
          = .ok (ofFirst (tokensOf p)) := ofTokens_of_isGroup hp
      rw [ofPieces, first, ih hps]
      rfl

/-- **The leftmost piece that makes no group decides**, whatever follows it. -/
theorem Group.ofPieces_of_misfit {before after : List (List Char)} {piece : List Char}
    (hbefore : ∀ q ∈ before, IsGroup maxTokens (tokensOf q))
    (h : Misfit maxTokens (position + before.length) (tokensOf piece) reason) :
    ofPieces maxTokens position (before ++ piece :: after) = .error reason := by
  have first : ofTokens maxTokens (position + before.length) ((words piece).map String.ofList)
      = .error reason := ofTokens_of_misfit h
  rw [ofPieces_append, ofPieces_of_isGroup hbefore, ofPieces, first]
  rfl

/-- All pieces make groups, or there is a leftmost one that makes none. -/
theorem isGroup_or_exists_misfit (maxTokens : Int) (position : Nat) (ps : List (List Char)) :
    (∀ piece ∈ ps, IsGroup maxTokens (tokensOf piece))
      ∨ ∃ before piece after reason, ps = before ++ piece :: after
          ∧ (∀ q ∈ before, IsGroup maxTokens (tokensOf q))
          ∧ Misfit maxTokens (position + before.length) (tokensOf piece) reason := by
  induction ps generalizing position with
  | nil => exact .inl (List.forall_mem_nil _)
  | cons p ps ih =>
      rcases isGroup_or_misfit maxTokens position (tokensOf p) with hp | ⟨reason, misfit⟩
      · rcases ih (position + 1) with all | ⟨before, piece, after, reason, rfl, hbefore, misfit⟩
        · exact .inl (List.forall_mem_cons.mpr ⟨hp, all⟩)
        · have counted : position + 1 + before.length = position + (p :: before).length := by
            rw [List.length_cons]
            omega
          exact .inr ⟨p :: before, piece, after, reason, rfl,
            List.forall_mem_cons.mpr ⟨hp, hbefore⟩, counted ▸ misfit⟩
      · exact .inr ⟨[], p, ps, reason, rfl, List.forall_mem_nil _, misfit⟩

/-! ## §4. Counting on. -/

/-- The reason further to the right by some groups; a reason without a number stays. -/
def Reason.shift (n : Nat) : Reason → Reason
  | emptyGroup position => emptyGroup (position + n)
  | tooManyTokens position count => tooManyTokens (position + n) count
  | reason => reason

theorem Group.ofTokens_shift (maxTokens : Int) (position n : Nat) (tokens : List String) :
    ofTokens maxTokens (position + n) tokens
      = (ofTokens maxTokens position tokens).mapError (Reason.shift n) := by
  rcases isGroup_or_misfit maxTokens position tokens with group | ⟨reason, misfit⟩
  · rw [ofTokens_of_isGroup group, ofTokens_of_isGroup group]
    rfl
  · rw [ofTokens_of_misfit misfit]
    cases misfit with
    | none => rfl
    | tooMany ne_nil many => exact ofTokens_of_misfit (.tooMany ne_nil many)

/-- **Counting on raises the number in the reason** and changes nothing else. -/
theorem Group.ofPieces_shift (maxTokens : Int) (n : Nat) (ps : List (List Char)) :
    ∀ position : Nat, ofPieces maxTokens (position + n) ps
      = (ofPieces maxTokens position ps).mapError (Reason.shift n) := by
  induction ps with
  | nil =>
      intro position
      rfl
  | cons p ps ih =>
      intro position
      have counted : position + n + 1 = position + 1 + n := by omega
      rw [ofPieces, ofPieces, ofTokens_shift, counted, ih]
      cases ofTokens maxTokens position ((words p).map String.ofList) with
      | error reason => rfl
      | ok g => cases ofPieces maxTokens (position + 1) ps <;> rfl

end OrderBy
