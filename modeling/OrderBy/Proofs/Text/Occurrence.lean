/-
  OrderBy.Proofs.Text.Occurrence
  ──────────────────────────────
  **WHERE A TEXT IS CUT.**

  Both cuts of a text as relations that mention no algorithm:

      words     stretches without blanks, as long as they can be, with nothing but
                blanks around them
      pieces    what stands in front of the leftmost occurrence of the separator,
                and then the pieces of what stands behind it

  Occurrences may overlap in the text; the leftmost one is taken and the next one is
  looked for behind it.  Each relation holds of one list only, and that is the list
  that is computed.
-/
import OrderBy.Proofs.Text.Cut

namespace OrderBy.Text

/-! ## §1. Words. -/

/-- A text has some words: blanks stand in front of each, it ends where the text ends or
blanks go on, and behind the last of them there are only blanks. -/
inductive HasWords : List Char → List (List Char) → Prop where
  | blank {s : List Char} : allBlank s = true → HasWords s []
  | word {gap w rest : List Char} {ws : List (List Char)} : allBlank gap = true → IsWord w →
      EndsWord rest → HasWords rest ws → HasWords (gap ++ (w ++ rest)) (w :: ws)

/-- **A text has the words that are computed, and no others.** -/
theorem hasWords_iff {s : List Char} {ws : List (List Char)} : HasWords s ws ↔ words s = ws := by
  constructor
  · intro h
    induction h with
    | blank h => exact words_blanks h
    | word hgap hw ends _ ih => rw [words_blanks_append hgap, words_word_append hw ends, ih]
  · intro h
    induction ws generalizing s with
    | nil => exact .blank (words_eq_nil_iff.mp h)
    | cons w ws ih =>
        obtain ⟨gap, rest, rfl, hgap, hw, ends, hrest⟩ := words_eq_cons h
        exact .word hgap hw ends (ih hrest)

/-- What a text has as a word is a word. -/
theorem HasWords.isWord {s : List Char} {ws : List (List Char)} (h : HasWords s ws) :
    ∀ w ∈ ws, IsWord w := by
  induction h with
  | blank _ => exact List.forall_mem_nil _
  | word _ hw _ _ ih => exact List.forall_mem_cons.mpr ⟨hw, ih⟩

/-- The characters of its words are in the text. -/
theorem HasWords.mem_of_mem {s w : List Char} {ws : List (List Char)} {c : Char}
    (h : HasWords s ws) (hw : w ∈ ws) (hc : c ∈ w) : c ∈ s := by
  induction h with
  | blank _ => cases hw
  | word _ _ _ _ ih =>
      rcases List.mem_cons.mp hw with rfl | hw
      · exact List.mem_append_right _ (List.mem_append_left _ hc)
      · exact List.mem_append_right _ (List.mem_append_right _ (ih hw))

/-- A word of a text is a stretch of it. -/
theorem HasWords.infix_of_mem {s w : List Char} {ws : List (List Char)} (h : HasWords s ws)
    (hw : w ∈ ws) : w <:+: s := by
  induction h with
  | blank _ => cases hw
  | word _ _ _ _ ih =>
      rcases List.mem_cons.mp hw with rfl | hw
      · exact List.infix_append' _ _ _
      · exact (ih hw).trans ((List.suffix_append _ _).trans (List.suffix_append _ _)).isInfix

/-- A word is its own only word. -/
theorem IsWord.hasWords {w : List Char} (h : IsWord w) : HasWords w [w] := by
  have alone : words (w ++ []) = w :: words [] := words_word_append h endsWord_nil
  rw [List.append_nil] at alone
  exact hasWords_iff.mpr alone

/-! ## §2. Pieces. -/

/-- A text has some pieces: it is one itself if the separator does not occur in it, and
otherwise the first is what stands in front of the leftmost occurrence. -/
inductive HasPieces (sep : List Char) : List Char → List (List Char) → Prop where
  | whole {s : List Char} : ¬ sep <:+: s → HasPieces sep s [s]
  | cut {p rest : List Char} {ps : List (List Char)} :
      (∀ i < p.length, ¬ sep <+: (p ++ (sep ++ rest)).drop i) → HasPieces sep rest ps →
      HasPieces sep (p ++ (sep ++ rest)) (p :: ps)

variable {sep : List Char}

/-- Passing characters of an occurrence is dropping them. -/
theorem piecesFrom_eq_drop (n : Nat) (s : List Char) :
    piecesFrom sep n s = pieces sep (s.drop n) := by
  induction n generalizing s with
  | zero => rfl
  | succ n ih =>
      cases s with
      | nil => rfl
      | cons c s => exact ih s

/-- An occurrence at the beginning cuts off an empty piece. -/
theorem pieces_sep_append (hsep : sep ≠ []) (rest : List Char) :
    pieces sep (sep ++ rest) = [] :: pieces sep rest := by
  obtain ⟨c, tail, rfl⟩ := List.exists_cons_of_ne_nil hsep
  have found : (c :: tail).isPrefixOf (c :: (tail ++ rest)) = true :=
    List.isPrefixOf_iff_prefix.mpr (List.prefix_append (c :: tail) rest)
  show piecesFrom (c :: tail) 0 (c :: (tail ++ rest)) = _
  rw [piecesFrom, if_pos found, piecesFrom_eq_drop]
  show _ :: pieces _ ((tail ++ rest).drop tail.length) = _
  rw [List.drop_left]

/-- Without an occurrence there the first character belongs to the first piece. -/
theorem pieces_cons {c : Char} {s : List Char} (h : ¬ sep <+: c :: s) :
    pieces sep (c :: s) = consPiece c (pieces sep s) := by
  have none : ¬ sep.isPrefixOf (c :: s) = true := fun found =>
    h (List.isPrefixOf_iff_prefix.mp found)
  show piecesFrom sep 0 (c :: s) = _
  rw [piecesFrom, if_neg none]
  rfl

/-- A text in which the separator does not occur is one piece. -/
theorem pieces_of_not_infix {s : List Char} (h : ¬ sep <:+: s) : pieces sep s = [s] := by
  induction s with
  | nil => rfl
  | cons c s ih =>
      rw [List.infix_cons_iff, not_or] at h
      obtain ⟨notHere, notLater⟩ := h
      rw [pieces_cons notHere, ih notLater]
      rfl

/-- The leftmost occurrence cuts off what stands in front of it. -/
theorem pieces_of_leftmost (hsep : sep ≠ []) {p rest : List Char}
    (h : ∀ i < p.length, ¬ sep <+: (p ++ (sep ++ rest)).drop i) :
    pieces sep (p ++ (sep ++ rest)) = p :: pieces sep rest := by
  induction p with
  | nil => exact pieces_sep_append hsep rest
  | cons c p ih =>
      have notHere : ¬ sep <+: c :: (p ++ (sep ++ rest)) := h 0 (Nat.succ_pos _)
      have later := ih fun i hi => h (i + 1) (Nat.succ_lt_succ hi)
      rw [List.cons_append, pieces_cons notHere, later]
      rfl

/-- There is always a piece. -/
theorem HasPieces.ne_nil {s : List Char} {ps : List (List Char)} (h : HasPieces sep s ps) :
    ps ≠ [] := by
  cases h <;> exact List.cons_ne_nil _ _

/-- The separator does not occur in a piece: that would be an occurrence further to the left. -/
theorem HasPieces.not_infix_of_mem {s p : List Char} {ps : List (List Char)} (hsep : sep ≠ [])
    (h : HasPieces sep s ps) (hp : p ∈ ps) : ¬ sep <:+: p := by
  induction h with
  | whole none =>
      rw [List.mem_singleton.mp hp]
      exact none
  | @cut q rest ps leftmost _ ih =>
      rcases List.mem_cons.mp hp with rfl | hp
      · rintro ⟨front, back, rfl⟩
        have some := List.length_pos_iff.mpr hsep
        have inside : front.length < (front ++ sep ++ back).length := by
          rw [List.length_append, List.length_append]
          omega
        refine leftmost front.length inside ?_
        rw [List.append_assoc, List.append_assoc, List.drop_left]
        exact List.prefix_append _ _
      · exact ih hp

/-- A character in front of which the separator does not begin goes to the first piece. -/
theorem HasPieces.cons {c : Char} {s : List Char} {ps : List (List Char)}
    (h : ¬ sep <+: c :: s) (hs : HasPieces sep s ps) : HasPieces sep (c :: s) (consPiece c ps) := by
  cases hs with
  | whole none => exact .whole fun found => (List.infix_cons_iff.mp found).elim h none
  | @cut p rest ps leftmost hrest =>
      refine .cut (p := c :: p) (fun i hi => ?_) hrest
      cases i with
      | zero => exact h
      | succ i => exact leftmost i (Nat.lt_of_succ_lt_succ hi)

/-- Every text has the pieces that are computed. -/
theorem hasPieces_pieces (hsep : sep ≠ []) (s : List Char) : HasPieces sep s (pieces sep s) := by
  -- behind an occurrence the rest is shorter by more than one character
  induction hn : s.length using Nat.strongRecOn generalizing s with
  | ind n ih =>
      cases s with
      | nil => exact .whole fun found => hsep (List.infix_nil.mp found)
      | cons c s =>
          by_cases here : sep <+: c :: s
          · obtain ⟨rest, hrest⟩ := here
            have shorter : rest.length < n := by
              have some := List.length_pos_iff.mpr hsep
              rw [← hn, ← hrest, List.length_append]
              omega
            rw [← hrest, pieces_sep_append hsep]
            exact .cut (p := []) (fun i hi => absurd hi (Nat.not_lt_zero i)) (ih _ shorter rest rfl)
          · have shorter : s.length < n := by
              rw [← hn]
              exact Nat.lt_succ_self _
            rw [pieces_cons here]
            exact (ih _ shorter s rfl).cons here

/-- **A text has the pieces that are computed, and no others.** -/
theorem hasPieces_iff (hsep : sep ≠ []) {s : List Char} {ps : List (List Char)} :
    HasPieces sep s ps ↔ pieces sep s = ps := by
  constructor
  · intro h
    induction h with
    | whole none => exact pieces_of_not_infix none
    | cut leftmost _ ih => rw [pieces_of_leftmost hsep leftmost, ih]
  · rintro rfl
    exact hasPieces_pieces hsep s

end OrderBy.Text
