/-
  OrderBy.Proofs.Text.Cut
  ───────────────────────
  **BOTH CUTS OF A TEXT CAN BE UNDONE.**

  The words of a text and the stretches of blanks around them make up the text
  again, and so do its pieces and the separators between them:

      words s = w :: ws     iff   s = gap ++ w ++ rest,   words rest = ws
      pieces [c] s          =     the one list without a c in it that c joins to s

  where `gap` is blank, `w` is a word and `rest` does not continue it.
-/
import OrderBy.Text.Blank

namespace OrderBy.Text

/-! ## §1. Blanks and words. -/

/-- A word: a text with some character and without blanks. -/
structure IsWord (w : List Char) : Prop where
  ne_nil : w ≠ []
  notBlank : ∀ c ∈ w, isBlank c = false

/-- A text that ends a word in front of it: it is empty or begins with a blank. -/
def EndsWord (s : List Char) : Prop := ∀ c ∈ s.head?, isBlank c = true

theorem endsWord_nil : EndsWord [] := by
  intro c hc
  cases hc

theorem endsWord_cons {c : Char} {s : List Char} : EndsWord (c :: s) ↔ isBlank c = true := by
  constructor
  · intro h
    exact h c rfl
  · intro h d hd
    obtain rfl : c = d := Option.some.inj hd
    exact h

theorem allBlank_iff {s : List Char} : allBlank s = true ↔ ∀ c ∈ s, isBlank c = true :=
  List.all_eq_true

@[simp]
theorem allBlank_nil : allBlank [] = true := rfl

@[simp]
theorem allBlank_cons (c : Char) (s : List Char) :
    allBlank (c :: s) = (isBlank c && allBlank s) := rfl

@[simp]
theorem allBlank_append (s t : List Char) : allBlank (s ++ t) = (allBlank s && allBlank t) :=
  List.all_append

theorem endsWord_of_allBlank {s : List Char} (h : allBlank s = true) : EndsWord s := by
  cases s with
  | nil => exact endsWord_nil
  | cons c s =>
      rw [allBlank_cons, Bool.and_eq_true] at h
      exact endsWord_cons.mpr h.1

/-- A word is no blank text. -/
theorem IsWord.not_allBlank {w : List Char} (h : IsWord w) : allBlank w = false := by
  cases w with
  | nil => exact absurd rfl h.ne_nil
  | cons c w => rw [allBlank_cons, h.notBlank c List.mem_cons_self, Bool.false_and]

/-- A word goes on where it has not ended. -/
theorem IsWord.not_endsWord_append {w : List Char} (h : IsWord w) (s : List Char) :
    ¬ EndsWord (w ++ s) := by
  cases w with
  | nil => exact absurd rfl h.ne_nil
  | cons c w =>
      intro ends
      have blank := endsWord_cons.mp ends
      rw [h.notBlank c List.mem_cons_self] at blank
      cases blank

theorem isWord_singleton {c : Char} (h : isBlank c = false) : IsWord [c] where
  ne_nil := List.cons_ne_nil c []
  notBlank := by
    intro d hd
    rw [List.mem_singleton.mp hd]
    exact h

theorem IsWord.cons {c : Char} {w : List Char} (hc : isBlank c = false) (h : IsWord w) :
    IsWord (c :: w) where
  ne_nil := List.cons_ne_nil c w
  notBlank := by
    intro d hd
    rcases List.mem_cons.mp hd with rfl | hd
    · exact hc
    · exact h.notBlank d hd

/-! ## §2. The words of a text. -/

theorem words_nil : words [] = [] := rfl

theorem words_cons_blank {c : Char} (h : isBlank c = true) (s : List Char) :
    words (c :: s) = words s := by
  rw [words.eq_def]
  exact if_pos h

/-- A character that no other continues is a word. -/
theorem words_cons_alone {c : Char} {s : List Char} (hc : isBlank c = false) (hs : EndsWord s) :
    words (c :: s) = [c] :: words s := by
  rw [words.eq_def]
  show (if isBlank c then _ else _) = _
  rw [if_neg (Bool.eq_false_iff.mp hc)]
  cases s with
  | nil => rfl
  | cons d s => exact if_pos (endsWord_cons.mp hs)

/-- A character in front of a word belongs to it. -/
theorem words_cons_word {c d : Char} {s w : List Char} {ws : List (List Char)}
    (hc : isBlank c = false) (hd : isBlank d = false) (h : words (d :: s) = w :: ws) :
    words (c :: d :: s) = (c :: w) :: ws := by
  rw [words.eq_def]
  show (if isBlank c then _ else if isBlank d then _ else _) = _
  rw [if_neg (Bool.eq_false_iff.mp hc), if_neg (Bool.eq_false_iff.mp hd), h]

/-- Blanks in front do not count. -/
theorem words_blanks_append {gap : List Char} (h : allBlank gap = true) (s : List Char) :
    words (gap ++ s) = words s := by
  induction gap with
  | nil => rfl
  | cons c gap ih =>
      rw [allBlank_cons, Bool.and_eq_true] at h
      rw [List.cons_append, words_cons_blank h.1, ih h.2]

/-- **A word at the beginning is the first word.** -/
theorem words_word_append {w s : List Char} (hw : IsWord w) (hs : EndsWord s) :
    words (w ++ s) = w :: words s := by
  obtain ⟨_, notBlank⟩ := hw
  induction w with
  | nil => contradiction
  | cons c w ih =>
      have hc := notBlank c List.mem_cons_self
      -- the last character of the word stands alone, every other one goes on with the next
      cases w with
      | nil => exact words_cons_alone hc hs
      | cons d w =>
          have rest : ∀ c ∈ d :: w, isBlank c = false :=
            fun x hx => notBlank x (List.mem_cons_of_mem c hx)
          exact words_cons_word hc (rest d List.mem_cons_self)
            (ih (List.cons_ne_nil d w) rest)

/-- A text has no words iff it is blank. -/
theorem words_eq_nil_iff {s : List Char} : words s = [] ↔ allBlank s = true := by
  induction s with
  | nil => simp [words_nil]
  | cons c s ih =>
      cases hc : isBlank c with
      | true => rw [words_cons_blank hc, ih, allBlank_cons, hc, Bool.true_and]
      | false =>
          have some : words (c :: s) ≠ [] := by
            rw [words.eq_def]
            show (if isBlank c then _ else _) ≠ _
            rw [if_neg (Bool.eq_false_iff.mp hc)]
            repeat' split
            all_goals exact List.cons_ne_nil _ _
          rw [allBlank_cons, hc, Bool.false_and]
          exact iff_of_false some Bool.false_ne_true

/-- A text of blanks has no words. -/
theorem words_blanks {s : List Char} (h : allBlank s = true) : words s = [] :=
  words_eq_nil_iff.mpr h

/-- **The first word of a text with the blanks in front of it and what follows.** -/
theorem words_eq_cons {s w : List Char} {ws : List (List Char)} (h : words s = w :: ws) :
    ∃ gap rest, s = gap ++ (w ++ rest) ∧ allBlank gap = true ∧ IsWord w ∧ EndsWord rest
      ∧ words rest = ws := by
  induction s generalizing w ws with
  | nil => cases h
  | cons c s ih =>
      cases hc : isBlank c with
      | true =>
          rw [words_cons_blank hc] at h
          obtain ⟨gap, rest, rfl, hgap, hw, hrest, hws⟩ := ih h
          exact ⟨c :: gap, rest, rfl, by rw [allBlank_cons, hc, hgap, Bool.true_and], hw, hrest, hws⟩
      | false =>
          by_cases hs : EndsWord s
          · rw [words_cons_alone hc hs] at h
            obtain ⟨rfl, rfl⟩ := List.cons.inj h
            exact ⟨[], s, rfl, rfl, isWord_singleton hc, hs, rfl⟩
          · -- the next character is no blank, so it begins the rest of the word
            cases s with
            | nil => exact absurd endsWord_nil hs
            | cons d s =>
                have hd : isBlank d = false := Bool.eq_false_iff.mpr (hs ∘ endsWord_cons.mpr)
                cases hwords : words (d :: s) with
                | nil =>
                    have blank := words_eq_nil_iff.mp hwords
                    rw [allBlank_cons, hd] at blank
                    cases blank
                | cons w' ws' =>
                    rw [words_cons_word hc hd hwords] at h
                    obtain ⟨rfl, rfl⟩ := List.cons.inj h
                    obtain ⟨gap, rest, hsplit, hgap, hw, hrest, hws⟩ := ih hwords
                    -- no gap is in front of that word, since it begins with d
                    cases gap with
                    | nil => exact ⟨[], rest, by rw [hsplit]; rfl, rfl, hw.cons hc, hrest, hws⟩
                    | cons g gap =>
                        obtain ⟨rfl, _⟩ := List.cons.inj hsplit
                        rw [allBlank_cons, hd] at hgap
                        cases hgap

/-! ## §3. The pieces of a text at one character. -/

theorem consPiece_eq_modifyHead (c : Char) {ps : List (List Char)} (h : ps ≠ []) :
    consPiece c ps = ps.modifyHead (c :: ·) := by
  cases ps with
  | nil => exact absurd rfl h
  | cons p ps => rfl

/-- Cutting at one character is splitting there. -/
theorem pieces_singleton (c : Char) (s : List Char) : pieces [c] s = s.splitOn c := by
  unfold pieces
  induction s with
  | nil => rfl
  | cons d s ih =>
      have isPrefix : [c].isPrefixOf (d :: s) = (d == c) := by
        rw [List.isPrefixOf, List.isPrefixOf_nil_left, Bool.and_true, Bool.beq_comm]
      rw [piecesFrom, isPrefix, List.splitOn_cons_eq_if_modifyHead]
      by_cases hd : (d == c) = true
      · rw [if_pos hd, if_pos hd, ← ih]
        rfl
      · rw [if_neg hd, if_neg hd, ih]
        exact consPiece_eq_modifyHead d (List.splitOn_ne_nil c s)

/-- No piece has the character at which it was cut off. -/
theorem not_mem_of_mem_splitOn {c : Char} {s p : List Char} (h : p ∈ s.splitOn c) : c ∉ p := by
  induction s generalizing p with
  | nil =>
      rw [List.splitOn_nil, List.mem_singleton] at h
      rw [h]
      exact List.not_mem_nil
  | cons d s ih =>
      rw [List.splitOn_cons_eq_if_modifyHead] at h
      by_cases hd : (d == c) = true
      · rw [if_pos hd] at h
        rcases List.mem_cons.mp h with rfl | h
        · exact List.not_mem_nil
        · exact ih h
      · rw [if_neg hd] at h
        cases hs : s.splitOn c with
        | nil => exact absurd hs (List.splitOn_ne_nil c s)
        | cons q qs =>
            -- d goes in front of the first piece and is not the character itself
            rw [hs, List.modifyHead_cons] at h
            rcases List.mem_cons.mp h with rfl | h
            · have other : c ≠ d := fun hcd => hd (beq_iff_eq.mpr hcd.symm)
              have inRest : c ∉ q := ih (hs ▸ List.mem_cons_self)
              intro hc
              rcases List.mem_cons.mp hc with hcd | hc
              · exact other hcd
              · exact inRest hc
            · exact ih (hs ▸ List.mem_cons_of_mem q h)

/-- Texts that are joined at a character are cut there. -/
theorem pieces_intercalate {c : Char} {ps : List (List Char)} (hne : ps ≠ [])
    (h : ∀ p ∈ ps, c ∉ p) : pieces [c] ([c].intercalate ps) = ps := by
  rw [pieces_singleton, List.splitOn_intercalate c h hne]

/-- Texts that are joined at a character have the pieces of both. -/
theorem pieces_append (c : Char) (s t : List Char) :
    pieces [c] (s ++ c :: t) = pieces [c] s ++ pieces [c] t := by
  rw [pieces_singleton, pieces_singleton, pieces_singleton]
  exact List.splitOnP_append_cons s t (beq_self_eq_true c)

/-- The pieces of a text are joined to it. -/
theorem intercalate_pieces (c : Char) (s : List Char) : [c].intercalate (pieces [c] s) = s := by
  rw [pieces_singleton, List.intercalate_splitOn]

/-- Two joined lists of texts are one list of texts, joined. -/
theorem intercalate_append {c : Char} {ps qs : List (List Char)} (hps : ps ≠ []) (hqs : qs ≠ []) :
    [c].intercalate (ps ++ qs) = [c].intercalate ps ++ c :: [c].intercalate qs := by
  induction ps with
  | nil => exact absurd rfl hps
  | cons p ps ih =>
      cases ps with
      | nil =>
          rw [List.singleton_append, List.intercalate_cons_of_ne_nil hqs,
            List.intercalate_singleton, List.append_assoc, List.singleton_append]
      | cons p' ps =>
          have rest := ih (List.cons_ne_nil p' ps)
          have some : p' :: ps ++ qs ≠ [] := List.append_ne_nil_of_right_ne_nil _ hqs
          rw [List.cons_append, List.intercalate_cons_of_ne_nil some, rest,
            List.intercalate_cons_cons, List.append_assoc, List.append_assoc, List.append_assoc]

end OrderBy.Text
