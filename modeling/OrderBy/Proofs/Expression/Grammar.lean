/-
  OrderBy.Proofs.Expression.Grammar
  ─────────────────────────────────
  **AN EXPRESSION IS READ IFF IT IS WRITTEN BY THE GRAMMAR.**

  The grammar of the standard parser, with ws for any of the blanks:

      expression  =  group ("," group)*
      group       =  ws* name (ws+ name)? ws*
      name        =  one or more characters, none of them a blank or a comma

  Groups carry all their characters, so that the text of a list of groups is
  just their concatenation with commas.  A text is written by at most one list of
  groups; if it is, it is read as their keys, and if it is not, it is malformed.
-/
import OrderBy.Proofs.Expression.Reading
import OrderBy.Proofs.Text.Cut

namespace OrderBy

open Text

/-! ## §1. Names. -/

/-- A name of the grammar: a word without commas. -/
structure IsName (w : List Char) : Prop where
  word : IsWord w
  noComma : ',' ∉ w

theorem isBlank_comma : isBlank ',' = false := by decide

/-- Blanks are no commas. -/
theorem not_mem_comma_of_allBlank {s : List Char} (h : allBlank s = true) : ',' ∉ s := by
  intro hc
  have blank := allBlank_iff.mp h ',' hc
  rw [isBlank_comma] at blank
  cases blank

/-- Field names are the names of the grammar. -/
theorem isFieldName_iff (s : String) : isFieldName s = true ↔ IsName s.toList := by
  unfold isFieldName
  rw [Bool.and_eq_true, Bool.not_eq_true', List.isEmpty_eq_false_iff, List.all_eq_true]
  have char : ∀ c, isFieldChar c = true ↔ isBlank c = false ∧ c ≠ ',' := by
    intro c
    unfold isFieldChar
    rw [Bool.and_eq_true, Bool.not_eq_true', bne_iff_ne]
  constructor
  · intro h
    obtain ⟨ne_nil, chars⟩ := h
    have noComma : ',' ∉ s.toList := fun hc => ((char ',').mp (chars ',' hc)).2 rfl
    exact ⟨⟨ne_nil, fun c hc => ((char c).mp (chars c hc)).1⟩, noComma⟩
  · intro h
    refine ⟨h.word.ne_nil, fun c hc => (char c).mpr ⟨h.word.notBlank c hc, ?_⟩⟩
    intro comma
    rw [comma] at hc
    exact h.noComma hc

/-! ## §2. Groups as they are written. -/

/-- A group with all its characters: blanks, a field, blanks and a direction token
or neither, blanks. -/
@[ext]
structure WrittenGroup where
  lead : List Char
  field : List Char
  suffix : Option (List Char × List Char)
  trail : List Char
  lead_blank : allBlank lead = true
  field_isName : IsName field
  gap_blank : ∀ p ∈ suffix, p.1 ≠ [] ∧ allBlank p.1 = true
  token_isName : ∀ p ∈ suffix, IsName p.2
  trail_blank : allBlank trail = true

namespace WrittenGroup

/-- What follows the field: a gap and a token or neither, and the blanks at the end. -/
def rest (g : WrittenGroup) : List Char :=
  match g.suffix with
  | none => g.trail
  | some (gap, token) => gap ++ (token ++ g.trail)

/-- The characters of a group. -/
def text (g : WrittenGroup) : List Char := g.lead ++ (g.field ++ g.rest)

/-- The group that is written: its field and its token. -/
def group (g : WrittenGroup) : Group :=
  ⟨String.ofList g.field, g.suffix.map (fun p => String.ofList p.2)⟩

/-- The sort key of a written group. -/
def key (g : WrittenGroup) : SortKey where
  field := g.group.field
  direction := g.group.direction
  isFieldName_field := by
    rw [isFieldName_iff]
    show IsName (String.ofList g.field).toList
    rw [String.toList_ofList]
    exact g.field_isName

@[simp]
theorem key_field (g : WrittenGroup) : g.key.field = g.group.field := rfl

@[simp]
theorem key_direction (g : WrittenGroup) : g.key.direction = g.group.direction := rfl

theorem group_key (g : WrittenGroup) : g.group.key = .ok g.key := by
  have made : SortKey.ofField g.group.field g.group.direction = .ok g.key :=
    dif_pos g.key.isFieldName_field
  unfold Group.key
  rw [made]

/-- A blank text in front of a text that begins with a name ends where the name
begins. -/
theorem takeWhile_isBlank {gap w s : List Char} (hgap : allBlank gap = true) (hw : IsName w) :
    (gap ++ (w ++ s)).takeWhile isBlank = gap := by
  rw [List.takeWhile_append_of_pos (allBlank_iff.mp hgap)]
  cases w with
  | nil => exact absurd rfl hw.word.ne_nil
  | cons c w =>
      rw [List.cons_append, List.takeWhile_cons_of_neg, List.append_nil]
      rw [hw.word.notBlank c List.mem_cons_self]
      exact Bool.false_ne_true

/-- What follows a field ends it, and has the token as its only word. -/
theorem rest_words (g : WrittenGroup) :
    EndsWord g.rest ∧ words g.rest = (g.suffix.map Prod.snd).toList := by
  unfold rest
  cases hs : g.suffix with
  | none => exact ⟨endsWord_of_allBlank g.trail_blank, words_blanks g.trail_blank⟩
  | some p =>
      obtain ⟨gap, token⟩ := p
      obtain ⟨hne, hgap⟩ := g.gap_blank (gap, token) hs
      have htoken := g.token_isName (gap, token) hs
      constructor
      · show EndsWord (gap ++ (token ++ g.trail))
        cases gap with
        | nil => exact absurd rfl hne
        | cons c gap =>
            rw [allBlank_cons, Bool.and_eq_true] at hgap
            exact endsWord_cons.mpr hgap.1
      · show words (gap ++ (token ++ g.trail)) = [token]
        rw [words_blanks_append hgap,
          words_word_append htoken.word (endsWord_of_allBlank g.trail_blank),
          words_blanks g.trail_blank]

/-- **The words of a written group are its field and its token.** -/
theorem words_text (g : WrittenGroup) :
    words g.text = g.field :: (g.suffix.map Prod.snd).toList := by
  obtain ⟨ends, wordsRest⟩ := g.rest_words
  unfold text
  rw [words_blanks_append g.lead_blank, words_word_append g.field_isName.word ends, wordsRest]

/-- No group has a comma. -/
theorem not_mem_comma_text (g : WrittenGroup) : ',' ∉ g.text := by
  have inRest : ',' ∉ g.rest := by
    unfold rest
    -- blanks and names have no commas
    cases hs : g.suffix with
    | none => exact not_mem_comma_of_allBlank g.trail_blank
    | some p =>
        have inGap := not_mem_comma_of_allBlank (g.gap_blank p hs).2
        have inToken := (g.token_isName p hs).noComma
        simp only [List.mem_append, not_or]
        exact ⟨inGap, inToken, not_mem_comma_of_allBlank g.trail_blank⟩
  unfold text
  simp only [List.mem_append, not_or]
  exact ⟨not_mem_comma_of_allBlank g.lead_blank, g.field_isName.noComma, inRest⟩

/-- No group is blank. -/
theorem not_allBlank_text (g : WrittenGroup) : allBlank g.text = false := by
  unfold text
  rw [allBlank_append, allBlank_append, g.field_isName.word.not_allBlank, Bool.false_and,
    Bool.and_false]

/-- What follows the field determines the token, the gap and the end. -/
theorem rest_injective {g h : WrittenGroup} (hrest : g.rest = h.rest) :
    g.suffix = h.suffix ∧ g.trail = h.trail := by
  have tokens : (g.suffix.map Prod.snd).toList = (h.suffix.map Prod.snd).toList := by
    rw [← g.rest_words.2, ← h.rest_words.2, hrest]
  unfold rest at hrest
  cases hg : g.suffix with
  | none =>
      cases hh : h.suffix with
      | none =>
          rw [hg, hh] at hrest
          exact ⟨rfl, hrest⟩
      | some q =>
          rw [hg, hh] at tokens
          cases tokens
  | some p =>
      cases hh : h.suffix with
      | none =>
          rw [hg, hh] at tokens
          cases tokens
      | some q =>
          obtain ⟨gap, token⟩ := p
          obtain ⟨gap', token'⟩ := q
          rw [hg, hh] at hrest tokens
          obtain rfl : token = token' := (List.cons.inj tokens).1
          -- the blanks in front of the token are cut off first, then the token
          have whole : gap ++ (token ++ g.trail) = gap' ++ (token ++ h.trail) := hrest
          have gaps : gap = gap' := by
            have cut := congrArg (List.takeWhile isBlank) whole
            rwa [takeWhile_isBlank (g.gap_blank _ hg).2 (g.token_isName _ hg),
              takeWhile_isBlank (h.gap_blank _ hh).2 (h.token_isName _ hh)] at cut
          subst gaps
          have trails := List.append_cancel_left (List.append_cancel_left whole)
          exact ⟨rfl, trails⟩

/-- **A group is determined by its characters.** -/
theorem text_injective {g h : WrittenGroup} (htext : g.text = h.text) : g = h := by
  -- the field is the first word
  have fields : g.field = h.field := by
    have cut := congrArg words htext
    rw [g.words_text, h.words_text] at cut
    exact (List.cons.inj cut).1
  -- and the lead is what stands in front of the first word
  have leads : g.lead = h.lead := by
    have cut := congrArg (List.takeWhile isBlank) htext
    unfold text at cut
    rwa [takeWhile_isBlank g.lead_blank g.field_isName,
      takeWhile_isBlank h.lead_blank h.field_isName] at cut
  unfold text at htext
  rw [leads, fields] at htext
  obtain ⟨suffixes, trails⟩ :=
    rest_injective (List.append_cancel_left (List.append_cancel_left htext))
  exact WrittenGroup.ext leads fields suffixes trails

/-- A piece whose words make a group of at most two tokens is a written group. -/
theorem exists_of_ofTokens {piece : List Char} {position : Nat} {g : Group} (hcomma : ',' ∉ piece)
    (h : Group.ofTokens 2 position ((words piece).map String.ofList) = .ok g) :
    ∃ w : WrittenGroup, w.text = piece ∧ w.group = g := by
  obtain ⟨name, others, htokens, hmax, rfl⟩ := Group.ofTokens_eq_ok.mp h
  cases hwords : words piece with
  | nil =>
      rw [hwords] at htokens
      cases htokens
  | cons field more =>
      rw [hwords, List.map_cons] at htokens
      obtain ⟨rfl, rfl⟩ := List.cons.inj htokens
      rw [List.length_map] at hmax
      obtain ⟨lead, rest, rfl, hlead, hfield, ends, hrest⟩ := words_eq_cons hwords
      simp only [List.mem_append, not_or] at hcomma
      obtain ⟨_, fieldComma, restComma⟩ := hcomma
      have fieldName : IsName field := ⟨hfield, fieldComma⟩
      cases more with
      | nil =>
          have trail := words_eq_nil_iff.mp hrest
          exact ⟨⟨lead, field, none, rest, hlead, fieldName, nofun, nofun, trail⟩, rfl, rfl⟩
      | cons token more =>
          -- a third token would be one too many
          obtain rfl : more = [] := by
            rw [List.length_cons] at hmax
            exact List.length_eq_zero_iff.mp (by omega)
          obtain ⟨gap, trail, rfl, hgap, htoken, _, htrail⟩ := words_eq_cons hrest
          simp only [List.mem_append, not_or] at restComma
          obtain ⟨_, tokenComma, _⟩ := restComma
          -- without a gap the token would go on with the field
          have gapSome : gap ≠ [] := by
            intro none
            rw [none] at ends
            exact htoken.not_endsWord_append trail ends
          refine ⟨⟨lead, field, some (gap, token), trail, hlead, fieldName, ?_, ?_,
            words_eq_nil_iff.mp htrail⟩, rfl, rfl⟩
          · intro p hp
            obtain rfl := Option.some.inj hp
            exact ⟨gapSome, hgap⟩
          · intro p hp
            obtain rfl := Option.some.inj hp
            exact ⟨htoken, tokenComma⟩

/-- A written group is made of its words. -/
theorem ofTokens_words (g : WrittenGroup) (position : Nat) :
    Group.ofTokens 2 position ((words g.text).map String.ofList) = .ok g.group := by
  rw [g.words_text, List.map_cons, Group.ofTokens_eq_ok]
  refine ⟨_, _, rfl, ?_, ?_⟩
  · cases g.suffix with
    | none =>
        show ((0 : Nat) : Int) + 1 ≤ 2
        omega
    | some p =>
        show ((1 : Nat) : Int) + 1 ≤ 2
        omega
  · unfold group
    cases g.suffix with
    | none => rfl
    | some p => rfl

end WrittenGroup

/-! ## §3. Texts that are written by the grammar. -/

/-- Some groups, of which there is at least one, write a text: joined by commas
they are its characters. -/
structure Writes (gs : List WrittenGroup) (s : List Char) : Prop where
  ne_nil : gs ≠ []
  text : [','].intercalate (gs.map WrittenGroup.text) = s

namespace Writes

variable {gs hs : List WrittenGroup} {s t : List Char}

/-- The pieces of a text are the groups that write it. -/
theorem pieces (h : Writes gs s) : Text.pieces [','] s = gs.map WrittenGroup.text := by
  rw [← h.text]
  refine pieces_intercalate (by simpa using h.ne_nil) (fun p hp => ?_)
  obtain ⟨g, _, rfl⟩ := List.mem_map.mp hp
  exact g.not_mem_comma_text

/-- **A text is written in at most one way.** -/
theorem unique (h : Writes gs s) (h' : Writes hs s) : gs = hs := by
  have texts : gs.map WrittenGroup.text = hs.map WrittenGroup.text := by
    rw [← h.pieces, ← h'.pieces]
  exact List.map_injective_iff.mpr (fun _ _ => WrittenGroup.text_injective) texts

/-- Texts are joined by a comma as their groups are appended. -/
theorem append (h : Writes gs s) (h' : Writes hs t) : Writes (gs ++ hs) (s ++ ',' :: t) where
  ne_nil := List.append_ne_nil_of_left_ne_nil h.ne_nil hs
  text := by
    rw [List.map_append, intercalate_append (by simpa using h.ne_nil) (by simpa using h'.ne_nil),
      h.text, h'.text]

/-- A written text is not blank: without a comma it is one group, and a comma is no
blank. -/
theorem not_allBlank (h : Writes gs s) : allBlank s = false := by
  rw [Bool.eq_false_iff]
  intro blank
  -- a blank text has no comma, so it would be the only group
  have single : gs.map WrittenGroup.text = [s] := by
    rw [← h.pieces, pieces_singleton,
      List.splitOn_eq_singleton (not_mem_comma_of_allBlank blank)]
  cases gs with
  | nil => cases single
  | cons g gs =>
      have only : g.text = s := (List.cons.inj single).1
      rw [← only, g.not_allBlank_text] at blank
      cases blank

end Writes

/-- Written groups are read as such, from any position on. -/
theorem ofPieces_text (gs : List WrittenGroup) :
    ∀ position : Nat, Group.ofPieces 2 position (gs.map WrittenGroup.text)
      = .ok (gs.map WrittenGroup.group) := by
  induction gs with
  | nil =>
      intro position
      rfl
  | cons g gs ih =>
      intro position
      rw [List.map_cons, Group.ofPieces, g.ofTokens_words, ih]
      rfl

/-- Pieces without commas that make groups are written groups. -/
theorem exists_of_ofPieces {pieces : List (List Char)} (hcomma : ∀ p ∈ pieces, ',' ∉ p)
    {position : Nat} {groups : List Group} (h : Group.ofPieces 2 position pieces = .ok groups) :
    ∃ gs : List WrittenGroup, gs.map WrittenGroup.text = pieces
      ∧ gs.map WrittenGroup.group = groups := by
  induction pieces generalizing position groups with
  | nil =>
      obtain rfl := Except.ok.inj h
      exact ⟨[], rfl, rfl⟩
  | cons p pieces ih =>
      rw [Group.ofPieces] at h
      cases hg : Group.ofTokens 2 position ((words p).map String.ofList) with
      | error reason =>
          rw [hg] at h
          cases h
      | ok g =>
          cases hgs : Group.ofPieces 2 (position + 1) pieces with
          | error reason =>
              rw [hg, hgs] at h
              cases h
          | ok more =>
              rw [hg, hgs] at h
              obtain rfl := Except.ok.inj h
              obtain ⟨w, rfl, rfl⟩ :=
                WrittenGroup.exists_of_ofTokens (hcomma p List.mem_cons_self) hg
              obtain ⟨ws, rfl, rfl⟩ := ih (fun q hq => hcomma q (List.mem_cons_of_mem _ hq)) hgs
              exact ⟨w :: ws, rfl, rfl⟩

/-! ## §4. Reading is cutting as the grammar says. -/

/-- The parser of the grammar, which may log warnings. -/
abbrev Parser.ofGrammar (warn : Bool) : Parser := ⟨warn, ",", 2⟩

theorem Parser.groups_ofGrammar {warn : Bool} {expression : Value} {s : List Char}
    (h : allBlank s = false) :
    (ofGrammar warn).groups expression s
      = (Group.ofPieces 2 1 (pieces [','] s)).mapError (Fault.malformed expression) := by
  have cut : ",".toList = [','] := by decide
  have some : ",".isEmpty = false := by decide
  rw [← cut]
  exact Parser.groups_eq h some

/-- A text that the grammar writes is cut into the groups that write it. -/
theorem Parser.groups_of_writes (warn : Bool) (expression : Value) {gs : List WrittenGroup}
    {s : List Char} (h : Writes gs s) :
    (ofGrammar warn).groups expression s = .ok (gs.map WrittenGroup.group) := by
  rw [groups_ofGrammar h.not_allBlank, h.pieces, ofPieces_text]
  rfl

/-- **A text that the grammar does not write is malformed.** -/
theorem Parser.groups_of_not_writes (warn : Bool) (expression : Value) {s : List Char}
    (h : ¬ ∃ gs : List WrittenGroup, Writes gs s) :
    ∃ reason, (ofGrammar warn).groups expression s = .error (.malformed expression reason) := by
  cases hblank : allBlank s with
  | true => exact ⟨.noFields, if_pos hblank⟩
  | false =>
      rw [groups_ofGrammar hblank]
      cases hpieces : Group.ofPieces 2 1 (pieces [','] s) with
      | error reason => exact ⟨reason, rfl⟩
      | ok groups =>
          -- pieces that make groups are the groups of a writing
          have noComma : ∀ p ∈ pieces [','] s, ',' ∉ p := by
            intro p hp
            rw [pieces_singleton] at hp
            exact not_mem_of_mem_splitOn hp
          obtain ⟨gs, texts, _⟩ := exists_of_ofPieces noComma hpieces
          have joined : [','].intercalate (gs.map WrittenGroup.text) = s := by
            rw [texts, intercalate_pieces]
          have some : gs ≠ [] := by
            intro none
            rw [none, List.map_nil, pieces_singleton] at texts
            exact List.splitOn_ne_nil ',' s texts.symm
          exact absurd ⟨gs, some, joined⟩ h

/-- **A text that the grammar writes is read as the keys of its groups.** -/
theorem Parser.parse_of_writes (warn : Bool) {expression : Value} {s : String}
    {gs : List WrittenGroup} (htext : expression.text? = some s) (h : Writes gs s.toList) :
    (ofGrammar warn).parse expression
      = ⟨(ofGrammar warn).warnings expression (gs.map WrittenGroup.group)
            ++ [.parsed expression (Expression.renderKeys (gs.map WrittenGroup.key))],
          .ok ⟨s, gs.map WrittenGroup.key, by simpa using h.ne_nil⟩⟩ := by
  have keys : List.Forall₂ (fun g k => Group.key g = .ok k) (gs.map WrittenGroup.group)
      (gs.map WrittenGroup.key) := by
    rw [List.forall₂_map_left_iff, List.forall₂_map_right_iff, List.forall₂_same]
    intro g _
    exact g.group_key
  exact Parser.parse_of_groups htext (Parser.groups_of_writes warn expression h) keys _

/-- A text that the grammar does not write is not read, and nothing is logged. -/
theorem Parser.parse_of_not_writes (warn : Bool) {expression : Value} {s : String}
    (htext : expression.text? = some s) (h : ¬ ∃ gs : List WrittenGroup, Writes gs s.toList) :
    ∃ reason, (ofGrammar warn).parse expression
      = ⟨[], .error (.malformed expression reason)⟩ := by
  obtain ⟨reason, hgroups⟩ := Parser.groups_of_not_writes warn expression h
  exact ⟨reason, Parser.parse_of_error htext hgroups⟩

/-! ## §5. The grammar of the standard parser. -/

/-- A written group is descending if it has a token that upper-cases to DESC. -/
def WrittenGroup.IsDescending (g : WrittenGroup) : Prop :=
  ∃ p ∈ g.suffix, upperCase p.2 = ['D', 'E', 'S', 'C']

/-- What a sort key keeps of a written group. -/
structure WrittenGroup.HasKey (g : WrittenGroup) (k : SortKey) : Prop where
  field : k.field = String.ofList g.field
  descending : k.direction = .descending ↔ g.IsDescending
  ascending : k.direction = .ascending ↔ ¬ g.IsDescending

theorem Direction.ofToken_eq_descending {token : String} :
    Direction.ofToken token = .descending ↔ upperCase token.toList = ['D', 'E', 'S', 'C'] := by
  have upper : String.ofList (upperCase token.toList) = "DESC"
      ↔ upperCase token.toList = ['D', 'E', 'S', 'C'] := by
    rw [← String.toList_inj, String.toList_ofList]
    rfl
  unfold Direction.ofToken
  rw [← upper]
  by_cases h : String.ofList (upperCase token.toList) = "DESC"
  · rw [if_pos (beq_iff_eq.mpr h)]
    exact iff_of_true rfl h
  · rw [if_neg (fun equal => h (beq_iff_eq.mp equal))]
    exact iff_of_false Direction.noConfusion h

/-- Every written group has its key. -/
theorem WrittenGroup.hasKey (g : WrittenGroup) : g.HasKey g.key := by
  have descending : g.key.direction = .descending ↔ g.IsDescending := by
    rw [g.key_direction]
    unfold IsDescending Group.direction group
    cases hs : g.suffix with
    | none => simp
    | some p =>
        rw [Option.map_some, Option.elim_some, Direction.ofToken_eq_descending,
          String.toList_ofList]
        constructor
        · intro h
          exact ⟨p, rfl, h⟩
        · intro h
          obtain ⟨q, hq, h⟩ := h
          obtain rfl := Option.some.inj hq
          exact h
  refine ⟨rfl, descending, ?_⟩
  rw [← descending]
  cases g.key.direction <;> decide

/-- A text that the grammar writes has the keys of its groups. -/
theorem read_of_writes {s : String} {gs : List WrittenGroup} (h : Writes gs s.toList) :
    (Expression.read (.text s)).outcome
      = .ok ⟨s, gs.map WrittenGroup.key, by simpa using h.ne_nil⟩ := by
  have text : (Value.text s).text? = some s := rfl
  show ((Parser.ofGrammar true).parse (.text s)).outcome = _
  rw [Parser.parse_of_writes true text h]

/-- A text that the grammar does not write is malformed. -/
theorem read_of_not_writes {s : String} (h : ¬ ∃ gs : List WrittenGroup, Writes gs s.toList) :
    ∃ reason, (Expression.read (.text s)).outcome = .error (.malformed (.text s) reason) := by
  have text : (Value.text s).text? = some s := rfl
  obtain ⟨reason, hparse⟩ := Parser.parse_of_not_writes true text h
  refine ⟨reason, ?_⟩
  show ((Parser.ofGrammar true).parse (.text s)).outcome = _
  rw [hparse]

/-- A text can be read or is malformed. -/
theorem read_or_malformed (s : String) :
    (∃ e, (Expression.read (.text s)).outcome = .ok e)
      ∨ ∃ reason, (Expression.read (.text s)).outcome = .error (.malformed (.text s) reason) := by
  by_cases h : ∃ gs : List WrittenGroup, Writes gs s.toList
  · obtain ⟨gs, hgs⟩ := h
    exact .inl ⟨_, read_of_writes hgs⟩
  · exact .inr (read_of_not_writes h)

/-- A text that is read is written by the grammar, and its keys are those of its
groups. -/
theorem writes_of_read {s : String} {e : Expression}
    (h : (Expression.read (.text s)).outcome = .ok e) :
    ∃ gs : List WrittenGroup, Writes gs s.toList ∧ e.text = s
      ∧ e.keys = gs.map WrittenGroup.key := by
  by_cases hwrites : ∃ gs : List WrittenGroup, Writes gs s.toList
  · obtain ⟨gs, hgs⟩ := hwrites
    rw [read_of_writes hgs] at h
    obtain rfl := Except.ok.inj h
    exact ⟨gs, hgs, rfl, rfl⟩
  · obtain ⟨reason, herror⟩ := read_of_not_writes hwrites
    rw [herror] at h
    cases h

/-- **The standard parser reads exactly the texts of its grammar.**  The groups of
a text are unique, the keys are those of its groups, and a text that is not read
is malformed. -/
theorem read_iff_writes (s : String) :
    ((∃ e, (Expression.read (.text s)).outcome = .ok e)
        ↔ ∃ gs : List WrittenGroup, Writes gs s.toList)
      ∧ (∀ gs gs' : List WrittenGroup, Writes gs s.toList → Writes gs' s.toList → gs = gs')
      ∧ (∀ e gs, (Expression.read (.text s)).outcome = .ok e → Writes gs s.toList →
          e.text = s ∧ List.Forall₂ WrittenGroup.HasKey gs e.keys)
      ∧ (∀ fault, (Expression.read (.text s)).outcome = .error fault →
          ∃ reason, fault = .malformed (.text s) reason) := by
  refine ⟨⟨?_, ?_⟩, fun gs gs' h h' => h.unique h', ?_, ?_⟩
  · -- soundness: what is read is written
    intro h
    obtain ⟨e, he⟩ := h
    obtain ⟨gs, h, _⟩ := writes_of_read he
    exact ⟨gs, h⟩
  · -- completeness: what is written is read
    intro h
    obtain ⟨gs, h⟩ := h
    exact ⟨_, read_of_writes h⟩
  · -- by uniqueness, the groups that were read are those that write the text
    intro e gs he h
    obtain ⟨gs', h', text, keys⟩ := writes_of_read he
    obtain rfl := h.unique h'
    refine ⟨text, ?_⟩
    rw [keys, List.forall₂_map_right_iff, List.forall₂_same]
    intro g _
    exact g.hasKey
  · -- a fault leaves only the texts that are not written
    intro fault hfault
    by_cases h : ∃ gs : List WrittenGroup, Writes gs s.toList
    · obtain ⟨gs, h⟩ := h
      rw [read_of_writes h] at hfault
      cases hfault
    · obtain ⟨reason, herror⟩ := read_of_not_writes h
      rw [herror] at hfault
      exact ⟨reason, (Except.error.inj hfault).symm⟩

end OrderBy
