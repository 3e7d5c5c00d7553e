/-
  OrderBy.Proofs.Expression.Verdict
  ─────────────────────────────────
  **WHAT ANY PARSER MAKES OF ANY VALUE.**

  The rules, the first of which that applies decides:

      no text                              malformed: its type, unless the message cannot
                                           be made, for an integer that is too long
      a blank text                         malformed: no fields
      a parser without a separator         it has nothing to cut at
      the leftmost piece that makes no     malformed: the position of the piece,
      group                                and how many tokens it has
      a first token with a comma           no field name
      otherwise                            one key for each piece

  So an illegal field counts only if all pieces make groups, even those behind it.  With a
  comma as separator there is none, and then checking fails only on what cannot be written.
-/
import OrderBy.Proofs.Expression.Grammar
import OrderBy.Proofs.Expression.Groups
import OrderBy.Proofs.Expression.Writing

namespace OrderBy

open Text

variable {p : Parser} {v : Value} {text : String}

/-! ## §1. Cutting a value into tokens. -/

/-- A value is cut into tokens: it is a text that is not blank, the parser has a separator,
and the tokens are those of the pieces between its leftmost occurrences. -/
structure Parser.Cuts (p : Parser) (v : Value) (text : String) (tokens : List (List String)) :
    Prop where
  isText : v.text? = some text
  notBlank : allBlank text.toList = false
  separated : p.separator ≠ ""
  pieces : ∃ pieces, HasPieces p.separator.toList text.toList pieces
    ∧ List.Forall₂ HasTokens pieces tokens

theorem Parser.separator_ne_nil (h : p.separator ≠ "") : p.separator.toList ≠ [] :=
  fun none => h (String.toList_eq_nil_iff.mp none)

/-- Such a value is cut into the tokens that are computed, and no others. -/
theorem Parser.Cuts.eq {tokens : List (List String)} (h : p.Cuts v text tokens) :
    (Text.pieces p.separator.toList text.toList).map tokensOf = tokens := by
  obtain ⟨ps, hps, htokens⟩ := h.pieces
  obtain rfl := (hasPieces_iff (Parser.separator_ne_nil h.separated)).mp hps
  rw [← List.forall₂_eq_eq_eq, List.forall₂_map_left_iff]
  exact htokens.imp fun _ _ has => hasTokens_iff.mp has

theorem Parser.cuts_pieces (htext : v.text? = some text) (hblank : allBlank text.toList = false)
    (hsep : p.separator ≠ "") :
    p.Cuts v text ((Text.pieces p.separator.toList text.toList).map tokensOf) := by
  refine ⟨htext, hblank, hsep, _, hasPieces_pieces (Parser.separator_ne_nil hsep) _, ?_⟩
  rw [List.forall₂_map_right_iff, List.forall₂_same]
  exact fun piece _ => hasTokens_tokensOf piece

/-- The groups of a value are those of its pieces. -/
theorem Parser.Cuts.groups {tokens : List (List String)} (h : p.Cuts v text tokens) :
    p.groups v text.toList
      = (Group.ofPieces p.maxTokens 1 (Text.pieces p.separator.toList text.toList)).mapError
          (Fault.malformed v) := by
  have some : p.separator.isEmpty = false := by
    rw [Bool.eq_false_iff]
    exact fun none => h.separated (String.isEmpty_iff.mp none)
  exact Parser.groups_eq h.notBlank some

/-- There is a list of tokens for each piece, so there is one. -/
theorem Parser.Cuts.ne_nil {tokens : List (List String)} (h : p.Cuts v text tokens) :
    tokens ≠ [] := by
  obtain ⟨ps, hps, htokens⟩ := h.pieces
  rintro rfl
  cases htokens
  exact hps.ne_nil rfl

/-- Where all tokens make groups, those are the groups of the value. -/
theorem Parser.Cuts.groups_of_isGroup {tokens : List (List String)} (h : p.Cuts v text tokens)
    (all : ∀ ts ∈ tokens, IsGroup p.maxTokens ts) :
    p.groups v text.toList = .ok (tokens.map Group.ofFirst) := by
  obtain rfl := h.eq
  rw [h.groups, Group.ofPieces_of_isGroup (List.forall_mem_map.mp all), List.map_map]
  rfl

/-- The leftmost tokens that make no group make the value malformed. -/
theorem Parser.Cuts.groups_of_misfit {before after : List (List String)} {tokens : List String}
    {reason : Reason} (h : p.Cuts v text (before ++ tokens :: after))
    (hbefore : ∀ ts ∈ before, IsGroup p.maxTokens ts)
    (misfit : Misfit p.maxTokens (before.length + 1) tokens reason) :
    p.groups v text.toList = .error (.malformed v reason) := by
  obtain ⟨front, others, hpieces, rfl, hothers⟩ := List.map_eq_append_iff.mp h.eq
  obtain ⟨piece, back, rfl, rfl, _⟩ := List.map_eq_cons_iff.mp hothers
  rw [List.length_map, Nat.add_comm] at misfit
  rw [h.groups, hpieces, Group.ofPieces_of_misfit (List.forall_mem_map.mp hbefore) misfit]
  rfl

/-- The first of some tokens that make a group is a word, so without a comma it is the
name of a field. -/
theorem Parser.Cuts.isFieldName {tokens : List (List String)} (h : p.Cuts v text tokens)
    {ts : List String} (hts : ts ∈ tokens) (group : IsGroup p.maxTokens ts) :
    ∃ field more, ts = field :: more ∧ (',' ∉ field.toList → OrderBy.isFieldName field = true) := by
  obtain ⟨field, more, rfl⟩ := List.exists_cons_of_ne_nil group.ne_nil
  rw [← h.eq] at hts
  obtain ⟨piece, _, hpiece⟩ := List.mem_map.mp hts
  have mem : field ∈ tokensOf piece := hpiece ▸ List.mem_cons_self
  have word := isWord_of_mem_tokensOf mem
  exact ⟨field, more, rfl, fun noComma => (isFieldName_iff field).mpr ⟨word, noComma⟩⟩

/-! ## §2. The rules. -/

/-- The key of some tokens: the first is its field, the second says whether it descends,
and others do not count. -/
inductive SortKey.OfTokens : List String → SortKey → Prop where
  | alone {field : String} {k : SortKey} : k.field = field → k.direction = .ascending →
      OfTokens [field] k
  | directed {field token : String} {more : List String} {k : SortKey} : k.field = field →
      (k.direction = .descending ↔ upperCase token.toList = ['D', 'E', 'S', 'C']) →
      OfTokens (field :: token :: more) k

/-- The fault of a key whose field has a comma or a blank. -/
def Fault.illegalField : Fault := .invalid [⟨[.field "field"], .fieldName .blankOrComma⟩]

/-- What the rules say about a value. -/
inductive Parser.Decides (p : Parser) (v : Value) : Except Fault Expression → Prop where
  | notText : v.text? = none → v.Writable →
      p.Decides v (.error (.malformed v (.notText v.typeName)))
  | unwritable : v.text? = none → ¬ v.Writable →
      p.Decides v (.error (.tooManyDigits Value.writtenDigits))
  | blank {text : String} : v.text? = some text → allBlank text.toList = true →
      p.Decides v (.error (.malformed v .noFields))
  | noSeparator {text : String} : v.text? = some text → allBlank text.toList = false →
      p.separator = "" → p.Decides v (.error .emptySeparator)
  | misfit {text : String} {before after : List (List String)} {tokens : List String}
      {reason : Reason} : p.Cuts v text (before ++ tokens :: after) →
      (∀ ts ∈ before, IsGroup p.maxTokens ts) →
      Misfit p.maxTokens (before.length + 1) tokens reason →
      p.Decides v (.error (.malformed v reason))
  | illegalField {text : String} {tokens : List (List String)} : p.Cuts v text tokens →
      (∀ ts ∈ tokens, IsGroup p.maxTokens ts) →
      (∃ ts ∈ tokens, ∃ field ∈ ts.head?, ',' ∈ field.toList) →
      p.Decides v (.error .illegalField)
  | keys {e : Expression} {tokens : List (List String)} : p.Cuts v e.text tokens →
      (∀ ts ∈ tokens, IsGroup p.maxTokens ts) → List.Forall₂ SortKey.OfTokens tokens e.keys →
      p.Decides v (.ok e)

/-! ## §3. The key of a group. -/

/-- A group has the key with its field and its direction. -/
theorem Group.key_eq_ok {g : Group} {k : SortKey} (field : k.field = g.field)
    (direction : k.direction = g.direction) : g.key = .ok k := by
  obtain ⟨name, d, isName⟩ := k
  subst field direction
  have made : SortKey.ofField g.field g.direction = .ok ⟨g.field, g.direction, isName⟩ :=
    dif_pos isName
  unfold Group.key
  rw [made]

/-- A group whose field has a comma has no key. -/
theorem Group.key_of_comma {g : Group} (h : ',' ∈ g.field.toList) :
    g.key = .error .illegalField := by
  have noName : ¬ isFieldName g.field = true := fun name =>
    ((isFieldName_iff _).mp name).noComma h
  have some : ¬ g.field.toList.isEmpty = true := by
    rw [List.isEmpty_iff]
    exact List.ne_nil_of_mem h
  have refused : SortKey.ofField g.field g.direction = .error .blankOrComma := by
    unfold SortKey.ofField
    rw [dif_neg noName, if_neg some]
  unfold Group.key
  rw [refused]
  rfl

/-- The key of some tokens is that of their group. -/
theorem SortKey.OfTokens.key {tokens : List String} {k : SortKey} (h : OfTokens tokens k) :
    (Group.ofFirst tokens).key = .ok k := by
  cases h with
  | alone field ascending => exact Group.key_eq_ok field ascending
  | @directed _ token more _ field descending =>
      have direction : k.direction = Direction.ofToken token := by
        rw [← Direction.ofToken_eq_descending] at descending
        revert descending
        cases k.direction <;> cases Direction.ofToken token <;> decide
      exact Group.key_eq_ok field direction

/-- Tokens of which the first is a field name have a key. -/
theorem SortKey.exists_ofTokens {field : String} (more : List String)
    (h : isFieldName field = true) : ∃ k, OfTokens (field :: more) k := by
  cases more with
  | nil => exact ⟨⟨field, .ascending, h⟩, .alone rfl rfl⟩
  | cons token more =>
      exact ⟨⟨field, .ofToken token, h⟩, .directed rfl Direction.ofToken_eq_descending⟩

/-- Some lists of tokens, the first of each of which is a field name, have keys. -/
theorem SortKey.exists_forall₂_ofTokens {tokens : List (List String)}
    (h : ∀ ts ∈ tokens, ∃ field more, ts = field :: more ∧ isFieldName field = true) :
    ∃ ks, List.Forall₂ OfTokens tokens ks := by
  induction tokens with
  | nil => exact ⟨[], .nil⟩
  | cons ts tokens ih =>
      obtain ⟨hts, hrest⟩ := List.forall_mem_cons.mp h
      obtain ⟨field, more, rfl, name⟩ := hts
      obtain ⟨k, hk⟩ := exists_ofTokens more name
      obtain ⟨ks, hks⟩ := ih hrest
      exact ⟨k :: ks, .cons hk hks⟩

/-- **Groups of which one has no legal field are not read**, whichever it is. -/
theorem Parser.readGroups_of_comma {gs : List Group}
    (hkeys : ∀ g ∈ gs, ',' ∉ g.field.toList → ∃ k, g.key = .ok k)
    (h : ∃ g ∈ gs, ',' ∈ g.field.toList) :
    (p.readGroups v gs).outcome = .error .illegalField := by
  induction gs with
  | nil =>
      obtain ⟨_, hg, _⟩ := h
      cases hg
  | cons g gs ih =>
      obtain ⟨hg, hgs⟩ := List.forall_mem_cons.mp hkeys
      unfold Parser.readGroups
      rw [Traced.outcome_bind, p.readGroup_eq]
      by_cases comma : ',' ∈ g.field.toList
      · rw [Group.key_of_comma comma]
        rfl
      · -- the group has a key, so the comma is further to the right
        obtain ⟨k, hk⟩ := hg comma
        obtain ⟨g', hg', comma'⟩ := h
        rcases List.mem_cons.mp hg' with rfl | hg'
        · exact absurd comma' comma
        · rw [hk]
          show (p.readGroups v gs >>= _).outcome = _
          rw [Traced.outcome_bind, ih hgs ⟨g', hg', comma'⟩]
          rfl

/-- A text whose groups are not read is not read, for the same fault. -/
theorem Parser.parse_of_readGroups {gs : List Group} {fault : Fault}
    (htext : v.text? = some text) (hgroups : p.groups v text.toList = .ok gs)
    (h : (p.readGroups v gs).outcome = .error fault) : (p.parse v).outcome = .error fault := by
  unfold Parser.parse
  rw [htext]
  show (Traced.ofExcept (p.groups v text.toList) >>= _).outcome = _
  rw [hgroups, Traced.outcome_bind]
  show (p.readGroups v gs >>= _).outcome = _
  rw [Traced.outcome_bind, h]
  rfl

/-! ## §4. The rules decide. -/

/-- Tokens that make groups have the keys of their first tokens, unless one has a comma. -/
theorem Parser.Cuts.keys_or_comma {tokens : List (List String)} (h : p.Cuts v text tokens)
    (all : ∀ ts ∈ tokens, IsGroup p.maxTokens ts) :
    (∃ ks, List.Forall₂ SortKey.OfTokens tokens ks)
      ∨ ∃ ts ∈ tokens, ∃ field ∈ ts.head?, ',' ∈ field.toList := by
  by_cases comma : ∃ ts ∈ tokens, ∃ field ∈ ts.head?, ',' ∈ field.toList
  · exact .inr comma
  · refine .inl (SortKey.exists_forall₂_ofTokens fun ts hts => ?_)
    obtain ⟨field, more, rfl, name⟩ := h.isFieldName hts (all ts hts)
    have noComma : ',' ∉ field.toList := fun hc => comma ⟨_, hts, field, rfl, hc⟩
    exact ⟨field, more, rfl, name noComma⟩

/-- There is a key for each piece, so there is one. -/
theorem Parser.Cuts.keys_ne_nil {tokens : List (List String)} {ks : List SortKey}
    (h : p.Cuts v text tokens) (hks : List.Forall₂ SortKey.OfTokens tokens ks) : ks ≠ [] := by
  rintro rfl
  exact h.ne_nil (List.forall₂_nil_right_iff.mp hks)

/-- One of the last three rules applies to a text that there is something to cut at. -/
theorem Parser.exists_decides_of_text (htext : v.text? = some text)
    (hblank : allBlank text.toList = false) (hsep : p.separator ≠ "") :
    ∃ result, p.Decides v result := by
  have cuts := Parser.cuts_pieces htext hblank hsep
  rcases isGroup_or_exists_misfit p.maxTokens 1
      (Text.pieces p.separator.toList text.toList) with
    all | ⟨before, piece, after, reason, hpieces, hbefore, misfit⟩
  · have allTokens := List.forall_mem_map.mpr all
    rcases cuts.keys_or_comma allTokens with ⟨ks, hks⟩ | comma
    · exact ⟨_, .keys (e := ⟨text, ks, cuts.keys_ne_nil hks⟩) cuts allTokens hks⟩
    · exact ⟨_, .illegalField cuts allTokens comma⟩
  · rw [hpieces, List.map_append, List.map_cons] at cuts
    rw [Nat.add_comm, ← List.length_map tokensOf] at misfit
    exact ⟨_, .misfit cuts (List.forall_mem_map.mpr hbefore) misfit⟩

/-- **Some rule applies to every value.** -/
theorem Parser.exists_decides (p : Parser) (v : Value) : ∃ result, p.Decides v result := by
  cases htext : v.text? with
  | none =>
      by_cases writable : v.Writable
      · exact ⟨_, .notText htext writable⟩
      · exact ⟨_, .unwritable htext writable⟩
  | some text =>
      cases hblank : allBlank text.toList with
      | true => exact ⟨_, .blank htext hblank⟩
      | false =>
          by_cases hsep : p.separator = ""
          · exact ⟨_, .noSeparator htext hblank hsep⟩
          · exact Parser.exists_decides_of_text htext hblank hsep

/-- A value that is no text is malformed, or cannot be written. -/
theorem Parser.parse_of_not_text (p : Parser) (htext : v.text? = none) :
    p.parse v = ⟨[], .error (.ofMalformed v (.notText v.typeName))⟩ := by
  unfold Parser.parse
  rw [htext]
  rfl

/-- A value that the rules call malformed is, and nothing is logged about it. -/
theorem Parser.Decides.parse_malformed {w : Value} {reason : Reason}
    (h : p.Decides v (.error (.malformed w reason))) :
    p.parse v = ⟨[], .error (.malformed w reason)⟩ := by
  cases h with
  | notText htext writable => rw [p.parse_of_not_text htext, Fault.ofMalformed_of_writable writable]
  | blank htext hblank => exact Parser.parse_of_error htext (if_pos hblank)
  | misfit cuts hbefore misfit =>
      exact Parser.parse_of_error cuts.isText (cuts.groups_of_misfit hbefore misfit)

/-- A text with keys is read as them, and the warnings of its groups are logged. -/
theorem Parser.Cuts.parse_keys {e : Expression} {tokens : List (List String)}
    (h : p.Cuts v e.text tokens) (all : ∀ ts ∈ tokens, IsGroup p.maxTokens ts)
    (hkeys : List.Forall₂ SortKey.OfTokens tokens e.keys) :
    p.parse v
      = ⟨p.warnings v (tokens.map Group.ofFirst) ++ [.parsed v e.canonical], .ok e⟩ := by
  have keys : List.Forall₂ (fun g k => Group.key g = .ok k) (tokens.map Group.ofFirst)
      e.keys := by
    rw [List.forall₂_map_left_iff]
    exact hkeys.imp fun _ _ has => has.key
  exact Parser.parse_of_groups h.isText (h.groups_of_isGroup all) keys e.keys_ne_nil

/-- A text whose pieces make groups, one with an illegal field, has an illegal field. -/
theorem Parser.Cuts.parse_comma {tokens : List (List String)} (h : p.Cuts v text tokens)
    (all : ∀ ts ∈ tokens, IsGroup p.maxTokens ts)
    (comma : ∃ ts ∈ tokens, ∃ field ∈ ts.head?, ',' ∈ field.toList) :
    (p.parse v).outcome = .error .illegalField := by
  refine Parser.parse_of_readGroups h.isText (h.groups_of_isGroup all)
    (Parser.readGroups_of_comma ?_ ?_)
  · intro g hg noComma
    obtain ⟨ts, hts, rfl⟩ := List.mem_map.mp hg
    obtain ⟨field, more, rfl, name⟩ := h.isFieldName hts (all ts hts)
    obtain ⟨k, hk⟩ := SortKey.exists_ofTokens more (name noComma)
    exact ⟨k, hk.key⟩
  · obtain ⟨ts, hts, field, hfield, comma⟩ := comma
    obtain ⟨more, rfl⟩ := List.head?_eq_some_iff.mp hfield
    exact ⟨_, List.mem_map_of_mem hts, comma⟩

/-- **What the rules say is what becomes of the value.** -/
theorem Parser.Decides.outcome {result : Except Fault Expression} (h : p.Decides v result) :
    (p.parse v).outcome = result := by
  cases h with
  | notText htext writable => rw [(Parser.Decides.notText htext writable).parse_malformed]
  | unwritable htext unwritable =>
      rw [p.parse_of_not_text htext, Fault.ofMalformed_of_not_writable unwritable]
  | blank htext hblank => rw [(Parser.Decides.blank htext hblank).parse_malformed]
  | @noSeparator text htext hblank hsep =>
      have none : p.groups v text.toList = .error .emptySeparator := by
        unfold Parser.groups
        rw [if_neg (Bool.eq_false_iff.mp hblank), if_pos (String.isEmpty_iff.mpr hsep)]
      rw [Parser.parse_of_error htext none]
  | misfit cuts hbefore misfit =>
      rw [(Parser.Decides.misfit cuts hbefore misfit).parse_malformed]
  | illegalField cuts all comma => exact cuts.parse_comma all comma
  | keys cuts all hkeys => rw [cuts.parse_keys all hkeys]

/-- Pieces between commas have no comma, so their fields are legal. -/
theorem Parser.Decides.legal {result : Except Fault Expression} (h : p.Decides v result)
    (hsep : p.separator = ",") : result ≠ .error .illegalField := by
  rintro rfl
  cases h with
  | @illegalField text tokens cuts all comma =>
      obtain ⟨ts, hts, field, hfield, comma⟩ := comma
      have cut : ",".toList = [','] := by decide
      rw [← cuts.eq, hsep, cut] at hts
      obtain ⟨piece, hpiece, rfl⟩ := List.mem_map.mp hts
      rw [pieces_singleton] at hpiece
      have inPiece : ',' ∈ piece := mem_of_mem_tokensOf (List.mem_of_mem_head? hfield) comma
      exact not_mem_of_mem_splitOn hpiece inPiece

/-- **The faults that there are.** -/
theorem Parser.Decides.fault {fault : Fault} (h : p.Decides v (.error fault)) :
    (∃ reason, fault = .malformed v reason)
      ∨ (fault = .emptySeparator ∧ p.separator = "")
      ∨ (fault = .illegalField ∧ p.separator ≠ ",")
      ∨ (fault = .tooManyDigits Value.writtenDigits ∧ ¬ v.Writable) := by
  have legal : p.separator = "," → fault ≠ .illegalField :=
    fun hsep equal => h.legal hsep (congrArg Except.error equal)
  cases h with
  | notText _ _ => exact .inl ⟨_, rfl⟩
  | unwritable _ unwritable => exact .inr (.inr (.inr ⟨rfl, unwritable⟩))
  | blank _ _ => exact .inl ⟨_, rfl⟩
  | noSeparator _ _ none => exact .inr (.inl ⟨rfl, none⟩)
  | misfit _ _ _ => exact .inl ⟨_, rfl⟩
  | illegalField _ _ _ => exact .inr (.inr (.inl ⟨rfl, fun hsep => legal hsep rfl⟩))

/-- A value for which there is a verdict can be written. -/
theorem Parser.Decides.writable {result : Except Fault Expression} (h : p.Decides v result)
    (possible : result ≠ .error (.tooManyDigits Value.writtenDigits)) : v.Writable := by
  cases h with
  | notText _ writable => exact writable
  | unwritable _ _ => exact absurd rfl possible
  | blank htext _ => exact Value.writable_of_text? htext
  | noSeparator htext _ _ => exact Value.writable_of_text? htext
  | misfit cuts _ _ => exact Value.writable_of_text? cuts.isText
  | illegalField cuts _ _ => exact Value.writable_of_text? cuts.isText
  | keys cuts _ _ => exact Value.writable_of_text? cuts.isText

/-! ## §5. Checking. -/

/-- An illegal field does not count where a later piece makes no group. -/
example : ((⟨true, ";", 2⟩ : Parser).parse (.text "a,b;c d e")).outcome
    = .error (.malformed (.text "a,b;c d e") (.tooManyTokens 2 3)) := by
  rfl

end OrderBy
