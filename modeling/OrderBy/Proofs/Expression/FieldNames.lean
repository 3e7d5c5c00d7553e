/-
  OrderBy.Proofs.Expression.FieldNames
  ────────────────────────────────────
  **THE VALIDATOR OF KEYS AND THE PARSER MEAN THE SAME BY A FIELD NAME.**

  Two mechanisms say what a field name is.  The validator looks at each character of a
  text.  The parser never does: it trims, it cuts into pieces and words, and takes the
  first word.  They agree, because a text without blanks and commas is exactly one that
  cutting gives back whole:

      accepted   ↔   trimmed, cut into words and cut at commas it is itself
                 ↔   read as an expression it is its own only field

  With another separator the first word of a piece may have a comma; then the parser
  makes no key of it and the validator would not have accepted it.  So what any parser
  reads fields from are accepted texts, and all of them in which its separator does not
  occur.
-/
import OrderBy.Validation
import OrderBy.Proofs.Expression.Verdict
import Mathlib.Data.List.Infix

namespace OrderBy

open Text

variable {p : Parser} {v : Value} {text f : String}

/-! ## §1. The validator. -/

/-- The entries of a key with nothing but a field. -/
def fieldAlone (f : String) : Entries := [(.text "field", .text f)]

/-- A text is accepted as the field of a key. -/
def SortKey.Accepts (f : String) : Prop := ∃ k, SortKey.ofEntries (fieldAlone f) = .ok k

/-- The only issue of a text that is no field name, at the field. -/
def SortKey.objection (fault : FieldNameFault) : List Issue :=
  [⟨[.field "field"], .fieldName fault⟩]

/-- Entries with nothing but a field make its ascending key, or have that one issue. -/
theorem SortKey.ofEntries_fieldAlone (f : String) :
    SortKey.ofEntries (fieldAlone f)
      = (SortKey.ofField f .ascending).mapError SortKey.objection := by
  have given : Entries.field? (fieldAlone f) "field" = some (.text f) := rfl
  have silent : Entries.field? (fieldAlone f) "direction" = none := rfl
  have checked : SortKey.checkField (.text f)
      = if h : isFieldName f = true then .ok ⟨f, h⟩
        else .error [⟨[], .fieldName (if f.toList.isEmpty then .empty else .blankOrComma)⟩] := rfl
  unfold SortKey.ofEntries Entries.required Entries.optional SortKey.ofField
  rw [given, silent]
  dsimp only
  rw [checked]
  by_cases name : isFieldName f = true
  · rw [dif_pos name, dif_pos name]
    rfl
  · rw [dif_neg name, dif_neg name]
    cases f.toList.isEmpty <;> rfl

/-- What the validator says of a text: it accepts it, or has one objection, the first that
applies. -/
inductive SortKey.Judges (f : String) : Checked SortKey → Prop where
  | accepted {k : SortKey} : isFieldName f = true → Judges f (.ok k)
  | empty : f = "" → Judges f (.error (objection .empty))
  | blankOrComma : f ≠ "" → isFieldName f = false → Judges f (.error (objection .blankOrComma))

theorem SortKey.judges (f : String) : SortKey.Judges f (SortKey.ofEntries (fieldAlone f)) := by
  rw [SortKey.ofEntries_fieldAlone]
  unfold SortKey.ofField
  by_cases name : isFieldName f = true
  · rw [dif_pos name]
    exact .accepted name
  · rw [dif_neg name]
    by_cases none : f = ""
    · subst none
      exact .empty rfl
    · have some : ¬ f.toList.isEmpty = true := by
        rw [List.isEmpty_iff, String.toList_eq_nil_iff]
        exact none
      rw [if_neg some]
      exact .blankOrComma none (Bool.eq_false_iff.mpr name)

theorem isFieldName_empty : isFieldName "" = false := by decide

/-- The accepted texts are the field names. -/
theorem SortKey.accepts_iff : SortKey.Accepts f ↔ isFieldName f = true := by
  have judged := SortKey.judges f
  unfold SortKey.Accepts
  generalize SortKey.ofEntries (fieldAlone f) = checked at judged ⊢
  cases judged with
  | accepted name => simp [name]
  | empty none => simp [none, isFieldName_empty]
  | blankOrComma _ other => simp [other]

/-- Of the others the empty text is rejected as empty … -/
theorem SortKey.rejects_empty_iff :
    SortKey.ofEntries (fieldAlone f) = .error (SortKey.objection .empty) ↔ f = "" := by
  have judged := SortKey.judges f
  generalize SortKey.ofEntries (fieldAlone f) = checked at judged ⊢
  cases judged with
  | accepted name =>
      simp only [reduceCtorEq, false_iff]
      rintro rfl
      exact Bool.false_ne_true (isFieldName_empty.symm.trans name)
  | empty none => simp [none]
  | blankOrComma some _ => simp [SortKey.objection, some]

/-- … and the rest for a blank or a comma. -/
theorem SortKey.rejects_blankOrComma_iff :
    SortKey.ofEntries (fieldAlone f) = .error (SortKey.objection .blankOrComma)
      ↔ f ≠ "" ∧ ¬ isFieldName f = true := by
  have judged := SortKey.judges f
  generalize SortKey.ofEntries (fieldAlone f) = checked at judged ⊢
  cases judged with
  | accepted name => simp [name]
  | empty none => simp [SortKey.objection, none]
  | blankOrComma some other => simp [some, other]

/-! ## §2. Texts that are cut whole. -/

/-- Neither trimming nor cutting changes a text: without its outer blanks, cut into words
and cut at the separator of the standard parser, it is itself. -/
structure CutWhole (s : List Char) : Prop where
  trimmed : trimBy isBlank s = s
  word : HasWords s [s]
  piece : HasPieces Parser.standard.separator.toList s [s]

theorem standard_separator : Parser.standard.separator.toList = [','] := by decide

/-- Where there is nothing to drop, trimming drops nothing. -/
theorem trimBy_of_forall {drop : Char → Bool} {s : List Char} (h : ∀ c ∈ s, drop c = false) :
    trimBy drop s = s := by
  have kept : ∀ t : List Char, (∀ c ∈ t, drop c = false) → t.dropWhile drop = t := by
    intro t ht
    cases t with
    | nil => rfl
    | cons c t => exact List.dropWhile_cons_of_neg (Bool.eq_false_iff.mp (ht c List.mem_cons_self))
  unfold trimBy
  rw [kept s h, kept s.reverse (fun c hc => h c (List.mem_reverse.mp hc)), List.reverse_reverse]

/-- **The field names are the texts that are cut whole.** -/
theorem isFieldName_iff_cutWhole : isFieldName f = true ↔ CutWhole f.toList := by
  rw [isFieldName_iff]
  constructor
  · intro name
    refine ⟨trimBy_of_forall name.word.notBlank, name.word.hasWords, .whole ?_⟩
    rw [standard_separator, List.singleton_infix_iff]
    exact name.noComma
  · intro whole
    refine ⟨whole.word.isWord _ List.mem_cons_self, ?_⟩
    have piece := whole.piece
    rw [standard_separator] at piece
    rw [← List.singleton_infix_iff]
    exact piece.not_infix_of_mem (List.cons_ne_nil _ _) List.mem_cons_self

/-! ## §3. The parser. -/

/-- The field of a key that is made of some tokens is the first of them. -/
theorem SortKey.OfTokens.head {tokens : List String} {k : SortKey} (h : OfTokens tokens k) :
    tokens.head? = some k.field := by
  cases h with
  | alone field => rw [field]; rfl
  | directed field => rw [field]; rfl

/-- The fields of the keys are the first tokens. -/
theorem SortKey.heads_of_forall₂ {tokens : List (List String)} {ks : List SortKey}
    (h : List.Forall₂ SortKey.OfTokens tokens ks) :
    tokens.map List.head? = (ks.map SortKey.field).map some := by
  induction h with
  | nil => rfl
  | cons first _ ih => rw [List.map_cons, first.head, ih]; rfl

/-- Every field of an expression is accepted. -/
theorem Expression.accepts_of_mem_fields {e : Expression} (h : f ∈ e.fields) :
    SortKey.Accepts f := by
  obtain ⟨k, _, rfl⟩ := List.mem_map.mp h
  exact SortKey.accepts_iff.mpr k.isFieldName_field

/-- What was read was cut into groups, and the fields are their first tokens. -/
theorem Parser.exists_cuts_of_parse {e : Expression} (h : (p.parse v).outcome = .ok e) :
    ∃ tokens, p.Cuts v e.text tokens ∧ (∀ ts ∈ tokens, IsGroup p.maxTokens ts)
      ∧ tokens.map List.head? = e.fields.map some := by
  obtain ⟨result, decides⟩ := p.exists_decides v
  rw [decides.outcome] at h
  subst h
  cases decides with
  | keys cuts all hkeys => exact ⟨_, cuts, all, SortKey.heads_of_forall₂ hkeys⟩

/-- **Of a value that is cut into groups the validator decides what becomes**: it is read
if all first tokens are accepted, and otherwise it has an illegal field. -/
theorem Parser.Cuts.read_or_illegal {tokens : List (List String)} (h : p.Cuts v text tokens)
    (all : ∀ ts ∈ tokens, IsGroup p.maxTokens ts) :
    ((∃ e, (p.parse v).outcome = .ok e) ∧ ∀ ts ∈ tokens, ∀ g ∈ ts.head?, SortKey.Accepts g)
      ∨ ((p.parse v).outcome = .error .illegalField ∧ p.separator ≠ ","
          ∧ ∃ ts ∈ tokens, ∃ g ∈ ts.head?, ¬ SortKey.Accepts g) := by
  rcases h.keys_or_comma all with ⟨ks, hks⟩ | comma
  · -- the keys that there are carry the proof that their fields are accepted
    let e : Expression := ⟨text, ks, h.keys_ne_nil hks⟩
    have read : p.parse v = _ := Parser.Cuts.parse_keys (e := e) h all hks
    refine .inl ⟨⟨e, by rw [read]⟩, ?_⟩
    intro ts hts g hg
    have mem : ts.head? ∈ tokens.map List.head? := List.mem_map_of_mem hts
    rw [SortKey.heads_of_forall₂ hks, Option.mem_def.mp hg] at mem
    obtain ⟨field, hfield, same⟩ := List.mem_map.mp mem
    obtain ⟨k, _, rfl⟩ := List.mem_map.mp hfield
    obtain rfl := Option.some.inj same
    exact SortKey.accepts_iff.mpr k.isFieldName_field
  · have decides := Parser.Decides.illegalField h all comma
    refine .inr ⟨h.parse_comma all comma, fun hsep => decides.legal hsep rfl, ?_⟩
    obtain ⟨ts, hts, g, hg, comma⟩ := comma
    refine ⟨ts, hts, g, hg, fun accepted => ?_⟩
    exact ((isFieldName_iff g).mp (SortKey.accepts_iff.mp accepted)).noComma comma

/-- A field name in which the separator does not occur is cut into itself, and read. -/
theorem Parser.exists_parse_fieldName (name : isFieldName f = true) (tokens : 1 ≤ p.maxTokens)
    (sep : ¬ p.separator.toList <:+: f.toList) :
    ∃ e, (p.parse (.text f)).outcome = .ok e ∧ e.fields = [f] := by
  have word := ((isFieldName_iff f).mp name).word
  have separated : p.separator ≠ "" := by
    intro none
    rw [none] at sep
    exact sep (List.nil_infix)
  have cuts : p.Cuts (.text f) f [[f]] :=
    ⟨rfl, word.not_allBlank, separated, [f.toList], .whole sep, .cons word.hasWords .nil⟩
  have all : ∀ ts ∈ [[f]], IsGroup p.maxTokens ts :=
    List.forall_mem_singleton.mpr ⟨List.cons_ne_nil _ _, tokens⟩
  have keys : List.Forall₂ SortKey.OfTokens [[f]] [⟨f, .ascending, name⟩] :=
    .cons (.alone rfl rfl) .nil
  let e : Expression := ⟨f, [⟨f, .ascending, name⟩], List.cons_ne_nil _ _⟩
  have read : p.parse (.text f) = _ := Parser.Cuts.parse_keys (e := e) cuts all keys
  exact ⟨e, by rw [read], rfl⟩

/-- A field that a parser read is a word of a piece, so its separator is not in it. -/
theorem Parser.separator_of_mem_fields {e : Expression} (h : (p.parse v).outcome = .ok e)
    (hf : f ∈ e.fields) : 1 ≤ p.maxTokens ∧ ¬ p.separator.toList <:+: f.toList := by
  obtain ⟨tokens, cuts, all, heads⟩ := Parser.exists_cuts_of_parse h
  have mem : some f ∈ tokens.map List.head? := heads ▸ List.mem_map_of_mem hf
  obtain ⟨ts, hts, head⟩ := List.mem_map.mp mem
  constructor
  · have some := List.length_pos_iff.mpr (all ts hts).ne_nil
    have few := (all ts hts).length_le
    omega
  · -- the field is a word of a piece, and no piece has the separator in it
    have some := Parser.separator_ne_nil cuts.separated
    rw [← cuts.eq] at hts
    obtain ⟨piece, hpiece, rfl⟩ := List.mem_map.mp hts
    have inPiece : f.toList <:+: piece := (hasTokens_tokensOf piece).infix_of_mem
      (List.mem_map_of_mem (List.mem_of_mem_head? head))
    intro inField
    exact (hasPieces_pieces some _).not_infix_of_mem some hpiece (inField.trans inPiece)

/-! ## §4. Agreement. -/

/-- A text is accepted iff, read as an expression, it is its own only field. -/
theorem SortKey.accepts_iff_read :
    SortKey.Accepts f ↔ ∃ e, (Expression.read (.text f)).outcome = .ok e ∧ e.fields = [f] := by
  constructor
  · intro accepted
    have name := SortKey.accepts_iff.mp accepted
    have noComma := ((isFieldName_iff f).mp name).noComma
    rw [← List.singleton_infix_iff, ← standard_separator] at noComma
    exact Parser.exists_parse_fieldName name (by decide) noComma
  · rintro ⟨e, _, fields⟩
    apply Expression.accepts_of_mem_fields (e := e)
    rw [fields]
    exact List.mem_cons_self

/-- The fields that a parser reads from any values at all. -/
theorem Parser.exists_mem_fields_iff :
    (∃ v e, (p.parse v).outcome = .ok e ∧ f ∈ e.fields)
      ↔ SortKey.Accepts f ∧ 1 ≤ p.maxTokens ∧ ¬ p.separator.toList <:+: f.toList := by
  constructor
  · rintro ⟨v, e, read, hf⟩
    exact ⟨Expression.accepts_of_mem_fields hf, Parser.separator_of_mem_fields read hf⟩
  · rintro ⟨accepted, tokens, sep⟩
    obtain ⟨e, read, fields⟩ :=
      Parser.exists_parse_fieldName (SortKey.accepts_iff.mp accepted) tokens sep
    refine ⟨_, e, read, ?_⟩
    rw [fields]
    exact List.mem_cons_self

/-- **The validator and the parser agree on what a field name is.**

A text is accepted as a field iff it is read as an expression with itself as the only
field.  For every parser and every value, the fields that are read are the first tokens
of the groups, and they are accepted; a value that is cut into groups is read iff all of
their first tokens are accepted, has an illegal field iff one is not, and with a comma as
separator they all are.  The fields that a parser reads at all are the accepted texts in
which its separator does not occur.  Last, the accepted texts are those which trimming and
cutting give back whole; of the others the empty one is rejected as empty and the rest for
a blank or a comma. -/
theorem fieldNames_agree :
    (∀ f : String, SortKey.Accepts f ↔
        ∃ e, (Expression.read (.text f)).outcome = .ok e ∧ e.fields = [f])
      ∧ (∀ (p : Parser) (v : Value) (e : Expression), (p.parse v).outcome = .ok e →
          ∃ tokens, p.Cuts v e.text tokens ∧ (∀ ts ∈ tokens, IsGroup p.maxTokens ts)
            ∧ tokens.map List.head? = e.fields.map some ∧ ∀ f ∈ e.fields, SortKey.Accepts f)
      ∧ (∀ (p : Parser) (v : Value) (text : String) (tokens : List (List String)),
          p.Cuts v text tokens → (∀ ts ∈ tokens, IsGroup p.maxTokens ts) →
          ((∃ e, (p.parse v).outcome = .ok e)
              ↔ ∀ ts ∈ tokens, ∀ f ∈ ts.head?, SortKey.Accepts f)
            ∧ ((p.parse v).outcome = .error .illegalField
                ↔ ∃ ts ∈ tokens, ∃ f ∈ ts.head?, ¬ SortKey.Accepts f)
            ∧ (p.separator = "," → ∀ ts ∈ tokens, ∀ f ∈ ts.head?, SortKey.Accepts f))
      ∧ (∀ (p : Parser) (f : String), (∃ v e, (p.parse v).outcome = .ok e ∧ f ∈ e.fields)
          ↔ SortKey.Accepts f ∧ 1 ≤ p.maxTokens ∧ ¬ p.separator.toList <:+: f.toList)
      ∧ (∀ f : String, (SortKey.Accepts f ↔ CutWhole f.toList)
          ∧ (SortKey.ofEntries (fieldAlone f) = .error (SortKey.objection .empty) ↔ f = "")
          ∧ (SortKey.ofEntries (fieldAlone f) = .error (SortKey.objection .blankOrComma)
              ↔ f ≠ "" ∧ ¬ CutWhole f.toList)) := by
  refine ⟨fun f => SortKey.accepts_iff_read, ?_, ?_, fun p f => Parser.exists_mem_fields_iff, ?_⟩
  · intro p v e read
    obtain ⟨tokens, cuts, all, heads⟩ := Parser.exists_cuts_of_parse read
    exact ⟨tokens, cuts, all, heads, fun f hf => Expression.accepts_of_mem_fields hf⟩
  · intro p v text tokens cuts all
    rcases cuts.read_or_illegal all with
      ⟨⟨e, read⟩, accepted⟩ | ⟨illegal, other, ts, hts, f, hf, rejected⟩
    · refine ⟨iff_of_true ⟨e, read⟩ accepted, iff_of_false ?_ ?_, fun _ => accepted⟩
      · rw [read]
        exact nofun
      · rintro ⟨ts, hts, f, hf, rejected⟩
        exact rejected (accepted ts hts f hf)
    · refine ⟨iff_of_false ?_ ?_, iff_of_true illegal ⟨ts, hts, f, hf, rejected⟩, ?_⟩
      · rintro ⟨e, read⟩
        rw [illegal] at read
        cases read
      · exact fun accepted => rejected (accepted ts hts f hf)
      · exact fun comma => absurd comma other
  · intro f
    rw [← isFieldName_iff_cutWhole]
    exact ⟨SortKey.accepts_iff, SortKey.rejects_empty_iff, SortKey.rejects_blankOrComma_iff⟩

/-- A parser that cuts at two colons and allows three tokens. -/
def colonParser : Parser := ⟨false, "::", 3⟩

/-- It cuts at colons, which field names may have, and not at commas, which they may not:
one text is read and the other has an illegal field, which the validator rejects too.  A
field with two colons is accepted, but not read by this parser. -/
theorem fieldNames_agree_colons :
    (∃ e, (colonParser.parse (.text "a:\u2003DESC ,::b")).outcome = .ok e)
      ∧ (colonParser.parse (.text "a::b,c DESC")).outcome = .error .illegalField
      ∧ SortKey.ofEntries (fieldAlone "b,c") = .error (SortKey.objection .blankOrComma)
      ∧ SortKey.Accepts "a::b"
      ∧ ¬ ∃ v e, (colonParser.parse v).outcome = .ok e ∧ "a::b" ∈ e.fields := by
  obtain ⟨_, _, groups, fields, validator⟩ := fieldNames_agree
  have accepts : ∀ f : String, isFieldName f = true → SortKey.Accepts f :=
    fun f name => SortKey.accepts_iff.mpr name
  have cuts : colonParser.Cuts (.text "a:\u2003DESC ,::b") "a:\u2003DESC ,::b"
      [["a:", "DESC", ","], ["b"]] := Parser.cuts_pieces rfl rfl (by decide)
  have cuts' : colonParser.Cuts (.text "a::b,c DESC") "a::b,c DESC" [["a"], ["b,c", "DESC"]] :=
    Parser.cuts_pieces rfl rfl (by decide)
  have all : ∀ ts ∈ [["a:", "DESC", ","], ["b"]], IsGroup colonParser.maxTokens ts := by
    simp [IsGroup.mk, colonParser]
  have all' : ∀ ts ∈ [["a"], ["b,c", "DESC"]], IsGroup colonParser.maxTokens ts := by
    simp [IsGroup.mk, colonParser]
  refine ⟨?_, ?_, ?_, accepts _ (by decide), ?_⟩
  · refine (groups _ _ _ _ cuts all).1.mpr ?_
    simp [accepts "a:" (by decide), accepts "b" (by decide)]
  · refine (groups _ _ _ _ cuts' all').2.1.mpr ?_
    refine ⟨["b,c", "DESC"], by simp, "b,c", rfl, fun accepted => ?_⟩
    exact absurd (SortKey.accepts_iff.mp accepted) (by decide)
  · refine (validator "b,c").2.2.mpr ⟨by decide, fun whole => ?_⟩
    exact absurd (isFieldName_iff_cutWhole.mpr whole) (by decide)
  · intro read
    obtain ⟨_, _, sep⟩ := (fields colonParser "a::b").mp read
    exact sep (by decide)

end OrderBy
