/-
  OrderBy.Proofs.Expression.Canonical
  ───────────────────────────────────
  **THE CANONICAL FORM OF AN EXPRESSION STANDS FOR ITS KEYS.**

  The canonical form is written by the grammar, every key with its direction and
  every key but the first behind a space:

      size DESC, color ASC     =     "size DESC" "," " color ASC"

  Reading it gives the keys back and no warning, wherever the expression came
  from.  So two canonical forms are equal iff the keys are, and sorting by the
  canonical form is sorting by the expression.
-/
import OrderBy.Proofs.Expression.Grammar
import OrderBy.Proofs.Reads

namespace OrderBy

open Text

/-! ## §1. The groups of a canonical form. -/

/-- The name of a direction is a name of the grammar … -/
theorem Direction.isName_name (d : Direction) : IsName d.name.toList := by
  rw [← isFieldName_iff]
  cases d <;> decide

/-- … and stands for the direction. -/
theorem Direction.ofToken_name (d : Direction) : Direction.ofToken d.name = d := by
  cases d <;> rfl

theorem Direction.isKnownToken_name (d : Direction) : Direction.isKnownToken d.name = true := by
  cases d <;> rfl

/-- A key as it is written in a canonical form: its field, a space and its direction. -/
def SortKey.written (k : SortKey) : WrittenGroup where
  lead := []
  field := k.field.toList
  suffix := some ([' '], k.direction.name.toList)
  trail := []
  lead_blank := rfl
  field_isName := (isFieldName_iff k.field).mp k.isFieldName_field
  gap_blank := by
    intro p hp
    obtain rfl := Option.some.inj hp
    exact ⟨List.cons_ne_nil ' ' [], rfl⟩
  token_isName := by
    intro p hp
    obtain rfl := Option.some.inj hp
    exact k.direction.isName_name
  trail_blank := rfl

/-- A written group behind one more space. -/
def WrittenGroup.indent (g : WrittenGroup) : WrittenGroup :=
  { g with
    lead := ' ' :: g.lead
    lead_blank := by
      rw [allBlank_cons, g.lead_blank]
      rfl }

@[simp]
theorem SortKey.written_text (k : SortKey) : k.written.text = k.render.toList := by
  unfold SortKey.render
  rw [String.toList_append, String.toList_append, List.append_assoc]
  show k.field.toList ++ ([' '] ++ (k.direction.name.toList ++ [])) = _
  rw [List.append_nil]
  rfl

@[simp]
theorem WrittenGroup.indent_text (g : WrittenGroup) : g.indent.text = ' ' :: g.text := rfl

/-- Keys are equal if their fields and directions are. -/
theorem SortKey.eq_of_parts {k l : SortKey} (field : k.field = l.field)
    (direction : k.direction = l.direction) : k = l := by
  cases k
  cases l
  subst field direction
  rfl

theorem SortKey.written_group (k : SortKey) :
    k.written.group = ⟨k.field, some k.direction.name⟩ := by
  unfold SortKey.written WrittenGroup.group
  rw [Option.map_some, String.ofList_toList, String.ofList_toList]

/-- **A key is what is read of its written form.** -/
theorem SortKey.written_key (k : SortKey) : k.written.key = k := by
  apply SortKey.eq_of_parts
  · rw [WrittenGroup.key_field, k.written_group]
  · rw [WrittenGroup.key_direction, k.written_group]
    unfold Group.direction
    rw [Option.elim_some, Direction.ofToken_name]

/-- The direction that is written is known, so it deserves no warning. -/
theorem SortKey.written_warning (k : SortKey) (expression : Value) :
    k.written.group.warning? expression = none := by
  rw [k.written_group]
  unfold Group.warning?
  exact if_pos k.direction.isKnownToken_name

/-! ## §2. The canonical form is written by the grammar. -/

/-- The groups of the canonical form of some keys. -/
def canonicalGroups : List SortKey → List WrittenGroup
  | [] => []
  | k :: ks => k.written :: ks.map (fun k => k.written.indent)

theorem canonicalGroups_key : ∀ ks : List SortKey,
    (canonicalGroups ks).map WrittenGroup.key = ks
  | [] => rfl
  | k :: ks => by
      have rest : (ks.map (fun k => k.written.indent)).map WrittenGroup.key = ks := by
        rw [List.map_map]
        exact (List.map_congr_left (fun k _ => k.written_key)).trans (List.map_id ks)
      show k.written.key :: _ = _
      rw [rest, k.written_key]

/-- The groups of a canonical form deserve no warning. -/
theorem canonicalGroups_warning (expression : Value) {ks : List SortKey} :
    ∀ g ∈ canonicalGroups ks, g.group.warning? expression = none := by
  intro g hg
  cases ks with
  | nil => cases hg
  | cons k ks =>
      rcases List.mem_cons.mp hg with rfl | hg
      · exact k.written_warning expression
      · obtain ⟨l, _, rfl⟩ := List.mem_map.mp hg
        exact l.written_warning expression

/-- A space may go with the comma in front of it or with the text behind it. -/
theorem intercalate_comma_space (w : List Char) (ws : List (List Char)) :
    [','].intercalate (w :: ws.map (' ' :: ·)) = [',', ' '].intercalate (w :: ws) := by
  induction ws generalizing w with
  | nil => rfl
  | cons v ws ih =>
      rw [List.map_cons, List.intercalate_cons_cons, List.intercalate_cons_cons_left, ih,
        List.intercalate_cons_cons]
      simp

/-- **The canonical form of some keys is written by the grammar.** -/
theorem writes_renderKeys {ks : List SortKey} (hne : ks ≠ []) :
    Writes (canonicalGroups ks) (Expression.renderKeys ks).toList := by
  cases ks with
  | nil => exact absurd rfl hne
  | cons k ks =>
      -- every group but the first has its space in front
      have texts : (canonicalGroups (k :: ks)).map WrittenGroup.text
          = k.render.toList :: (ks.map (fun k => k.render.toList)).map (' ' :: ·) := by
        show k.written.text :: _ = _
        rw [k.written_text, List.map_map, List.map_map]
        refine congrArg _ (List.map_congr_left (fun l _ => ?_))
        show l.written.indent.text = ' ' :: l.render.toList
        rw [WrittenGroup.indent_text, l.written_text]
      refine ⟨List.cons_ne_nil _ _, ?_⟩
      unfold Expression.renderKeys
      rw [texts, intercalate_comma_space, String.toList_intercalate, List.map_map]
      rfl

/-- **Reading the canonical form of an expression gives its keys**, and logs that
and nothing else. -/
theorem Parser.parse_canonical (warn : Bool) (p : Expression) :
    (ofGrammar warn).parse (.text p.canonical)
      = ⟨[.parsed (.text p.canonical) p.canonical], .ok ⟨p.canonical, p.keys, p.keys_ne_nil⟩⟩ := by
  have text : (Value.text p.canonical).text? = some p.canonical := rfl
  have silent : (ofGrammar warn).warnings (.text p.canonical)
      ((canonicalGroups p.keys).map WrittenGroup.group) = [] := by
    unfold Parser.warnings
    rw [List.filterMap_map]
    cases warn with
    | false => rfl
    | true =>
        rw [if_pos rfl, List.filterMap_eq_nil_iff]
        exact canonicalGroups_warning _
  have keys := canonicalGroups_key p.keys
  rw [Parser.parse_of_writes warn text (writes_renderKeys p.keys_ne_nil), silent]
  simp only [keys, List.nil_append]
  rfl

/-! ## §3. The canonical form in place of the expression. -/

/-- Canonical forms are equal iff the keys are. -/
theorem canonical_inj (p q : Expression) : p.canonical = q.canonical ↔ p.keys = q.keys := by
  constructor
  · -- reading is a function, so equal forms are read as equal keys
    intro h
    have first := congrArg Traced.outcome (Parser.parse_canonical true p)
    have second := congrArg Traced.outcome (Parser.parse_canonical true q)
    rw [h, second] at first
    exact (congrArg Expression.keys (Except.ok.inj first)).symm
  · intro h
    exact congrArg Expression.renderKeys h

/-- Sorting by the canonical form is, from the same state on, sorting by the
expression with one more line in the log. -/
theorem sortBy_canonical {σ : Type} (p : Expression) (source : Source)
    (extractors : Extractors σ) (st : σ) :
    sortBy source (.written (.text p.canonical)) extractors st
      = (⟨.log (.parsed (.text p.canonical) p.canonical)
            :: (sortBy source (.parsed p) extractors).events st,
          (sortBy source (.parsed p) extractors).outcome st⟩,
        (sortBy source (.parsed p) extractors).final st) := by
  have read : (Criterion.written (.text p.canonical)).read Parser.standard
      = ⟨[.parsed (.text p.canonical) p.canonical], .ok ⟨p.canonical, p.keys, p.keys_ne_nil⟩⟩ :=
    Parser.parse_canonical true p
  rw [sortBy_eq, sortBy_eq, read, Run.bind_ok (by exact rfl)]
  rfl

/-- **The canonical form is a faithful encoding of the keys.**  The standard parser
reads it back without a warning, no other keys have it, and it sorts like the
expression itself: to the same order or fault, with the same readings. -/
theorem canonical_faithful (p : Expression) :
    Expression.read (.text p.canonical)
        = ⟨[.parsed (.text p.canonical) p.canonical], .ok ⟨p.canonical, p.keys, p.keys_ne_nil⟩⟩
      ∧ (∀ q : Expression, p.canonical = q.canonical ↔ p.keys = q.keys)
      ∧ ∀ (σ : Type) (extractors : Extractors σ), RecordDetermined extractors →
          ∀ (source : Source) (st st' : σ),
            (sortBy source (.parsed p) extractors).outcome st
                = (sortBy source (.written (.text p.canonical)) extractors).outcome st'
              ∧ attempts ((sortBy source (.parsed p) extractors).events st)
                = attempts ((sortBy source (.written (.text p.canonical)) extractors).events st') := by
  refine ⟨Parser.parse_canonical true p, canonical_inj p, ?_⟩
  intro σ extractors h source st st'
  have determined := h.sortBy source (.parsed p)
  have same := sortBy_canonical p source extractors st'
  constructor
  · show _ = (sortBy source (.written (.text p.canonical)) extractors st').1.outcome
    rw [same]
    exact determined.outcome st st'
  · show _ = attempts (sortBy source (.written (.text p.canonical)) extractors st').1.events
    rw [same]
    exact determined.attempts st st'

/-- An expression whose text says nothing about its keys. -/
def unreadText : Expression :=
  ⟨"; ;", [⟨"size", .ascending, rfl⟩, ⟨"price", .descending, rfl⟩], List.cons_ne_nil _ _⟩

/-- An extractor that counts its calls and tells records apart by their numbers. -/
def countedNumbers : Extractors Nat :=
  [("size", some (fun r calls => (pure (.int r.id), calls + 1)))]

/-- The laws hold of an expression that was not read, and of an extractor that
remembers how often it was called. -/
theorem canonical_faithful_unread :
    RecordDetermined countedNumbers
      ∧ unreadText.canonical = "size ASC, price DESC"
      ∧ ∀ (source : Source) (calls calls' : Nat),
          (sortBy source (.parsed unreadText) countedNumbers).outcome calls
              = (sortBy source (.written (.text unreadText.canonical)) countedNumbers).outcome calls'
            ∧ attempts ((sortBy source (.parsed unreadText) countedNumbers).events calls)
              = attempts ((sortBy source (.written (.text unreadText.canonical))
                  countedNumbers).events calls') := by
  have determined : RecordDetermined countedNumbers := .single "size" fun _ _ _ => rfl
  refine ⟨determined, by decide, fun source calls calls' => ?_⟩
  exact (canonical_faithful unreadText).2.2 Nat countedNumbers determined source calls calls'

end OrderBy
