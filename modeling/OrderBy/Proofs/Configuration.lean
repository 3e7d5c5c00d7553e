/-
  OrderBy.Proofs.Configuration
  ────────────────────────────
  **A CONFIGURATION THAT IS MADE CAN BE USED.**

  Entries are accepted iff each setting converts and the default expression, if there is
  one, can be read by the standard parser.  The settings are judged one by one:

      issues  =  that of the default expression, then those of the other settings

  and a default expression adds one issue, which gives the reason for which it cannot be
  read, or none.  It is checked with a parser that is silent, and later read with one that
  need not be; that makes no difference to what is read.  So a sort by a configuration
  alone finds its expression malformed iff there is none.  Documents and files are entries
  in another form, whatever format they are written in.
-/
import OrderBy.Config.Document
import OrderBy.Proofs.Expression.Grammar
import OrderBy.Proofs.Faults
import OrderBy.Proofs.WaysIn

namespace OrderBy

variable {σ : Type}

/-! ## §1. Verdicts on settings. -/

/-- Two things are both found iff each of them is. -/
theorem Checked.both_eq_ok {α β : Type} {x : Checked α} {y : Checked β} {a : α} {b : β} :
    Checked.both x y = .ok (a, b) ↔ x = .ok a ∧ y = .ok b := by
  cases x <;> cases y <;> simp [Checked.both]

theorem Checked.below_eq_ok {α : Type} {step : Step} {x : Checked α} {a : α} :
    Checked.below step x = .ok a ↔ x = .ok a := by
  cases x <;> simp [Checked.below]

theorem Checked.ofConversion_eq_ok {α : Type} {x : Except Rejection α} {a : α} :
    Checked.ofConversion x = .ok a ↔ x = .ok a := by
  cases x <;> simp [Checked.ofConversion]

/-- A field that may be left out is its default, or what is made of its value. -/
theorem Entries.optional_eq_ok {α : Type} {es : Entries} {name : String} {default a : α}
    {check : Value → Checked α} :
    es.optional name default check = .ok a
      ↔ (es.field? name).elim (a = default) (fun v => check v = .ok a) := by
  unfold Entries.optional
  cases es.field? name with
  | none => exact ⟨fun h => (Except.ok.inj h).symm, fun h => congrArg Except.ok h.symm⟩
  | some v => exact Checked.below_eq_ok

/-- A count is an integer that is not negative. -/
theorem Value.toCount_eq_ok {v : Value} {n : Nat} : v.toCount = .ok n ↔ v.toInteger = .ok (n : Int) := by
  unfold toCount
  cases v.toInteger with
  | error r => exact ⟨nofun, nofun⟩
  | ok m =>
      show (if m < 0 then .error .negative else .ok m.toNat : Except Rejection Nat) = .ok n ↔ _
      rw [Except.ok.injEq]
      split
      · refine ⟨nofun, fun h => ?_⟩
        omega
      · rw [Except.ok.injEq]
        omega

/-! ## §2. Checking a default expression. -/

/-- The silent parser reads what the standard parser reads. -/
theorem silent_outcome (v : Value) :
    (Parser.silent.parse v).outcome = (Expression.read v).outcome :=
  have grammar : Parser.silent.SameGrammar Parser.standard := ⟨rfl, rfl⟩
  (grammar.parse v).outcome

/-- The silent parser logs no warnings. -/
theorem silent_events (s : String) :
    ∀ entry ∈ (Parser.silent.parse (.text s)).events, entry.level = .debug := by
  have text : (Value.text s).text? = some s := rfl
  show ∀ entry ∈ ((Parser.ofGrammar false).parse (.text s)).events, _
  by_cases h : ∃ gs : List WrittenGroup, Writes gs s.toList
  · obtain ⟨gs, hgs⟩ := h
    rw [Parser.parse_of_writes false text hgs]
    exact List.forall_mem_singleton.mpr rfl
  · obtain ⟨reason, unread⟩ := Parser.parse_of_not_writes false text h
    rw [unread]
    exact List.forall_mem_nil _

namespace Config

section Checked

variable {v : Value} {s : String}

/-- A text that can be read is accepted as a default expression … -/
theorem checkExpression_of_read {e : Expression} (hv : v.toOptionalText = .ok (some s))
    (h : (Expression.read (.text s)).outcome = .ok e) :
    (checkExpression v).outcome = .ok (.ok (some s)) := by
  have silent := (silent_outcome (.text s)).trans h
  simp only [checkExpression, hv, silent]

/-- … one that is malformed is rejected with the reason … -/
theorem checkExpression_of_malformed {reason : Reason} (hv : v.toOptionalText = .ok (some s))
    (h : (Expression.read (.text s)).outcome = .error (.malformed (.text s) reason)) :
    (checkExpression v).outcome = .ok (.error [⟨[], .defaultExpression reason⟩]) := by
  have silent := (silent_outcome (.text s)).trans h
  simp only [checkExpression, hv, silent]

/-- … and what is no text, nor none, is rejected as such. -/
theorem checkExpression_of_rejected {r : Rejection} (hv : v.toOptionalText = .error r) :
    (checkExpression v).outcome = .ok (.error [⟨[], r⟩]) := by
  simp only [checkExpression, hv]
  rfl

/-- There may be none. -/
theorem checkExpression_of_absent (hv : v.toOptionalText = .ok none) :
    (checkExpression v).outcome = .ok (.ok none) := by
  simp only [checkExpression, hv]
  rfl

end Checked

/-- Checking logs no warning. -/
theorem checkExpression_events (v : Value) :
    ∀ entry ∈ (checkExpression v).events, entry.level = .debug := by
  unfold checkExpression
  split
  · exact List.forall_mem_nil _
  · exact List.forall_mem_nil _
  · next s _ =>
      have silent := silent_events s
      dsimp only
      split <;> exact silent

/-- Checking never fails: what is wrong with a value is an issue. -/
theorem exists_checkExpression (v : Value) : ∃ checked, (checkExpression v).outcome = .ok checked := by
  cases hv : v.toOptionalText with
  | error r => exact ⟨_, checkExpression_of_rejected hv⟩
  | ok given =>
      cases given with
      | none => exact ⟨_, checkExpression_of_absent hv⟩
      | some s =>
          rcases read_or_malformed s with ⟨e, he⟩ | ⟨reason, hreason⟩
          · exact ⟨_, checkExpression_of_read hv he⟩
          · exact ⟨_, checkExpression_of_malformed hv hreason⟩

/-- **A default expression is accepted iff it is absent or a text that can be read.** -/
theorem checkExpression_eq_ok {v : Value} {d : Option String} :
    (checkExpression v).outcome = .ok (.ok d)
      ↔ v.toOptionalText = .ok d
        ∧ ∀ s, d = some s → ∃ e, (Expression.read (.text s)).outcome = .ok e := by
  cases hv : v.toOptionalText with
  | error r =>
      rw [checkExpression_of_rejected hv]
      exact ⟨nofun, fun h => nomatch h.1⟩
  | ok given =>
      cases given with
      | none =>
          rw [checkExpression_of_absent hv]
          constructor
          · rintro ⟨⟩
            exact ⟨rfl, nofun⟩
          · rintro ⟨⟨⟩, _⟩
            rfl
      | some s =>
          rcases read_or_malformed s with ⟨e, he⟩ | ⟨reason, hreason⟩
          · rw [checkExpression_of_read hv he]
            constructor
            · rintro ⟨⟩
              exact ⟨rfl, fun t ht => Option.some.inj ht ▸ ⟨e, he⟩⟩
            · rintro ⟨⟨⟩, _⟩
              rfl
          · rw [checkExpression_of_malformed hv hreason]
            refine ⟨nofun, ?_⟩
            rintro ⟨⟨⟩, readable⟩
            obtain ⟨e, he⟩ := readable s rfl
            rw [hreason] at he
            cases he

/-! ## §3. Making a configuration from entries. -/

/-- The verdict on the settings besides the default expression. -/
def otherSettings (es : Entries) : Checked (Bool × Nat) :=
  Checked.both (es.optional warnName true fun v => Checked.ofConversion v.toTruth)
    (es.optional workersName 0 fun v => Checked.ofConversion v.toCount)

/-- The configuration that verdicts on all settings make. -/
def ofVerdicts (expression : Checked (Option String)) (others : Checked (Bool × Nat)) :
    Except Fault Config :=
  match Checked.both expression others with
  | .ok (e, w, n) => .ok ⟨e, w, n⟩
  | .error is => .error (.invalid is)

/-- The default expression is checked, and then all verdicts are joined. -/
theorem ofEntries_eq (es : Entries) :
    ofEntries es
      = (match es.field? defaultExpressionName with
          | some v => Checked.below (.field defaultExpressionName) <$> checkExpression v
          | none => pure (.ok none))
        >>= fun expression => ⟨[], ofVerdicts expression (otherSettings es)⟩ := by
  have joined : ∀ expression : Checked (Option String),
      (match Checked.both expression (otherSettings es) with
        | .ok (e, w, n) => pure ⟨e, w, n⟩
        | .error is => Traced.fail (.invalid is) : Traced LogEntry Config)
      = ⟨[], ofVerdicts expression (otherSettings es)⟩ := by
    intro expression
    unfold ofVerdicts
    cases Checked.both expression (otherSettings es) <;> rfl
  unfold ofEntries
  cases es.field? defaultExpressionName with
  | none => exact bind_congr (m := Traced LogEntry) joined
  | some v => exact bind_congr (m := Traced LogEntry) joined

theorem ofEntries_of_missing {es : Entries} (h : es.field? defaultExpressionName = none) :
    ofEntries es = ⟨[], ofVerdicts (.ok none) (otherSettings es)⟩ := by
  rw [ofEntries_eq, h]
  exact pure_bind _ _

theorem ofEntries_of_given {es : Entries} {v : Value} {checked : Checked (Option String)}
    (h : es.field? defaultExpressionName = some v)
    (hchecked : (checkExpression v).outcome = .ok checked) :
    ofEntries es = ⟨(checkExpression v).events,
      ofVerdicts (Checked.below (.field defaultExpressionName) checked) (otherSettings es)⟩ := by
  rw [ofEntries_eq, h]
  show Checked.below _ <$> checkExpression v >>= _ = _
  rw [Traced.bind_ok (by rw [Traced.outcome_map, hchecked]; rfl), Traced.events_map, List.append_nil]

/-- Making a configuration from entries logs no warning. -/
theorem ofEntries_events (es : Entries) : ∀ entry ∈ (ofEntries es).events, entry.level = .debug := by
  cases h : es.field? defaultExpressionName with
  | none =>
      rw [ofEntries_of_missing h]
      exact List.forall_mem_nil _
  | some v =>
      obtain ⟨checked, hchecked⟩ := exists_checkExpression v
      rw [ofEntries_of_given h hchecked]
      exact checkExpression_events v

theorem ofVerdicts_eq_ok {expression : Checked (Option String)} {others : Checked (Bool × Nat)}
    {c : Config} :
    ofVerdicts expression others = .ok c
      ↔ expression = .ok c.defaultExpression
        ∧ others = .ok (c.warnOnUnknownDirection, c.decorateWorkers) := by
  rw [← Checked.both_eq_ok]
  unfold ofVerdicts
  cases Checked.both expression others with
  | error is => exact ⟨nofun, nofun⟩
  | ok found =>
      obtain ⟨e, w, n⟩ := found
      constructor
      · intro h
        obtain rfl := Except.ok.inj h
        rfl
      · intro h
        obtain ⟨rfl, rfl, rfl⟩ := Prod.mk.injEq .. ▸ Except.ok.inj h
        rfl

/-- What entries say about a configuration that is made from them. -/
structure Accepts (es : Entries) (c : Config) : Prop where
  /-- The default expression is left out, or given as none or as a text … -/
  expression : (es.field? defaultExpressionName).elim (c.defaultExpression = none)
    fun v => v.toOptionalText = .ok c.defaultExpression
  /-- … which can be read. -/
  readable : ∀ s, c.defaultExpression = some s → ∃ e, (Expression.read (.text s)).outcome = .ok e
  warn : (es.field? warnName).elim (c.warnOnUnknownDirection = true)
    fun v => v.toTruth = .ok c.warnOnUnknownDirection
  /-- The number of workers is no negative number. -/
  workers : (es.field? workersName).elim (c.decorateWorkers = 0)
    fun v => v.toInteger = .ok (c.decorateWorkers : Int)

/-- **Entries make a configuration iff they accept it.** -/
theorem ofEntries_eq_ok {es : Entries} {c : Config} :
    (ofEntries es).outcome = .ok c ↔ Accepts es c := by
  have others : otherSettings es = .ok (c.warnOnUnknownDirection, c.decorateWorkers)
      ↔ ((es.field? warnName).elim (c.warnOnUnknownDirection = true)
          fun v => v.toTruth = .ok c.warnOnUnknownDirection)
        ∧ (es.field? workersName).elim (c.decorateWorkers = 0)
          fun v => v.toInteger = .ok (c.decorateWorkers : Int) := by
    unfold otherSettings
    simp only [Checked.both_eq_ok, Entries.optional_eq_ok, Checked.ofConversion_eq_ok,
      Value.toCount_eq_ok]
  cases h : es.field? defaultExpressionName with
  | none =>
      rw [ofEntries_of_missing h, ofVerdicts_eq_ok, others, Except.ok.injEq]
      constructor
      · rintro ⟨expression, warn, workers⟩
        refine ⟨by rw [h]; exact expression.symm, fun s hs => ?_, warn, workers⟩
        rw [← expression] at hs
        cases hs
      · rintro ⟨expression, _, warn, workers⟩
        rw [h] at expression
        exact ⟨expression.symm, warn, workers⟩
  | some v =>
      obtain ⟨checked, hchecked⟩ := exists_checkExpression v
      have verdict : checked = .ok c.defaultExpression
          ↔ (checkExpression v).outcome = .ok (.ok c.defaultExpression) := by
        rw [hchecked, Except.ok.injEq]
      rw [ofEntries_of_given h hchecked, ofVerdicts_eq_ok, others, Checked.below_eq_ok, verdict,
        checkExpression_eq_ok]
      constructor
      · rintro ⟨⟨expression, readable⟩, warn, workers⟩
        exact ⟨by rw [h]; exact expression, readable, warn, workers⟩
      · rintro ⟨expression, readable, warn, workers⟩
        rw [h] at expression
        exact ⟨⟨expression, readable⟩, warn, workers⟩

/-! ## §4. One entry more. -/

/-- Entries that have a field more than others have, and agree with them about all other
fields. -/
structure Adds (name : String) (v : Value) (es es' : Entries) : Prop where
  missing : es.field? name = none
  given : es'.field? name = some v
  others : ∀ other, other ≠ name → es'.field? other = es.field? other

/-- A field that entries lack can be added in front of them. -/
theorem Adds.cons {name : String} {es : Entries} (h : es.field? name = none) (v : Value) :
    Adds name v es ((.text name, v) :: es) := by
  have itself : Value.same (.text name) (.text name) = true := (Value.same_text_iff name _).mpr rfl
  refine ⟨h, ?_, fun other different => ?_⟩
  · show Value.getEntry? _ _ = _
    rw [Value.getEntry?_cons, if_pos itself]
  · show Value.getEntry? _ _ = _
    rw [Value.getEntry?_cons, Value.not_same_text different itself]
    rfl

/-- The issues that an attempt to make a configuration reports. -/
def reported : Except Fault Config → List Issue
  | .error (.invalid is) => is
  | _ => []

/-- Changing what is made changes no issue. -/
theorem reported_map (g : Config → Config) (o : Except Fault Config) :
    reported (g <$> o) = reported o := by
  cases o <;> rfl

/-- The default expression has no say in the other settings. -/
theorem Adds.otherSettings {v : Value} {es es' : Entries}
    (h : Adds defaultExpressionName v es es') : otherSettings es' = otherSettings es := by
  have warn : warnName ≠ defaultExpressionName := by decide
  have workers : workersName ≠ defaultExpressionName := by decide
  unfold Config.otherSettings Entries.optional
  rw [h.others warnName warn, h.others workersName workers]

section Adds

variable {d : String} {es es' : Entries} (h : Adds defaultExpressionName (.text d) es es')

include h

/-- A default expression that can be read adds no issue. -/
theorem ofEntries_of_adds_read {e : Expression} (hread : (Expression.read (.text d)).outcome = .ok e) :
    (ofEntries es').outcome
      = (fun c => { c with defaultExpression := some d }) <$> (ofEntries es).outcome := by
  rw [ofEntries_of_given h.given (checkExpression_of_read (s := d) rfl hread),
    ofEntries_of_missing h.missing, h.otherSettings]
  unfold ofVerdicts
  cases Config.otherSettings es <;> rfl

/-- **One that is malformed adds one issue, in front of those of the other settings.** -/
theorem ofEntries_of_adds_malformed {reason : Reason}
    (hread : (Expression.read (.text d)).outcome = .error (.malformed (.text d) reason)) :
    (ofEntries es').outcome
      = .error (.invalid (⟨[.field defaultExpressionName], .defaultExpression reason⟩
          :: reported (ofEntries es).outcome)) := by
  rw [ofEntries_of_given h.given (checkExpression_of_malformed (s := d) rfl hread),
    ofEntries_of_missing h.missing, h.otherSettings]
  unfold ofVerdicts
  cases Config.otherSettings es <;> rfl

end Adds

/-- The issues of a field are at that field. -/
theorem optional_issues {α : Type} {es : Entries} {name : String} {default : α}
    {check : Value → Checked α} {is : List Issue} (h : es.optional name default check = .error is) :
    ∀ i ∈ is, i.path.head? = some (.field name) := by
  unfold Entries.optional at h
  split at h
  · next v _ =>
      cases hcheck : check v with
      | ok a =>
          rw [hcheck] at h
          cases h
      | error js =>
          rw [hcheck] at h
          obtain rfl := Except.error.inj h
          intro i hi
          obtain ⟨j, _, rfl⟩ := List.mem_map.mp hi
          rfl
  · cases h

/-- Without a default expression there is no issue at one. -/
theorem reported_of_missing {es : Entries} (h : es.field? defaultExpressionName = none) :
    ∀ i ∈ reported (ofEntries es).outcome, i.path ≠ [.field defaultExpressionName] := by
  have elsewhere : ∀ {name : String} {i : Issue}, name ≠ defaultExpressionName →
      i.path.head? = some (.field name) → i.path ≠ [.field defaultExpressionName] := by
    intro name i different at_name same
    rw [same] at at_name
    exact different (Step.field.inj (Option.some.inj at_name)).symm
  rw [ofEntries_of_missing h]
  unfold ofVerdicts otherSettings
  cases hwarn : es.optional warnName true fun v => Checked.ofConversion v.toTruth with
  | ok w =>
      cases hworkers : es.optional workersName 0 fun v => Checked.ofConversion v.toCount with
      | ok n => exact List.forall_mem_nil _
      | error js =>
          exact fun i hi => elsewhere (by decide) (optional_issues hworkers i hi)
  | error is =>
      cases hworkers : es.optional workersName 0 fun v => Checked.ofConversion v.toCount with
      | ok n => exact fun i hi => elsewhere (by decide) (optional_issues hwarn i hi)
      | error js =>
          exact List.forall_mem_append.mpr
            ⟨fun i hi => elsewhere (by decide) (optional_issues hwarn i hi),
              fun i hi => elsewhere (by decide) (optional_issues hworkers i hi)⟩

/-! ## §5. Documents and files. -/

/-- The ways to make a configuration, where documents are read in some way. -/
inductive Making (read : DocumentReader) : Traced LogEntry Config → Prop where
  | entries (es : Entries) : Making read (ofEntries es)
  | document (text : List Char) : Making read (ofDocument read text)
  | file (f : File) : Making read (ofFile read f)

/-- A document either holds entries or cannot be used. -/
theorem entriesOfDocument_error {document : Value} {fault : Fault}
    (h : entriesOfDocument document = .error fault) : ∃ f, fault = .document f := by
  unfold entriesOfDocument at h
  repeat' split at h
  all_goals cases h
  all_goals exact ⟨_, rfl⟩

theorem ofDocument_eq (read : DocumentReader) (text : List Char) :
    (∃ fault, ofDocument read text = ⟨[], .error (.document fault)⟩)
      ∨ ∃ es, ofDocument read text = ofEntries es := by
  unfold ofDocument
  cases read text with
  | error fault => exact .inl ⟨fault, rfl⟩
  | ok document =>
      show (∃ fault, Traced.ofExcept (entriesOfDocument document) >>= ofEntries = _)
        ∨ ∃ es, Traced.ofExcept (entriesOfDocument document) >>= ofEntries = _
      cases h : entriesOfDocument document with
      | error fault =>
          obtain ⟨f, rfl⟩ := entriesOfDocument_error h
          exact .inl ⟨f, rfl⟩
      | ok es => exact .inr ⟨es, pure_bind es ofEntries⟩

/-- **Every way to make a configuration makes it from entries**, if it finds any. -/
theorem Making.eq {read : DocumentReader} {t : Traced LogEntry Config} (h : Making read t) :
    (∃ fault, t = ⟨[], .error (.document fault)⟩) ∨ ∃ es, t = ofEntries es := by
  cases h with
  | entries es => exact .inr ⟨es, rfl⟩
  | document text => exact ofDocument_eq read text
  | file f =>
      cases f with
      | missing => exact .inr ⟨[], by rw [ofEntries_of_missing rfl]; rfl⟩
      | directory => exact .inl ⟨_, rfl⟩
      | content bytes =>
          cases hbytes : Text.decodeUtf8 bytes with
          | error fault =>
              have unread : ofFile read (.content bytes)
                  = Traced.fail (.document (.notUtf8 fault)) := by
                simp only [ofFile, hbytes]
              exact .inl ⟨_, unread⟩
          | ok text =>
              have decoded : ofFile read (.content bytes)
                  = ofDocument read (unifyLineEnds text) := by
                simp only [ofFile, hbytes]
              rw [decoded]
              exact ofDocument_eq read _

theorem Making.events {read : DocumentReader} {t : Traced LogEntry Config} (h : Making read t) :
    ∀ entry ∈ t.events, entry.level = .debug := by
  rcases h.eq with ⟨fault, rfl⟩ | ⟨es, rfl⟩
  · exact List.forall_mem_nil _
  · exact ofEntries_events es

/-- The default expression of a configuration that was made can be read. -/
theorem Making.readable {read : DocumentReader} {t : Traced LogEntry Config} (h : Making read t)
    {c : Config} (hc : t.outcome = .ok c) {s : String} (hs : c.defaultExpression = some s) :
    ∃ e, (Expression.read (.text s)).outcome = .ok e := by
  rcases h.eq with ⟨fault, rfl⟩ | ⟨es, rfl⟩
  · cases hc
  · exact (ofEntries_eq_ok.mp hc).readable s hs

/-! ## §6. Sorting by a configuration. -/

/-- A default expression that can be read is not found malformed when it is sorted by. -/
theorem sort_of_readable {c : Config} {s : String} (hs : c.defaultExpression = some s)
    {e : Expression} (he : (Expression.read (.text s)).outcome = .ok e) (schedule : List Nat)
    (source : Source) :
    Run.FailsOnly Fault.NoVerdict
      ((BoundSorter.ofConfig c).sort schedule source (.written .null) ([] : Extractors σ)) := by
  have given : Criterion.written (.text s) ≠ .written .null := fun h => nomatch h
  have unextracted : ∀ f, ([] : Extractors σ).lookup f = none := fun _ => rfl
  -- it does not matter how many workers there are, so one may be assumed
  have alike : Run.Alike (sortBy source (.written (.text s)) ([] : Extractors σ))
      ((BoundSorter.ofConfig c).sort schedule source (.written (.text s)) []) :=
    BoundSorter.sort_alike (fun _ _ _ _ => rfl) given fun e records _ _ _ _ =>
      .of_readings fun f _ r _ => (forField_failsOnly (unextracted f) r).mono fun _ h =>
        h.endsIteration
  have read : ((Criterion.written (.text s)).read Sorter.standard.parser).outcome = .ok e := he
  have serial : Run.FailsOnly Fault.NoVerdict
      (sortBy source (.written (.text s)) ([] : Extractors σ)) :=
    Sorter.sort_failsOnly_noVerdict read Sorter.isConcurrent_standard
      (fun f r => (forField_failsOnly (unextracted f) r).mono fun _ h => h.noVerdict) [] source
  rw [BoundSorter.sort_of_default hs]
  intro st fault hfault
  exact serial st fault ((alike.outcome st st).trans hfault)

end Config

/-- **A configuration that is made can be used.**

Entries make a configuration iff the settings convert, to a number of workers that is not
negative and to a default expression that can be read or is absent.  A text that is added as
the default expression is rejected iff it is malformed; it then adds one issue, with the
reason, and takes none away, and otherwise it adds none and becomes the default expression.
However documents are read, documents and files make configurations from entries, if they hold
any; no way to make one logs a warning; and sorting by what was made, without an expression, finds the expression
malformed or missing iff the configuration has none. -/
theorem config_usable (σ : Type) (read : DocumentReader) :
    (∀ es c, (Config.ofEntries es).outcome = .ok c ↔ Config.Accepts es c)
      ∧ (∀ d es es', Config.Adds Config.defaultExpressionName (.text d) es es' →
          ((∃ i ∈ Config.reported (Config.ofEntries es').outcome,
              i.path = [.field Config.defaultExpressionName])
            ↔ ∃ v reason, (Expression.read (.text d)).outcome = .error (.malformed v reason))
          ∧ (∀ v reason, (Expression.read (.text d)).outcome = .error (.malformed v reason) →
              (Config.ofEntries es').outcome
                  = .error (.invalid (⟨[.field Config.defaultExpressionName],
                      .defaultExpression reason⟩ :: Config.reported (Config.ofEntries es).outcome))
                ∧ (Rejection.defaultExpression reason).message
                  = "Value error, invalid default_expression: " ++ reason.text)
          ∧ ∀ e, (Expression.read (.text d)).outcome = .ok e →
              (Config.ofEntries es').outcome
                = (fun c => { c with defaultExpression := some d }) <$> (Config.ofEntries es).outcome)
      ∧ ∀ t, Config.Making read t →
          ((∃ fault, t = ⟨[], .error (.document fault)⟩) ∨ ∃ es, t = Config.ofEntries es)
          ∧ (∀ entry ∈ t.events, entry.level = .debug)
          ∧ ∀ c, t.outcome = .ok c →
              (∀ s, c.defaultExpression = some s →
                ∃ e, (Expression.read (.text s)).outcome = .ok e)
              ∧ ∀ (schedule : List Nat) (source : Source) (st : σ),
                (∃ v reason, ((BoundSorter.ofConfig c).sort schedule source (.written .null)
                    ([] : Extractors σ)).outcome st = .error (.malformed v reason))
                  ↔ c.defaultExpression = none := by
  refine ⟨fun _ _ => Config.ofEntries_eq_ok, fun d es es' adds => ?_, fun t making => ?_⟩
  · have elsewhere := Config.reported_of_missing adds.missing
    rcases read_or_malformed d with ⟨e, he⟩ | ⟨reason, hreason⟩
    · have added := Config.ofEntries_of_adds_read adds he
      refine ⟨iff_of_false ?_ ?_, fun _ _ h => ?_, fun _ _ => added⟩
      · rw [added, Config.reported_map]
        rintro ⟨i, hi, at_default⟩
        exact elsewhere i hi at_default
      · rw [he]
        rintro ⟨_, _, h⟩
        cases h
      · rw [he] at h
        cases h
    · have added := Config.ofEntries_of_adds_malformed adds hreason
      refine ⟨iff_of_true ?_ ⟨_, reason, hreason⟩, fun _ reason' h => ?_, fun _ h => ?_⟩
      · rw [added]
        exact ⟨_, List.mem_cons_self, rfl⟩
      · rw [hreason] at h
        cases h
        exact ⟨added, rfl⟩
      · rw [hreason] at h
        cases h
  · refine ⟨making.eq, making.events, fun c hc => ⟨fun s hs => making.readable hc hs, ?_⟩⟩
    intro schedule source st
    constructor
    · rintro ⟨v, reason, h⟩
      by_contra given
      obtain ⟨s, hs⟩ := Option.ne_none_iff_exists'.mp given
      obtain ⟨e, he⟩ := making.readable hc hs
      -- what is malformed is a verdict, and no phase behind the first passes one
      have noVerdict := Config.sort_of_readable hs he schedule source st _ h
      cases noVerdict
    · intro unset
      refine ⟨.null, .noExpression, ?_⟩
      show ((BoundSorter.ofConfig c).sort schedule source (.written .null)
        ([] : Extractors σ) st).1.outcome = _
      rw [BoundSorter.sort_of_no_default unset]

/-- A document with a default expression. -/
def settingsText : List Char := "sorter:\n  default_expression: a DESC\n".toList

/-- A reader that knows this document. -/
def readSettings : DocumentReader := fun text =>
  if text = settingsText then
    .ok (.dict [(.text Config.sectionName, .dict [(.text Config.defaultExpressionName, .text "a DESC")])])
  else .error .malformed

/-- A default expression with an empty group and a negative number of workers are both
reported, each where it is; and a sort by the configuration of the document does not find its
expression malformed. -/
theorem config_usable_twoIssues :
    Config.Adds Config.defaultExpressionName (.text "a,,b") [(.text Config.workersName, .int (-1))]
        [(.text Config.defaultExpressionName, .text "a,,b"), (.text Config.workersName, .int (-1))]
      ∧ (Config.ofEntries [(.text Config.defaultExpressionName, .text "a,,b"),
          (.text Config.workersName, .int (-1))]).outcome
        = .error (.invalid [⟨[.field Config.defaultExpressionName], .defaultExpression (.emptyGroup 2)⟩,
            ⟨[.field Config.workersName], .negative⟩])
      ∧ (Config.ofDocument readSettings settingsText).outcome
        = .ok { defaultExpression := some "a DESC" }
      ∧ ∀ (schedule : List Nat) (source : Source),
          ¬ ∃ v reason, ((BoundSorter.ofConfig { defaultExpression := some "a DESC" }).sort schedule
            source (.written .null) ([] : Extractors Unit)).outcome () = .error (.malformed v reason) := by
  have adds : Config.Adds Config.defaultExpressionName (.text "a,,b")
      [(.text Config.workersName, .int (-1))]
      [(.text Config.defaultExpressionName, .text "a,,b"), (.text Config.workersName, .int (-1))] :=
    .cons rfl _
  have unread : (Expression.read (.text "a,,b")).outcome
      = .error (.malformed (.text "a,,b") (.emptyGroup 2)) := rfl
  have made : (Config.ofDocument readSettings settingsText).outcome
      = .ok { defaultExpression := some "a DESC" } := rfl
  obtain ⟨_, adding, making⟩ := config_usable Unit readSettings
  refine ⟨adds, ((adding "a,,b" _ _ adds).2.1 _ _ unread).1, made, fun schedule source => ?_⟩
  have sorting := ((making _ (.document settingsText)).2.2 _ made).2 schedule source ()
  exact fun malformed => nomatch sorting.mp malformed

end OrderBy
