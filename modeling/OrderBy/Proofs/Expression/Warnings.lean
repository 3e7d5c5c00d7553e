/-
  OrderBy.Proofs.Expression.Warnings
  ──────────────────────────────────
  **WHETHER WARNINGS ARE LOGGED DECIDES NOTHING ELSE.**

  Two parsers that cut at the same separator and allow as many tokens read every
  value alike, up to warnings:

      the same expression or fault,    the same lines that are no warnings

  Warnings are logged while groups are read, one group after the other.  So what is
  compared below are computations, and reading alike is passed on by sequencing.
-/
import OrderBy.Proofs.Expression.Reading
import OrderBy.Sorter

namespace OrderBy

variable {α β : Type}

/-! ## §1. Computations that differ in warnings. -/

/-- Whether a line of the log is no warning. -/
def LogEntry.isPlain (entry : LogEntry) : Bool := entry.level != .warning

/-- Two computations end alike and log the same lines, warnings left out. -/
structure Traced.SameButWarnings (t t' : Traced LogEntry α) : Prop where
  outcome : t.outcome = t'.outcome
  plain : t.events.filter LogEntry.isPlain = t'.events.filter LogEntry.isPlain

namespace Traced.SameButWarnings

theorem refl (t : Traced LogEntry α) : t.SameButWarnings t := ⟨rfl, rfl⟩

/-- **Differing in warnings is passed on by sequencing.** -/
theorem bind {t t' : Traced LogEntry α} {f f' : α → Traced LogEntry β}
    (h : t.SameButWarnings t') (k : ∀ a, (f a).SameButWarnings (f' a)) :
    (t >>= f).SameButWarnings (t' >>= f') := by
  cases ht : t.outcome with
  | error fault =>
      rw [bind_error ht, bind_error (h.outcome.symm.trans ht)]
      exact ⟨rfl, h.plain⟩
  | ok a =>
      rw [bind_ok ht, bind_ok (h.outcome.symm.trans ht)]
      refine ⟨(k a).outcome, ?_⟩
      rw [List.filter_append, List.filter_append, h.plain, (k a).plain]

end Traced.SameButWarnings

/-! ## §2. Parsers of one grammar. -/

/-- Two parsers cut at the same separator and allow as many tokens in a group. -/
structure Parser.SameGrammar (p p' : Parser) : Prop where
  separator : p.separator = p'.separator
  maxTokens : p.maxTokens = p'.maxTokens

variable {p p' : Parser}

/-- Such parsers cut a text into the same groups. -/
theorem Parser.SameGrammar.groups (h : p.SameGrammar p') (expression : Value)
    (text : List Char) : p.groups expression text = p'.groups expression text := by
  unfold Parser.groups
  rw [h.separator, h.maxTokens]

/-- The warnings of a parser are warnings. -/
theorem Parser.warnings_filter (p : Parser) (expression : Value) (gs : List Group) :
    (p.warnings expression gs).filter LogEntry.isPlain = [] := by
  refine List.filter_eq_nil_iff.mpr (fun entry hentry => ?_)
  unfold Parser.warnings at hentry
  cases hwarn : p.warn with
  | false =>
      rw [hwarn] at hentry
      cases hentry
  | true =>
      rw [hwarn, if_pos rfl] at hentry
      obtain ⟨g, _, hg⟩ := List.mem_filterMap.mp hentry
      unfold Group.warning? at hg
      -- only a token that is not known makes a line, and that line is a warning
      split at hg
      · split at hg
        · cases hg
        · obtain rfl := Option.some.inj hg
          exact Bool.false_ne_true
      · cases hg

/-- Any two parsers read a group alike. -/
theorem Parser.readGroup_sameButWarnings (p p' : Parser) (expression : Value) (g : Group) :
    (p.readGroup expression g).SameButWarnings (p'.readGroup expression g) := by
  rw [p.readGroup_eq, p'.readGroup_eq]
  exact ⟨rfl, (p.warnings_filter expression [g]).trans (p'.warnings_filter expression [g]).symm⟩

/-- So they read any groups alike. -/
theorem Parser.readGroups_sameButWarnings (p p' : Parser) (expression : Value) :
    ∀ gs : List Group,
      (p.readGroups expression gs).SameButWarnings (p'.readGroups expression gs)
  | [] => .refl _
  | g :: gs =>
      (readGroup_sameButWarnings p p' expression g).bind fun _ =>
        (readGroups_sameButWarnings p p' expression gs).bind fun _ => .refl _

/-- **Parsers of one grammar read every value alike, up to warnings.** -/
theorem Parser.SameGrammar.parse (h : p.SameGrammar p') (v : Value) :
    (p.parse v).SameButWarnings (p'.parse v) := by
  unfold Parser.parse
  cases v.text? with
  | none => exact .refl _
  | some text =>
      show Traced.SameButWarnings (Traced.ofExcept (p.groups v text.toList) >>= _)
        (Traced.ofExcept (p'.groups v text.toList) >>= _)
      rw [h.groups]
      exact (Traced.SameButWarnings.refl _).bind fun gs =>
        (Parser.readGroups_sameButWarnings p p' v gs).bind fun _ => .refl _

/-- They read every criterion alike. -/
theorem Parser.SameGrammar.read (h : p.SameGrammar p') :
    ∀ criterion : Criterion, (criterion.read p).SameButWarnings (criterion.read p')
  | .parsed _ => .refl _
  | .written v => h.parse v

end OrderBy
