/-
  OrderBy.Proofs.Expression.Reading
  ─────────────────────────────────
  **FROM THE GROUPS OF A TEXT TO ITS KEYS.**

  Once a text has been cut into groups, reading it is a walk over them that logs
  the warnings and collects the keys.  Where every group makes a key, the walk is
  known in full:

      parse v  =  the warnings of the groups, the line of the expression;
                  the expression with the text of v and one key per group

  and where the text cannot be cut, nothing is logged and the fault is that of
  the cut.
-/
import OrderBy.Expression.Parser
import OrderBy.Proofs.Outcome
import Mathlib.Data.List.Forall2

namespace OrderBy

/-! ## §1. Reading groups. -/

/-- Some tokens make a group if there is one and not more than allowed. -/
theorem Group.ofTokens_eq_ok {maxTokens : Int} {position : Nat} {tokens : List String}
    {g : Group} :
    Group.ofTokens maxTokens position tokens = .ok g
      ↔ ∃ field more, tokens = field :: more ∧ more.length + 1 ≤ maxTokens
          ∧ ⟨field, more.head?⟩ = g := by
  cases tokens with
  | nil =>
      constructor
      · intro h
        cases h
      · intro h
        obtain ⟨_, _, h, _⟩ := h
        cases h
  | cons field more =>
      show (if maxTokens < more.length + 1 then _ else _) = _ ↔ _
      by_cases hmax : maxTokens < more.length + 1
      · rw [if_pos hmax]
        constructor
        · intro h
          cases h
        · intro h
          obtain ⟨_, _, h, fits, _⟩ := h
          obtain ⟨rfl, rfl⟩ := List.cons.inj h
          omega
      · rw [if_neg hmax]
        constructor
        · intro h
          exact ⟨field, more, rfl, by omega, Except.ok.inj h⟩
        · intro h
          obtain ⟨_, _, h, _, rfl⟩ := h
          obtain ⟨rfl, rfl⟩ := List.cons.inj h
          rfl

/-- Where there is something to cut and to cut at, the groups are those of the pieces
and everything that is wrong with them makes the expression malformed. -/
theorem Parser.groups_eq {p : Parser} {expression : Value} {text : List Char}
    (hblank : Text.allBlank text = false) (hsep : p.separator.isEmpty = false) :
    p.groups expression text
      = (Group.ofPieces p.maxTokens 1 (Text.pieces p.separator.toList text)).mapError
          (Fault.malformed expression) := by
  unfold Parser.groups
  rw [if_neg (Bool.eq_false_iff.mp hblank), if_neg (Bool.eq_false_iff.mp hsep)]
  cases Group.ofPieces p.maxTokens 1 (Text.pieces p.separator.toList text) <;> rfl

/-- The warnings that a parser logs about some groups of an expression. -/
def Parser.warnings (p : Parser) (expression : Value) (gs : List Group) : List LogEntry :=
  if p.warn then gs.filterMap (Group.warning? expression) else []

theorem Parser.warnings_cons (p : Parser) (expression : Value) (g : Group) (gs : List Group) :
    p.warnings expression (g :: gs) = p.warnings expression [g] ++ p.warnings expression gs := by
  unfold Parser.warnings
  cases p.warn with
  | false => rfl
  | true =>
      show ([g] ++ gs).filterMap _ = [g].filterMap _ ++ gs.filterMap _
      rw [List.filterMap_append]

/-- Reading a group logs its warning, whether or not it makes a key. -/
theorem Parser.readGroup_eq (p : Parser) (expression : Value) (g : Group) :
    p.readGroup expression g = ⟨p.warnings expression [g], g.key⟩ := by
  have single : p.warnings expression [g]
      = (if p.warn then g.warning? expression else none).toList := by
    unfold Parser.warnings
    cases p.warn with
    | false => rfl
    | true =>
        show List.filterMap _ [g] = (g.warning? expression).toList
        cases hw : g.warning? expression with
        | none => exact List.filterMap_cons_none hw
        | some entry => exact List.filterMap_cons_some hw
  -- what is logged first is the warning or nothing, and the key follows in both cases
  rw [single]
  unfold Parser.readGroup
  cases (if p.warn then g.warning? expression else none) with
  | none => rfl
  | some entry => exact Traced.bind_ok (by exact rfl) _

/-- Groups that all make a key are read to the end. -/
theorem Parser.readGroups_of_keys (p : Parser) (expression : Value) {gs : List Group}
    {ks : List SortKey} (h : List.Forall₂ (fun g k => g.key = .ok k) gs ks) :
    p.readGroups expression gs = ⟨p.warnings expression gs, .ok ks⟩ := by
  induction h with
  | nil =>
      unfold Parser.warnings
      rw [List.filterMap_nil, ite_self]
      rfl
  | @cons g k gs ks hk _ ih =>
      have first : (p.readGroup expression g).outcome = .ok k := by
        rw [p.readGroup_eq, hk]
      show p.readGroup expression g >>= _ = _
      have others : (p.readGroups expression gs >>= fun ks => pure (k :: ks))
          = ⟨p.warnings expression gs, .ok (k :: ks)⟩ := by
        rw [Traced.bind_ok (a := ks) (by rw [ih]), ih]
        exact congrArg (Traced.mk · _) (List.append_nil _)
      rw [Traced.bind_ok first, others, p.readGroup_eq, p.warnings_cons expression g gs]

/-! ## §2. Reading expressions. -/

variable {p : Parser} {expression : Value} {text : String}

/-- **A text whose groups all make a key is read.** -/
theorem Parser.parse_of_groups {gs : List Group} {ks : List SortKey}
    (htext : expression.text? = some text) (hgroups : p.groups expression text.toList = .ok gs)
    (hkeys : List.Forall₂ (fun g k => g.key = .ok k) gs ks) (hne : ks ≠ []) :
    p.parse expression
      = ⟨p.warnings expression gs ++ [.parsed expression (Expression.renderKeys ks)],
          .ok ⟨text, ks, hne⟩⟩ := by
  -- the groups are cut off, then their keys are read, and some keys make an expression
  have keysRead := p.readGroups_of_keys expression hkeys
  have made : Expression.ofKeys text ks = .ok ⟨text, ks, hne⟩ := dif_pos hne
  unfold Parser.parse
  rw [htext]
  show (Traced.ofExcept (p.groups expression text.toList) >>= _) = _
  rw [hgroups, Traced.bind_ok (by exact rfl), Traced.bind_ok (a := ks) (by rw [keysRead]), keysRead,
    made, Traced.bind_ok (by exact rfl)]
  rfl

/-- A text that cannot be cut into groups is not read, and nothing is logged. -/
theorem Parser.parse_of_error {fault : Fault} (htext : expression.text? = some text)
    (hgroups : p.groups expression text.toList = .error fault) :
    p.parse expression = ⟨[], .error fault⟩ := by
  unfold Parser.parse
  rw [htext]
  show (Traced.ofExcept (p.groups expression text.toList) >>= _) = _
  rw [hgroups]
  exact Traced.bind_error rfl _

end OrderBy
