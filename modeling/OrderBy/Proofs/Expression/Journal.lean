/-
  OrderBy.Proofs.Expression.Journal
  ─────────────────────────────────
  **WHAT READING AN EXPRESSION LEAVES IN THE LOG.**

  All groups are cut off before the first key is made.  So nothing is logged about an
  expression that is malformed, and about one that is read there is

      a warning for each unknown direction token, in the order of the groups,
      and then one line with the expression and its canonical form

  A token is unknown if its upper case is the name of no direction.  The direction of a
  key is found by another test, whether the upper case is DESC; both agree on every token.
-/
import OrderBy.Proofs.Expression.Verdict
import OrderBy.Proofs.Expression.Warnings

namespace OrderBy

open Text

/-! ## §1. Unknown tokens. -/

/-- A token that names no direction: its upper case is neither ASC nor DESC. -/
def IsUnknown (token : String) : Prop :=
  upperCase token.toList ≠ ['A', 'S', 'C'] ∧ upperCase token.toList ≠ ['D', 'E', 'S', 'C']

instance (token : String) : Decidable (IsUnknown token) :=
  inferInstanceAs (Decidable (_ ∧ _))

/-- The test for warnings finds the unknown tokens. -/
theorem isKnownToken_iff (token : String) :
    Direction.isKnownToken token = true ↔ ¬ IsUnknown token := by
  have named : ∀ name : String, (String.ofList (upperCase token.toList) == name) = true
      ↔ upperCase token.toList = name.toList := by
    intro name
    rw [beq_iff_eq, ← String.toList_inj, String.toList_ofList]
  have asc : "ASC".toList = ['A', 'S', 'C'] := by decide
  have desc : "DESC".toList = ['D', 'E', 'S', 'C'] := by decide
  unfold Direction.isKnownToken Direction.named? Direction.ofName? IsUnknown
  simp only [named, asc, desc]
  by_cases ascending : upperCase token.toList = ['A', 'S', 'C']
  · simp [ascending]
  · by_cases descending : upperCase token.toList = ['D', 'E', 'S', 'C']
    · simp [descending]
    · simp [ascending, descending]

/-- The warning that some tokens deserve: the second is unknown, and the first is the field
that it is for. -/
def unknownDirection? (v : Value) : List String → Option LogEntry
  | field :: token :: _ => if IsUnknown token then some (.unknownDirection token field v) else none
  | _ => none

/-- The warning of a group is that of its tokens. -/
theorem Group.warning?_ofFirst (v : Value) (tokens : List String) :
    (ofFirst tokens).warning? v = unknownDirection? v tokens := by
  match tokens with
  | [] => rfl
  | [_] => rfl
  | field :: token :: more =>
      show (if Direction.isKnownToken token then none else _) = (if IsUnknown token then _ else _)
      by_cases unknown : IsUnknown token
      · rw [if_pos unknown, if_neg fun known => (isKnownToken_iff token).mp known unknown]
        rfl
      · rw [if_neg unknown, if_pos ((isKnownToken_iff token).mpr unknown)]

/-- The warnings about some tokens. -/
theorem Parser.warnings_ofFirst (p : Parser) (v : Value) (tokens : List (List String)) :
    p.warnings v (tokens.map Group.ofFirst)
      = if p.warn then tokens.filterMap (unknownDirection? v) else [] := by
  unfold Parser.warnings
  rw [List.filterMap_map]
  exact congrArg (if p.warn then List.filterMap · tokens else [])
    (funext fun ts => Group.warning?_ofFirst v ts)

/-! ## §2. Directions. -/

/-- The direction of a key agrees with the test for warnings: it ascends if its direction
token is unknown, and otherwise its direction is the one that the token names. -/
def SortKey.AgreesWith (tokens : List String) (k : SortKey) : Prop :=
  ∀ token, tokens[1]? = some token →
    (IsUnknown token → k.direction = .ascending)
      ∧ (¬ IsUnknown token → upperCase token.toList = k.direction.name.toList)

/-- **The key of some tokens agrees with the test for warnings.** -/
theorem SortKey.OfTokens.agreesWith {tokens : List String} {k : SortKey}
    (h : SortKey.OfTokens tokens k) : k.AgreesWith tokens := by
  intro token htoken
  cases h with
  | alone _ _ => cases htoken
  | @directed _ second _ _ _ descending =>
      obtain rfl : token = second := (Option.some.inj htoken).symm
      constructor
      · intro unknown
        cases hd : k.direction with
        | ascending => rfl
        | descending => exact absurd (descending.mp hd) unknown.2
      · intro known
        cases hd : k.direction with
        | descending => exact descending.mp hd
        | ascending =>
            -- the upper case is one of the two names, and it is not DESC
            have notDesc : upperCase token.toList ≠ ['D', 'E', 'S', 'C'] := fun desc =>
              Direction.noConfusion (hd.symm.trans (descending.mpr desc))
            exact Decidable.byContradiction fun notAsc => known ⟨notAsc, notDesc⟩

/-! ## §3. The log of a reading. -/

/-- **The log of a reading is exact.**  Nothing is logged about a malformed value; about a
text that is read, its warnings if they are wanted, and then the line of the expression.
Every key agrees with its warning, and whether warnings are wanted decides nothing else. -/
theorem parse_logs (p : Parser) (v : Value) :
    (∀ w reason, (p.parse v).outcome = .error (.malformed w reason) → (p.parse v).events = [])
      ∧ (∀ e, (p.parse v).outcome = .ok e →
          ∃ tokens, p.Cuts v e.text tokens
            ∧ (p.parse v).events
              = (if p.warn then tokens.filterMap (unknownDirection? v) else [])
                ++ [.parsed v e.canonical]
            ∧ List.Forall₂ (fun ts k => SortKey.AgreesWith ts k) tokens e.keys)
      ∧ ∀ warn, ({ p with warn := warn }.parse v).outcome = (p.parse v).outcome := by
  obtain ⟨result, decides⟩ := p.exists_decides v
  have hparse := decides.outcome
  refine ⟨?_, ?_, ?_⟩
  · intro w reason h
    obtain rfl := h.symm.trans hparse
    rw [decides.parse_malformed]
  · intro e h
    obtain rfl := h.symm.trans hparse
    cases decides with
    | keys cuts all hkeys =>
        refine ⟨_, cuts, ?_, hkeys.imp fun _ _ has => has.agreesWith⟩
        rw [cuts.parse_keys all hkeys, p.warnings_ofFirst]
  · intro warn
    have grammar : ({ p with warn := warn } : Parser).SameGrammar p := ⟨rfl, rfl⟩
    exact (grammar.parse v).outcome

end OrderBy
