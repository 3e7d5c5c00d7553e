/-
  OrderBy.Proofs.Sorting.Answered
  ───────────────────────────────
  **WHAT A SORT TELLS ABOUT THE QUESTIONS THAT IT ASKED.**

  Questions may be refused, and a sort that meets a refusal ends with it.  Three things
  follow from how the sort goes on:

      it returns            every two neighbours in the output were placed by an answer
      the input is a chain  one question about every two neighbours, and nothing moves
      a prefix is refused   so is the whole list, with the same fault

  For the first, what a sort that returns was not told does not matter: had each refused
  question been answered, by yes or by no, the output would be the same.  Neighbours that
  nobody had asked about would be out of order under one of the two.
-/
import OrderBy.Proofs.Sorting.ByPosition

namespace OrderBy.BinaryInsertion

variable {ω α : Type} {before : α → α → Traced ω Bool} {xs out : List α}

/-! ## §1. A sort that returns. -/

/-- The answer to a question, and the given one in place of a refusal. -/
def answerOr (instead : Bool) (t : Traced ω Bool) : Bool :=
  match t.outcome with
  | .ok answer => answer
  | .error _ => instead

/-- The simulation of computations that succeed by their results. -/
def Simulation.succeeding (ω : Type) : Simulation (Traced ω) Id where
  rel Q t u := ∀ b, t.outcome = .ok b → Id.run u = b ∧ Q b
  rel_pure {_ _ b} hb _ h := by
    obtain rfl := Except.ok.inj h
    exact ⟨rfl, hb⟩
  rel_bind ht hf c h := by
    obtain ⟨b, hb, hc⟩ := Traced.outcome_bind_eq_ok h
    obtain ⟨rfl, hQ⟩ := ht b hb
    exact hf _ hQ c hc
  rel_mono h k b hb := ⟨(h b hb).1, k b (h b hb).2⟩

/-- A sort that returns gives what it would give if no question were refused. -/
theorem sorted_of_outcome (instead : Bool) (h : (sort before xs).outcome = .ok out) :
    sorted (fun x y => answerOr instead (before x y)) xs = out := by
  have asks : ∀ x y : α, (Simulation.succeeding ω).Asks before
      (fun x y => pure (answerOr instead (before x y))) x y := by
    intro x y answer hanswer
    refine ⟨?_, trivial⟩
    show answerOr instead (before y x) = answer
    unfold answerOr
    rw [hanswer]
  exact ((Simulation.succeeding ω).sort (List.pairwise_of_forall asks) out h).1

/-- One item stands in front of another because of an answer about the two, of which `E`
tells the earlier. -/
def PlacedBy (before : α → α → Traced ω Bool) (E : α → α → Prop) (x y : α) : Prop :=
  (E x y ∧ (before y x).outcome = .ok false) ∨ (E y x ∧ (before x y).outcome = .ok true)

/-- The same if refusals counted as an answer. -/
def PlacedByOr (instead : Bool) (before : α → α → Traced ω Bool) (E : α → α → Prop) (x y : α) :
    Prop :=
  (E x y ∧ answerOr instead (before y x) = false) ∨ (E y x ∧ answerOr instead (before x y) = true)

/-- What is placed whether refusals count as yes or as no is placed by an answer. -/
theorem placedBy_of_either {E : α → α → Prop} (asymm : ∀ {x y}, E x y → ¬ E y x) {x y : α}
    (yes : PlacedByOr true before E x y) (no : PlacedByOr false before E x y) :
    PlacedBy before E x y := by
  unfold PlacedByOr answerOr at yes no
  rcases yes with ⟨hE, hyes⟩ | ⟨hE, _⟩
  · -- counted as yes, a refusal would have moved the later item to the front
    left
    refine ⟨hE, ?_⟩
    cases ho : (before y x).outcome with
    | ok answer =>
        rw [ho] at hyes
        exact congrArg _ hyes
    | error fault =>
        rw [ho] at hyes
        cases hyes
  · rcases no with ⟨hE', _⟩ | ⟨_, hno⟩
    · exact absurd hE' (asymm hE)
    · right
      refine ⟨hE, ?_⟩
      cases ho : (before x y).outcome with
      | ok answer =>
          rw [ho] at hno
          exact congrArg _ hno
      | error fault =>
          rw [ho] at hno
          cases hno

/-- **A sort that returns has an answer about every two neighbours of its output.** -/
theorem isChain_of_outcome {E : α → α → Prop} (asymm : ∀ {x y}, E x y → ¬ E y x)
    (hE : xs.Pairwise E) (h : (sort before xs).outcome = .ok out) :
    out.IsChain (PlacedBy before E) := by
  have chain : ∀ instead, out.IsChain (PlacedByOr instead before E) := by
    intro instead
    rw [← sorted_of_outcome instead h]
    refine sorted_isChain (hE.imp fun {earlier later} hE => ?_)
    exact ⟨fun first => .inr ⟨hE, first⟩, fun second => .inl ⟨hE, second⟩⟩
  have yes := List.isChain_iff_getElem.mp (chain true)
  have no := List.isChain_iff_getElem.mp (chain false)
  exact List.isChain_iff_getElem.mpr fun i hi => placedBy_of_either asymm (yes i hi) (no i hi)

/-! ## §2. What is in order already. -/

/-- No item of a list comes before the one in front of it, and no such question is
refused. -/
def Unmoved (before : α → α → Traced ω Bool) (xs : List α) : Prop :=
  xs.IsChain (fun x y => (before y x).outcome = .ok false)

/-- The events of asking of each item whether it comes before the one in front of it. -/
def neighbourEvents (before : α → α → Traced ω Bool) (xs : List α) : List ω :=
  (xs.zip xs.tail).flatMap (fun p => (before p.2 p.1).events)

/-- A run in which no item goes before its predecessor extends to the end. -/
theorem extendRun_of_unmoved : ∀ {last : α} {items : List α}, Unmoved before (last :: items) →
    extendRun before false last items
      = ⟨neighbourEvents before (last :: items), .ok (items, [])⟩
  | _, [], _ => rfl
  | last, x :: rest, h => by
      obtain ⟨first, others⟩ := List.isChain_cons_cons.mp h
      unfold extendRun
      rw [Traced.bind_ok first, beq_self_eq_true, if_pos rfl, extendRun_of_unmoved others]
      show (⟨(before x last).events ++ (neighbourEvents before (x :: rest) ++ []), _⟩ : Traced ω _) = _
      rw [List.append_nil]
      rfl

/-- **A list in which no item goes before its predecessor stays as it is**, and one
question is asked about every two neighbours. -/
theorem sort_of_unmoved (h : Unmoved before xs) :
    sort before xs = ⟨neighbourEvents before xs, .ok xs⟩ := by
  match xs, h with
  | [], _ => rfl
  | [x], _ => rfl
  | x :: y :: rest, h =>
      obtain ⟨first, others⟩ := List.isChain_cons_cons.mp h
      have run : firstRun before x y rest
          = ⟨neighbourEvents before (x :: y :: rest), .ok (x :: y :: rest, [])⟩ := by
        unfold firstRun
        rw [Traced.bind_ok first, extendRun_of_unmoved others]
        show (⟨(before y x).events ++ (neighbourEvents before (y :: rest) ++ []), _⟩ : Traced ω _) = _
        rw [List.append_nil]
        rfl
      -- nothing is left to insert
      show firstRun before x y rest >>= (fun p => insertAll before p.1 p.2) = _
      rw [run]
      show (⟨neighbourEvents before (x :: y :: rest) ++ [], _⟩ : Traced ω _) = _
      rw [List.append_nil]

/-- So it does where nothing but the answers counts. -/
theorem sorted_of_isChain {lt : α → α → Bool} (h : xs.IsChain (fun x y => lt y x = false)) :
    sorted lt xs = xs := by
  have answered : (sort (fun x y => (pure (lt x y) : Traced Unit Bool)) xs).outcome
      = .ok (sorted lt xs) := sort_of_answered (List.pairwise_of_forall fun _ _ => rfl)
  have unmoved : Unmoved (fun x y => (pure (lt x y) : Traced Unit Bool)) xs :=
    h.imp fun {_ _} hxy => congrArg Except.ok hxy
  rw [sort_of_unmoved unmoved] at answered
  exact (Except.ok.inj answered).symm

/-! ## §3. A prefix that is refused. -/

/-- What is inserted is inserted item by item. -/
theorem insertAll_append {m : Type → Type} [Monad m] [LawfulMonad m] (before : α → α → m Bool)
    (more : List α) : ∀ items sorted : List α,
      insertAll before sorted (items ++ more)
        = insertAll before sorted items >>= fun out => insertAll before out more
  | [], sorted => by rw [List.nil_append, insertAll, pure_bind]
  | x :: items, sorted => by
      rw [List.cons_append, insertAll, insertAll, bind_assoc]
      exact bind_congr fun sorted' => insertAll_append before more items sorted'

/-- A run that ends within the first items does not notice what is behind them. -/
theorem extendRun_append {descending : Bool} (more : List α) :
    ∀ {last : α} {items : List α},
      (∀ run, (extendRun before descending last items).outcome ≠ .ok (run, [])) →
      (extendRun before descending last (items ++ more)).outcome
        = (fun p => (p.1, p.2 ++ more)) <$> (extendRun before descending last items).outcome
  | last, [], h => absurd rfl (h [])
  | last, x :: rest, h => by
      rw [List.cons_append]
      unfold extendRun at h ⊢
      rw [Traced.outcome_bind, Traced.outcome_bind]
      cases ho : (before x last).outcome with
      | error fault => rfl
      | ok answer =>
          rw [Traced.outcome_bind, ho] at h
          by_cases hd : (answer == descending) = true
          · -- the run goes on, and ends later within the first items
            have ends : ∀ run, (extendRun before descending x rest).outcome ≠ .ok (run, []) := by
              intro run hrun
              refine h (x :: run) ?_
              show (if (answer == descending) = true then _ else _ : Traced ω _).outcome = _
              rw [if_pos hd, Traced.outcome_bind, hrun]
              rfl
            show (if (answer == descending) = true then _ else _ : Traced ω _).outcome
              = _ <$> (if (answer == descending) = true then _ else _ : Traced ω _).outcome
            rw [if_pos hd, if_pos hd, Traced.outcome_bind, Traced.outcome_bind,
              extendRun_append more ends]
            cases (extendRun before descending x rest).outcome <;> rfl
          · show (if (answer == descending) = true then _ else _ : Traced ω _).outcome
              = _ <$> (if (answer == descending) = true then _ else _ : Traced ω _).outcome
            rw [if_neg hd, if_neg hd]
            rfl

/-- The same of the first run. -/
theorem firstRun_append (more : List α) {x y : α} {rest : List α}
    (h : ∀ run, (firstRun before x y rest).outcome ≠ .ok (run, [])) :
    (firstRun before x y (rest ++ more)).outcome
      = (fun p => (p.1, p.2 ++ more)) <$> (firstRun before x y rest).outcome := by
  unfold firstRun at h ⊢
  rw [Traced.outcome_bind, Traced.outcome_bind]
  cases ho : (before y x).outcome with
  | error fault => rfl
  | ok descending =>
      rw [Traced.outcome_bind, ho] at h
      have ends : ∀ run, (extendRun before descending y rest).outcome ≠ .ok (run, []) := by
        intro run hrun
        refine h (if descending then (x :: y :: run).reverse else x :: y :: run) ?_
        show (extendRun before descending y rest >>= _).outcome = _
        rw [Traced.outcome_bind, hrun]
        rfl
      show (extendRun before descending y (rest ++ more) >>= _).outcome
        = _ <$> (extendRun before descending y rest >>= _).outcome
      rw [Traced.outcome_bind, Traced.outcome_bind, extendRun_append more ends]
      cases (extendRun before descending y rest).outcome <;> rfl

/-- **What is refused while a prefix is sorted is refused in the sort of the whole.** -/
theorem sort_append_of_error {fault : Fault} (h : (sort before xs).outcome = .error fault)
    (more : List α) : (sort before (xs ++ more)).outcome = .error fault := by
  match xs, h with
  | x :: y :: rest, h =>
      unfold sort at h
      rw [Traced.outcome_bind] at h
      -- a run of the whole prefix would leave nothing that could be refused
      have ends : ∀ run, (firstRun before x y rest).outcome ≠ .ok (run, []) := by
        intro run hrun
        rw [hrun] at h
        cases h
      rw [List.cons_append, List.cons_append]
      unfold sort
      rw [Traced.outcome_bind, firstRun_append more ends]
      cases ho : (firstRun before x y rest).outcome with
      | error fault' =>
          rw [ho] at h
          exact h
      | ok p =>
          rw [ho] at h
          show (insertAll before p.1 (p.2 ++ more)).outcome = _
          have refused : (insertAll before p.1 p.2).outcome = .error fault := h
          rw [insertAll_append, Traced.outcome_bind, refused]
          rfl

end OrderBy.BinaryInsertion
