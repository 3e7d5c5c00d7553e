/-
  OrderBy.Proofs.Sorting.Simulation
  ─────────────────────────────────
  **ONE INDUCTION OVER THE SORT, IN WHATEVER MONAD IT ASKS ITS QUESTIONS.**

  A simulation relates computations of two monads that give the same results,
  and says something of these results.  It respects results and sequencing.
  Whatever respects them is carried from the questions to the whole sort:

      the questions are related   →   the sorts are related,
                                      and give a permutation of the input

  Only questions of one form are needed: whether a LATER item of the input comes
  strictly before an EARLIER one.  The sort asks no others.
-/
import OrderBy.BinaryInsertion
import Mathlib.Data.List.Perm.Basic

namespace OrderBy.BinaryInsertion

/-! ## §1. Simulations. -/

/-- A relation between computations of two monads, together with a condition on
their results. -/
structure Simulation (m n : Type → Type) [Monad m] [Monad n] where
  rel : {β : Type} → (β → Prop) → m β → n β → Prop
  rel_pure : ∀ {β : Type} {Q : β → Prop} {b : β}, Q b → rel Q (pure b) (pure b)
  rel_bind : ∀ {β γ : Type} {Q : β → Prop} {S : γ → Prop} {t : m β} {u : n β} {f : β → m γ}
    {g : β → n γ}, rel Q t u → (∀ b, Q b → rel S (f b) (g b)) → rel S (t >>= f) (u >>= g)
  rel_mono : ∀ {β : Type} {Q S : β → Prop} {t : m β} {u : n β},
    rel Q t u → (∀ b, Q b → S b) → rel S t u

variable {m n : Type → Type} [Monad m] [Monad n] {α : Type}

namespace Simulation

/-- The question whether `later` comes before `earlier` is related in both
monads. -/
def Asks (L : Simulation m n) (before : α → α → m Bool) (before' : α → α → n Bool)
    (earlier later : α) : Prop :=
  L.rel (fun _ => True) (before later earlier) (before' later earlier)

variable (L : Simulation m n) {before : α → α → m Bool} {before' : α → α → n Bool}

/-! ## §2. The first run. -/

/-- Extending a run splits what is left of the input. -/
theorem extendRun (descending : Bool) :
    ∀ {last : α} {items : List α}, (last :: items).Pairwise (L.Asks before before') →
      L.rel (fun p => p.1 ++ p.2 = items)
        (BinaryInsertion.extendRun before descending last items)
        (BinaryInsertion.extendRun before' descending last items)
  | last, [], _ => L.rel_pure rfl
  | last, x :: rest, h => by
      obtain ⟨hlast, hrest⟩ := List.pairwise_cons.mp h
      unfold BinaryInsertion.extendRun
      refine L.rel_bind (hlast x List.mem_cons_self) (fun answer _ => ?_)
      split
      · refine L.rel_bind (extendRun descending hrest) (fun p hp => ?_)
        obtain ⟨run, left⟩ := p
        refine L.rel_pure ?_
        show x :: (run ++ left) = x :: rest
        rw [hp]
      · exact L.rel_pure rfl

/-- The first run is a permutation of a prefix of the input. -/
theorem firstRun {x y : α} {rest : List α}
    (h : (x :: y :: rest).Pairwise (L.Asks before before')) :
    L.rel (fun p => ∃ taken, taken ++ p.2 = x :: y :: rest ∧ p.1.Perm taken)
      (BinaryInsertion.firstRun before x y rest)
      (BinaryInsertion.firstRun before' x y rest) := by
  obtain ⟨hx, hy⟩ := List.pairwise_cons.mp h
  unfold BinaryInsertion.firstRun
  refine L.rel_bind (hx y List.mem_cons_self) (fun descending _ => ?_)
  refine L.rel_bind (L.extendRun descending hy) (fun p hp => ?_)
  obtain ⟨run, left⟩ := p
  refine L.rel_pure ⟨x :: y :: run, ?_, ?_⟩
  · show x :: y :: (run ++ left) = x :: y :: rest
    rw [hp]
  · cases descending with
    | true => exact List.reverse_perm _
    | false => exact List.Perm.refl _

/-! ## §3. Insertion. -/

/-- Insertion adds the item and moves nothing else. -/
theorem insertWithin {x : α} :
    ∀ {halvings : Nat} {sorted : List α}, (∀ y ∈ sorted, L.Asks before before' y x) →
      L.rel (fun out => out.Perm (x :: sorted))
        (BinaryInsertion.insertWithin before x halvings sorted)
        (BinaryInsertion.insertWithin before' x halvings sorted)
  | 0, sorted, _ => L.rel_pure (List.Perm.refl _)
  | halvings + 1, sorted, h => by
      unfold BinaryInsertion.insertWithin
      have parts := List.take_append_drop (sorted.length / 2) sorted
      cases hdrop : sorted.drop (sorted.length / 2) with
      | nil =>
          have short : sorted.length = 0 := by
            have := List.drop_eq_nil_iff.mp hdrop
            omega
          rw [List.length_eq_zero_iff] at short
          subst short
          exact L.rel_pure (List.Perm.refl _)
      | cons middle right =>
          rw [hdrop] at parts
          have inLeft : ∀ y ∈ sorted.take (sorted.length / 2), L.Asks before before' y x :=
            fun y hy => h y (List.mem_of_mem_take hy)
          have inRight : ∀ y ∈ middle :: right, L.Asks before before' y x :=
            fun y hy => h y (List.mem_of_mem_drop (hdrop ▸ hy))
          refine L.rel_bind (inRight middle List.mem_cons_self) (fun goesLeft _ => ?_)
          -- in either half the item is added, and the other half stays where it is
          cases goesLeft with
          | true =>
              refine L.rel_bind (insertWithin inLeft) (fun out hout => L.rel_pure ?_)
              conv => rhs; rw [← parts]
              exact hout.append_right _
          | false =>
              refine L.rel_bind (insertWithin fun y hy => inRight y (List.mem_cons_of_mem _ hy))
                (fun out hout => L.rel_pure ?_)
              conv => rhs; rw [← parts]
              refine ((hout.cons middle).append_left _).trans ?_
              exact ((List.Perm.swap x middle right).append_left _).trans List.perm_middle

/-- Inserting some items one after the other adds all of them. -/
theorem insertAll :
    ∀ {rest sorted : List α}, (∀ y ∈ sorted, ∀ x ∈ rest, L.Asks before before' y x) →
      rest.Pairwise (L.Asks before before') →
      L.rel (fun out => out.Perm (sorted ++ rest))
        (BinaryInsertion.insertAll before sorted rest)
        (BinaryInsertion.insertAll before' sorted rest)
  | [], sorted, _, _ => L.rel_pure (by rw [List.append_nil])
  | x :: rest, sorted, hcross, hrest => by
      obtain ⟨hx, hrest⟩ := List.pairwise_cons.mp hrest
      unfold BinaryInsertion.insertAll
      refine L.rel_bind (L.insertWithin fun y hy => hcross y hy x List.mem_cons_self)
        (fun sorted' hperm => ?_)
      -- the questions about the longer list are the old ones and those about the new item
      have hcross' : ∀ y ∈ sorted', ∀ z ∈ rest, L.Asks before before' y z := by
        intro y hy z hz
        rcases List.mem_cons.mp (hperm.mem_iff.mp hy) with rfl | hy
        · exact hx z hz
        · exact hcross y hy z (List.mem_cons_of_mem _ hz)
      refine L.rel_mono (insertAll hcross' hrest) (fun out hout => hout.trans ?_)
      exact (hperm.append_right rest).trans List.perm_middle.symm

/-! ## §4. The sort. -/

/-- **Sorts whose questions are related are related, and permute their input.** -/
theorem sort {xs : List α} (h : xs.Pairwise (L.Asks before before')) :
    L.rel (fun out => out.Perm xs) (BinaryInsertion.sort before xs)
      (BinaryInsertion.sort before' xs) := by
  match xs, h with
  | [], _ => exact L.rel_pure (List.Perm.refl _)
  | [x], _ => exact L.rel_pure (List.Perm.refl _)
  | x :: y :: rest, h =>
      refine L.rel_bind (L.firstRun h) (fun p hp => ?_)
      obtain ⟨run, left⟩ := p
      obtain ⟨taken, hsplit, hperm⟩ := hp
      rw [← hsplit] at h
      obtain ⟨_, hleft, hcross⟩ := List.pairwise_append.mp h
      have crossed : ∀ y ∈ run, ∀ x ∈ left, L.Asks before before' y x :=
        fun y hy => hcross y (hperm.mem_iff.mp hy)
      have related := L.insertAll crossed hleft
      refine L.rel_mono related (fun out hout => hout.trans ?_)
      rw [← hsplit]
      exact hperm.append_right left

end Simulation

end OrderBy.BinaryInsertion
