/-
  OrderBy.Proofs.Sorting.Adjacent
  ───────────────────────────────
  **WHAT THE SORT ESTABLISHES BETWEEN NEIGHBOURS, WITHOUT ANY LAW OF ORDER.**

  Say that an answer *places* an earlier and a later item by a relation R: the
  later one goes first if it comes strictly before, and second otherwise.  If
  every answer places its pair by R, then neighbours in the output stand in R:

      Places lt R  on all pairs of the input   →   IsChain R (sorted lt xs)

  Transitivity is not needed: the first run is a chain because its neighbours
  were compared with each other, and a binary search ends between two items that
  were both compared with the one it inserts.  With transitivity a chain is
  ordered throughout.
-/
import OrderBy.Proofs.Sorting.Simulation
import Mathlib.Data.List.Chain

namespace OrderBy.BinaryInsertion

variable {α : Type}

/-! ## §1. Questions that are simply answered. -/

/-- The sort when nothing but the answers counts. -/
def sorted (lt : α → α → Bool) (xs : List α) : List α := Id.run (sort (fun x y => pure (lt x y)) xs)

/-- The simulation of answers by themselves. -/
def Simulation.identity : Simulation Id Id where
  rel Q t u := t = u ∧ Q t
  rel_pure h := ⟨rfl, h⟩
  rel_bind h k := by
    obtain ⟨rfl, hQ⟩ := h
    exact k _ hQ
  rel_mono h k := ⟨h.1, k _ h.2⟩

/-- Sorting moves the items and does nothing else. -/
theorem sorted_perm (lt : α → α → Bool) (xs : List α) : (sorted lt xs).Perm xs := by
  have answered : ∀ x y : α,
      Simulation.identity.Asks (fun x y => pure (lt x y)) (fun x y => pure (lt x y)) x y :=
    fun _ _ => ⟨rfl, trivial⟩
  exact (Simulation.identity.sort (List.pairwise_of_forall answered)).2

/-- Where a pair goes by the answer whether its later item comes first. -/
def Places (lt : α → α → Bool) (R : α → α → Prop) (earlier later : α) : Prop :=
  (lt later earlier = true → R later earlier) ∧ (lt later earlier = false → R earlier later)

variable {lt : α → α → Bool} {R : α → α → Prop}

/-! ## §2. The first run. -/

/-- A run is a prefix whose neighbours have all been answered alike. -/
theorem extendRun_isChain (lt : α → α → Bool) (descending : Bool) :
    ∀ (last : α) (items : List α), ∃ run left,
      Id.run (extendRun (fun x y => pure (lt x y)) descending last items) = (run, left)
        ∧ run ++ left = items
        ∧ (last :: run).IsChain (fun x y => lt y x = descending)
  | last, [] => ⟨[], [], rfl, rfl, List.isChain_singleton _⟩
  | last, x :: rest => by
      obtain ⟨run, left, hrun, hsplit, hchain⟩ := extendRun_isChain lt descending x rest
      by_cases h : lt x last = descending
      · refine ⟨x :: run, left, ?_, ?_, List.isChain_cons_cons.mpr ⟨h, hchain⟩⟩
        · show Id.run (if lt x last == descending then _ else _) = _
          rw [h, beq_self_eq_true, if_pos rfl]
          show (x :: (Id.run (extendRun _ descending x rest)).1,
            (Id.run (extendRun _ descending x rest)).2) = _
          rw [hrun]
        · rw [List.cons_append, hsplit]
      · refine ⟨[], x :: rest, ?_, rfl, List.isChain_singleton _⟩
        show Id.run (if lt x last == descending then _ else _) = _
        rw [if_neg (by rwa [beq_iff_eq])]
        rfl

/-- A chain of answers places its neighbours. -/
theorem isChain_of_places {run : List α} {answer : Bool} {S : α → α → Prop}
    (hchain : run.IsChain (fun x y => lt y x = answer)) (h : run.Pairwise (Places lt R))
    (hS : ∀ x y, Places lt R x y → lt y x = answer → S x y) : run.IsChain S := by
  rw [List.isChain_iff_getElem] at hchain ⊢
  rw [List.pairwise_iff_getElem] at h
  intro i hi
  exact hS _ _ (h i (i + 1) _ _ (by omega)) (hchain i hi)

/-- The first run, brought into order, is a chain. -/
theorem firstRun_isChain {x y : α} {rest : List α}
    (h : (x :: y :: rest).Pairwise (Places lt R)) :
    ∃ run left taken, Id.run (firstRun (fun x y => pure (lt x y)) x y rest) = (run, left)
      ∧ taken ++ left = x :: y :: rest ∧ run.Perm taken ∧ run.IsChain R := by
  obtain ⟨run, left, hrun, hsplit, hchain⟩ := extendRun_isChain lt (lt y x) y rest
  have whole : (x :: y :: run).IsChain (fun x' y' => lt y' x' = lt y x) :=
    List.isChain_cons_cons.mpr ⟨rfl, hchain⟩
  have split : x :: y :: run ++ left = x :: y :: rest := by
    rw [List.cons_append, List.cons_append, hsplit]
  have placed : (x :: y :: run).Pairwise (Places lt R) := by
    rw [← split] at h
    exact (List.pairwise_append.mp h).1
  have result : Id.run (firstRun (fun x y => pure (lt x y)) x y rest)
      = (if lt y x then (x :: y :: run).reverse else x :: y :: run, left) := by
    show ((if lt y x then (x :: y :: (Id.run (extendRun _ (lt y x) y rest)).1).reverse
      else x :: y :: (Id.run (extendRun _ (lt y x) y rest)).1),
      (Id.run (extendRun _ (lt y x) y rest)).2) = _
    rw [hrun]
  refine ⟨_, left, x :: y :: run, result, split, ?_, ?_⟩
  -- reversing loses nothing
  · split_ifs
    · exact List.reverse_perm _
    · exact List.Perm.refl _
  -- a strictly descending run is a chain backwards, any other one forwards
  · cases hd : lt y x with
    | true =>
        rw [if_pos rfl, List.isChain_reverse]
        rw [hd] at whole
        exact isChain_of_places whole placed (fun _ _ hp => hp.1)
    | false =>
        rw [if_neg Bool.false_ne_true]
        rw [hd] at whole
        exact isChain_of_places whole placed (fun _ _ hp => hp.2)

/-! ## §3. Insertion. -/

/-- An item that comes before the middle goes into the left half. -/
theorem insertWithin_left {x middle : α} {items right : List α} (halvings : Nat)
    (hdrop : items.drop (items.length / 2) = middle :: right) (h : lt x middle = true) :
    Id.run (insertWithin (fun x y => pure (lt x y)) x (halvings + 1) items)
      = Id.run (insertWithin (fun x y => pure (lt x y)) x halvings (items.take (items.length / 2)))
          ++ middle :: right := by
  rw [insertWithin, hdrop]
  show Id.run (if lt x middle then _ else _) = _
  rw [h, if_pos rfl]
  rfl

/-- An item that does not goes behind the middle. -/
theorem insertWithin_right {x middle : α} {items right : List α} (halvings : Nat)
    (hdrop : items.drop (items.length / 2) = middle :: right) (h : lt x middle = false) :
    Id.run (insertWithin (fun x y => pure (lt x y)) x (halvings + 1) items)
      = items.take (items.length / 2)
          ++ middle :: Id.run (insertWithin (fun x y => pure (lt x y)) x halvings right) := by
  rw [insertWithin, hdrop]
  show Id.run (if lt x middle then _ else _) = _
  rw [h, if_neg Bool.false_ne_true]
  rfl

theorem forall_head_append_cons {P : α → Prop} {front back : List α} {middle : α}
    (hfront : ∀ y ∈ front.head?, P y) (hmiddle : P middle) :
    ∀ y ∈ (front ++ middle :: back).head?, P y := by
  intro y hy
  cases front with
  | nil =>
      obtain rfl : middle = y := Option.some.inj hy
      exact hmiddle
  | cons z front => exact hfront y hy

theorem forall_getLast_append_cons {P : α → Prop} {front back : List α} {middle : α}
    (hback : ∀ y ∈ back.getLast?, P y) (hmiddle : P middle) :
    ∀ y ∈ (front ++ middle :: back).getLast?, P y := by
  intro y hy
  rw [List.getLast?_append, List.getLast?_cons] at hy
  cases hlast : back.getLast? with
  | none =>
      rw [hlast] at hy
      obtain rfl : middle = y := Option.some.inj hy
      exact hmiddle
  | some z =>
      rw [hlast] at hy
      obtain rfl : z = y := Option.some.inj hy
      exact hback z hlast

/-- Insertion ends between two items that were both asked about: it comes behind
one that it does not come before, and in front of one that it comes before. -/
theorem insertWithin_split (lt : α → α → Bool) (x : α) :
    ∀ (halvings : Nat) (items : List α), items.length ≤ halvings →
      ∃ front back, items = front ++ back
        ∧ Id.run (insertWithin (fun x y => pure (lt x y)) x halvings items) = front ++ x :: back
        ∧ (∀ y ∈ front.getLast?, lt x y = false) ∧ (∀ y ∈ back.head?, lt x y = true)
  | 0, items, hlen => by
      obtain rfl : items = [] := List.length_eq_zero_iff.mp (by omega)
      exact ⟨[], [], rfl, rfl, by simp, by simp⟩
  | halvings + 1, items, hlen => by
      -- one halving: the split of the half that is searched, with the other half put back
      have parts := List.take_append_drop (items.length / 2) items
      cases hdrop : items.drop (items.length / 2) with
      | nil =>
          obtain rfl : items = [] := by
            have := List.drop_eq_nil_iff.mp hdrop
            exact List.length_eq_zero_iff.mp (by omega)
          exact ⟨[], [], rfl, by simp [insertWithin], by simp, by simp⟩
      | cons middle right =>
          rw [hdrop] at parts
          have sizes := congrArg List.length parts
          rw [List.length_append, List.length_cons, List.length_take] at sizes
          cases hanswer : lt x middle with
          | true =>
              obtain ⟨front, back, hsplit, hrun, hfront, hback⟩ :=
                insertWithin_split lt x halvings (items.take (items.length / 2))
                  (by rw [List.length_take]; omega)
              refine ⟨front, back ++ middle :: right, ?_, ?_, hfront,
                forall_head_append_cons hback hanswer⟩
              · rw [← List.append_assoc, ← hsplit, parts]
              · rw [insertWithin_left halvings hdrop hanswer, hrun, List.append_assoc,
                  List.cons_append]
          | false =>
              obtain ⟨front, back, hsplit, hrun, hfront, hback⟩ :=
                insertWithin_split lt x halvings right (by omega)
              refine ⟨items.take (items.length / 2) ++ middle :: front, back, ?_, ?_,
                forall_getLast_append_cons hfront hanswer, hback⟩
              · rw [List.append_assoc, List.cons_append, ← hsplit, parts]
              · rw [insertWithin_right halvings hdrop hanswer, hrun, List.append_assoc,
                  List.cons_append]

/-- Inserting an item keeps a chain one. -/
theorem insert_isChain {x : α} {items : List α} (hchain : items.IsChain R)
    (h : ∀ y ∈ items, Places lt R y x) :
    (Id.run (insert (fun x y => pure (lt x y)) x items)).IsChain R := by
  obtain ⟨front, back, hsplit, hrun, hfront, hback⟩ :=
    insertWithin_split lt x items.length items le_rfl
  unfold insert
  rw [hrun]
  subst hsplit
  rw [List.isChain_append] at hchain ⊢
  obtain ⟨chainFront, chainBack, _⟩ := hchain
  refine ⟨chainFront, List.isChain_cons.mpr ⟨?_, chainBack⟩, ?_⟩
  · intro y hy
    have mem : y ∈ front ++ back := List.mem_append_right _ (List.mem_of_mem_head? hy)
    exact (h y mem).1 (hback y hy)
  · intro y hy z hz
    obtain rfl : x = z := Option.some.inj hz
    have mem : y ∈ front ++ back := List.mem_append_left _ (List.mem_of_mem_getLast? hy)
    exact (h y mem).2 (hfront y hy)

/-- Inserting some items, one after the other, keeps a chain one. -/
theorem insertAll_isChain :
    ∀ {rest items : List α}, items.IsChain R → (∀ y ∈ items, ∀ x ∈ rest, Places lt R y x) →
      rest.Pairwise (Places lt R) →
      (Id.run (insertAll (fun x y => pure (lt x y)) items rest)).IsChain R
  | [], _, hchain, _, _ => hchain
  | x :: rest, items, hchain, hcross, hrest => by
      obtain ⟨hx, hrest⟩ := List.pairwise_cons.mp hrest
      have hperm : (Id.run (insert (fun x y => pure (lt x y)) x items)).Perm (x :: items) :=
        (Simulation.identity.insertWithin (fun _ _ => ⟨rfl, trivial⟩)).2
      have inserted := insert_isChain hchain (fun y hy => hcross y hy x List.mem_cons_self)
      show (Id.run (insertAll _ (Id.run (insert _ x items)) rest)).IsChain R
      -- what is in the list by now is the new item or was there before
      refine insertAll_isChain inserted (fun y hy z hz => ?_) hrest
      rcases List.mem_cons.mp (hperm.mem_iff.mp hy) with rfl | hy
      · exact hx z hz
      · exact hcross y hy z (List.mem_cons_of_mem _ hz)

/-! ## §4. The sort. -/

/-- What the first run leaves is inserted into it. -/
theorem sorted_of_firstRun {x y : α} {rest : List α} {p : List α × List α}
    (h : Id.run (firstRun (fun x y => pure (lt x y)) x y rest) = p) :
    sorted lt (x :: y :: rest) = Id.run (insertAll (fun x y => pure (lt x y)) p.1 p.2) := by
  rw [← h]
  rfl

/-- **Neighbours in the output stand in every relation by which the answers place
the pairs of the input.** -/
theorem sorted_isChain {xs : List α} (h : xs.Pairwise (Places lt R)) :
    (sorted lt xs).IsChain R := by
  match xs, h with
  | [], _ => exact List.isChain_nil
  | [x], _ => exact List.isChain_singleton x
  | x :: y :: rest, h =>
      obtain ⟨run, left, taken, hrun, hsplit, hperm, hchain⟩ := firstRun_isChain h
      rw [← hsplit] at h
      obtain ⟨_, hleft, hcross⟩ := List.pairwise_append.mp h
      rw [sorted_of_firstRun hrun]
      exact insertAll_isChain hchain (fun z hz => hcross z (hperm.mem_iff.mp hz)) hleft

/-- **If that relation is transitive, it orders the whole output.** -/
theorem sorted_pairwise {xs : List α} (trans : ∀ {x y z : α}, R x y → R y z → R x z)
    (h : xs.Pairwise (Places lt R)) : (sorted lt xs).Pairwise R := by
  have : Trans R R R := ⟨trans⟩
  exact (sorted_isChain h).pairwise

end OrderBy.BinaryInsertion
