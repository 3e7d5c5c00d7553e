/-
  OrderBy.Proofs.Sorting.Naturality
  ─────────────────────────────────
  **THE SORT SEES ITS ITEMS THROUGH ITS QUESTIONS ONLY.**

  Items may carry anything besides what is asked about them.  Looking at them through
  a view that the questions do not see behind, before the sort or after it, is the
  same:

      sort (view xs)  =  view (sort xs)

  with the same questions in the same sequence, and the same fault if one fails.
-/
import OrderBy.BinaryInsertion
import Mathlib.Control.Basic

namespace OrderBy.BinaryInsertion

variable {m : Type → Type} [Monad m] [LawfulMonad m] {α β : Type} {view : α → β}
  {before : α → α → m Bool} {before' : β → β → m Bool}
  (h : ∀ x y, before' (view x) (view y) = before x y)

include h

/-! ## §1. The first run. -/

theorem extendRun_map (descending : Bool) :
    ∀ (last : α) (items : List α), extendRun before' descending (view last) (items.map view)
      = (fun p => (p.1.map view, p.2.map view)) <$> extendRun before descending last items
  | last, [] => by
      rw [List.map_nil, extendRun, extendRun, map_pure]
      rfl
  | last, x :: rest => by
      rw [List.map_cons, extendRun, extendRun, map_bind, h]
      refine bind_congr (fun answer => ?_)
      split
      · rw [extendRun_map descending x rest, bind_map_left, map_bind]
        refine bind_congr (fun p => ?_)
        rw [map_pure]
        rfl
      · rw [map_pure]
        rfl

theorem firstRun_map (x y : α) (rest : List α) :
    firstRun before' (view x) (view y) (rest.map view)
      = (fun p => (p.1.map view, p.2.map view)) <$> firstRun before x y rest := by
  unfold firstRun
  rw [map_bind, h]
  refine bind_congr (fun descending => ?_)
  rw [extendRun_map h, bind_map_left, map_bind]
  refine bind_congr (fun p => ?_)
  rw [map_pure]
  cases descending with
  | true => exact congrArg (fun run => pure (run, _)) (List.map_reverse (l := x :: y :: p.1)).symm
  | false => rfl

/-! ## §2. Insertion. -/

theorem insertWithin_map (x : α) : ∀ (halvings : Nat) (sorted : List α),
    insertWithin before' (view x) halvings (sorted.map view)
      = List.map view <$> insertWithin before x halvings sorted
  | 0, sorted => by
      rw [insertWithin, insertWithin, map_pure]
      rfl
  | halvings + 1, sorted => by
      unfold insertWithin
      rw [List.length_map, ← List.map_drop, ← List.map_take]
      cases sorted.drop (sorted.length / 2) with
      | nil => exact (map_pure (List.map view) [x]).symm
      | cons middle right =>
          show before' (view x) (view middle) >>= _ = _ <$> (before x middle >>= _)
          rw [map_bind, h]
          refine bind_congr (fun goesLeft => ?_)
          -- the half that is searched is seen through the view, and so is the other
          cases goesLeft with
          | true =>
              show insertWithin before' (view x) halvings _ >>= _ = _ <$> (_ >>= _)
              rw [insertWithin_map x halvings, bind_map_left, map_bind]
              refine bind_congr (fun out => ?_)
              rw [map_pure, List.map_append]
              rfl
          | false =>
              show insertWithin before' (view x) halvings _ >>= _ = _ <$> (_ >>= _)
              rw [insertWithin_map x halvings, bind_map_left, map_bind]
              refine bind_congr (fun out => ?_)
              rw [map_pure, List.map_append]
              rfl

theorem insertAll_map : ∀ (rest sorted : List α),
    insertAll before' (sorted.map view) (rest.map view)
      = List.map view <$> insertAll before sorted rest
  | [], _ => by rw [List.map_nil, insertAll, insertAll, map_pure]
  | x :: rest, sorted => by
      rw [List.map_cons, insertAll, insertAll, map_bind]
      unfold insert
      rw [List.length_map, insertWithin_map h, bind_map_left]
      exact bind_congr (fun out => insertAll_map rest out)

/-! ## §3. The sort. -/

/-- **Sorting a view of some items is viewing the sorted items.** -/
theorem sort_map : ∀ xs : List α, sort before' (xs.map view) = List.map view <$> sort before xs
  | [] => by
      rw [List.map_nil, sort, sort, map_pure]
      rfl
  | [x] => by
      rw [List.map_singleton, sort, sort, map_pure]
      rfl
  | x :: y :: rest => by
      rw [List.map_cons, List.map_cons, sort, sort, firstRun_map h, bind_map_left, map_bind]
      exact bind_congr (fun p => insertAll_map h p.2 p.1)

end OrderBy.BinaryInsertion
