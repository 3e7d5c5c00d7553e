/-
  OrderBy.BinaryInsertion
  ───────────────────────
  **STABLE SORTING BY RUN AND BINARY INSERTION.**

  The sort asks one kind of question, whether one item comes strictly before
  another, and asks it in a fixed sequence, which is part of what it promises:

    1. nothing is asked about fewer than two items;
    2. the *first run* is the longest stretch from the start in which every item
       comes strictly before its predecessor, or else the longest in which none
       does; a strictly descending run is reversed, which no tie can notice;
    3. every further item is inserted into what is sorted already by binary
       search, behind everything it does not come strictly before.

  The question may be answered in any monad: purely, or with events and faults.
-/

namespace OrderBy.BinaryInsertion

variable {m : Type → Type} [Monad m] {α : Type}

/-! ## §1. The first run. -/

/-- Extend a run that ends with `last`: as long as the question whether the next
item comes before its predecessor has the given answer.  The result is what was
added and what is left. -/
def extendRun (before : α → α → m Bool) (descending : Bool) (last : α) :
    List α → m (List α × List α)
  | [] => pure ([], [])
  | x :: rest => do
    if (← before x last) == descending then
      let (run, left) ← extendRun before descending x rest
      pure (x :: run, left)
    else pure ([], x :: rest)

/-- The first run of a list that starts with two given items, brought into
ascending order, and what is left. -/
def firstRun (before : α → α → m Bool) (x y : α) (rest : List α) : m (List α × List α) := do
  let descending ← before y x
  let (run, left) ← extendRun before descending y rest
  pure (if descending then (x :: y :: run).reverse else x :: y :: run, left)

/-! ## §2. Insertion. -/

/-- Insert an item into a sorted list by binary search, with at least as many
halvings at hand as the list has items: behind the middle item if it does not
come strictly before that one, in front of it otherwise. -/
def insertWithin (before : α → α → m Bool) (x : α) : Nat → List α → m (List α)
  | 0, sorted => pure (x :: sorted)
  | halvings + 1, sorted =>
    match sorted.drop (sorted.length / 2) with
    | [] => pure [x]
    | middle :: right => do
      let left := sorted.take (sorted.length / 2)
      if ← before x middle then
        return (← insertWithin before x halvings left) ++ middle :: right
      else
        return left ++ middle :: (← insertWithin before x halvings right)

/-- Insert an item into a sorted list. -/
def insert (before : α → α → m Bool) (x : α) (sorted : List α) : m (List α) :=
  insertWithin before x sorted.length sorted

/-- Insert some items, one after the other. -/
def insertAll (before : α → α → m Bool) (sorted : List α) : List α → m (List α)
  | [] => pure sorted
  | x :: rest => do insertAll before (← insert before x sorted) rest

/-! ## §3. Sorting. -/

/-- The list in order. -/
def sort (before : α → α → m Bool) : List α → m (List α)
  | [] => pure []
  | [x] => pure [x]
  | x :: y :: rest => do
    let (run, left) ← firstRun before x y rest
    insertAll before run left

end OrderBy.BinaryInsertion
