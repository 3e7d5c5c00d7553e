/-
  OrderBy.Proofs.Sorting.StableSort
  ─────────────────────────────────
  **STABLE SORTS COMPOSE LEXICOGRAPHICALLY.**

  A stable sort of a list under a comparison is ordered, and each class of tied
  elements has in it the order that it has in the list.  Both together determine
  it, so there is one stable sort.  For the lexicographic combination of two
  comparisons it is reached in two passes, the less important one first:

      xs  ──sort by q──▸  mid  ──sort by p──▸  out      =     xs  ──sort by p, then q──▸  out

  No order is needed on the elements that tie: the second pass finds them in the
  order in which the first one has left them.
-/
import Mathlib.Data.List.Basic
import Mathlib.Data.List.Perm.Basic

namespace OrderBy

variable {α : Type} {cmp : α → α → Ordering}

/-- The elements that tie with a given one. -/
def tied (cmp : α → α → Ordering) (c x : α) : Bool := cmp c x == .eq

theorem tied_iff {c x : α} : tied cmp c x = true ↔ cmp c x = .eq := beq_iff_eq

theorem tied_self [Std.TransCmp cmp] (x : α) : tied cmp x x = true :=
  tied_iff.mpr Std.ReflCmp.compare_self

/-- A stable sort of a list: it has the same elements, none behind one that it comes
before, and tied elements in the order of the list. -/
structure StableSort (cmp : α → α → Ordering) (xs out : List α) : Prop where
  perm : out.Perm xs
  ordered : out.Pairwise (fun x y => cmp x y ≠ .gt)
  stable : ∀ c, out.filter (tied cmp c) = xs.filter (tied cmp c)

namespace StableSort

/-! ## §1. There is one stable sort. -/

/-- An element of a list is in its own class. -/
theorem mem_class [Std.TransCmp cmp] {x : α} {xs : List α} (h : x ∈ xs) :
    x ∈ xs.filter (tied cmp x) :=
  List.mem_filter.mpr ⟨h, tied_self x⟩

/-- Lists with the same classes have the same elements. -/
theorem mem_of_classes [Std.TransCmp cmp] {xs ys : List α}
    (h : ∀ c, xs.filter (tied cmp c) = ys.filter (tied cmp c)) {x : α} (hx : x ∈ xs) : x ∈ ys := by
  have inClass : x ∈ xs.filter (tied cmp x) := mem_class hx
  rw [h x] at inClass
  exact (List.mem_filter.mp inClass).1

/-- Of an ordered list, no element comes before the first. -/
theorem head_not_gt [Std.TransCmp cmp] {x y : α} {xs : List α}
    (h : (x :: xs).Pairwise (fun x y => cmp x y ≠ .gt)) (hy : y ∈ x :: xs) : cmp x y ≠ .gt := by
  rcases List.mem_cons.mp hy with rfl | hy
  · have same : cmp y y = .eq := Std.ReflCmp.compare_self
    rw [same]
    exact Ordering.noConfusion
  · exact List.rel_of_pairwise_cons h hy

/-- **Ordered lists with the same classes are equal.** -/
theorem eq_of_classes [Std.TransCmp cmp] {xs ys : List α}
    (hxs : xs.Pairwise (fun x y => cmp x y ≠ .gt)) (hys : ys.Pairwise (fun x y => cmp x y ≠ .gt))
    (h : ∀ c, xs.filter (tied cmp c) = ys.filter (tied cmp c)) : xs = ys := by
  induction xs generalizing ys with
  | nil =>
      cases ys with
      | nil => rfl
      | cons y ys => cases mem_of_classes (fun c => (h c).symm) List.mem_cons_self
  | cons x xs ih =>
      cases ys with
      | nil => cases mem_of_classes h List.mem_cons_self
      | cons y ys =>
          -- neither head comes before the other, so they head the same class
          have forth : cmp x y ≠ .gt :=
            head_not_gt hxs (mem_of_classes (fun c => (h c).symm) List.mem_cons_self)
          have back : cmp y x ≠ .gt := head_not_gt hys (mem_of_classes h List.mem_cons_self)
          have tie : cmp x y = .eq := by
            cases ho : cmp x y with
            | eq => rfl
            | gt => exact absurd ho forth
            | lt => exact absurd (Std.OrientedCmp.gt_of_lt ho) back
          have same := h x
          rw [List.filter_cons_of_pos (tied_self x),
            List.filter_cons_of_pos (tied_iff.mpr tie)] at same
          obtain ⟨rfl, _⟩ := List.cons.inj same
          -- with the common head taken away, the classes still agree
          have rest : ∀ c, xs.filter (tied cmp c) = ys.filter (tied cmp c) := by
            intro c
            have whole := h c
            rw [List.filter_cons, List.filter_cons] at whole
            split at whole
            · exact (List.cons.inj whole).2
            · exact whole
          rw [ih hxs.of_cons hys.of_cons rest]

/-- **A list has one stable sort.** -/
theorem unique [Std.TransCmp cmp] {xs out out' : List α} (h : StableSort cmp xs out)
    (h' : StableSort cmp xs out') : out = out' :=
  eq_of_classes h.ordered h'.ordered (fun c => (h.stable c).trans (h'.stable c).symm)

/-! ## §2. Two passes. -/

theorem tied_compareLex (p q : α → α → Ordering) (c x : α) :
    tied (compareLex p q) c x = (tied p c x && tied q c x) := by
  rw [Bool.eq_iff_iff, Bool.and_eq_true, tied_iff, tied_iff, tied_iff, compareLex_eq_eq]

/-- **A pass by the less important comparison and then one by the more important
one sort by both.** -/
theorem twoPasses {p q : α → α → Ordering} [Std.TransCmp p] {xs mid out : List α}
    (first : StableSort q xs mid) (second : StableSort p mid out) :
    StableSort (compareLex p q) xs out where
  perm := second.perm.trans first.perm
  ordered := by
    rw [List.pairwise_iff_forall_sublist]
    intro x y hxy
    have le : p x y ≠ .gt := List.pairwise_iff_forall_sublist.mp second.ordered hxy
    show (p x y).then (q x y) ≠ .gt
    cases ho : p x y with
    | lt => exact Ordering.noConfusion
    | gt => exact absurd ho le
    | eq =>
        -- x and y tie under p, so they stand in `out` as they do in `mid`
        have pair : [x, y].filter (tied p x) = [x, y] := by
          rw [List.filter_cons_of_pos (tied_self x),
            List.filter_cons_of_pos (tied_iff.mpr ho), List.filter_nil]
        have inOut := hxy.filter (tied p x)
        rw [pair, second.stable x] at inOut
        have inMid : [x, y].Sublist mid := inOut.trans List.filter_sublist
        exact List.pairwise_iff_forall_sublist.mp first.ordered inMid
  stable := by
    intro c
    -- a class of both comparisons is a class of the one within a class of the other,
    -- in either order, and each pass preserves its own classes
    have classes : ∀ ys : List α, ys.filter (tied (compareLex p q) c)
        = (ys.filter (tied q c)).filter (tied p c) := by
      intro ys
      rw [List.filter_filter]
      exact List.filter_congr (fun x _ => tied_compareLex p q c x)
    calc out.filter (tied (compareLex p q) c)
        = (out.filter (tied q c)).filter (tied p c) := classes out
      _ = (out.filter (tied p c)).filter (tied q c) := List.filter_comm _ _ _
      _ = (mid.filter (tied p c)).filter (tied q c) := by rw [second.stable]
      _ = (mid.filter (tied q c)).filter (tied p c) := List.filter_comm _ _ _
      _ = (xs.filter (tied q c)).filter (tied p c) := by rw [first.stable]
      _ = xs.filter (tied (compareLex p q) c) := (classes xs).symm

end StableSort

end OrderBy
