/-
  OrderBy.Identity
  ────────────────
  **TELLING APART WHAT LOOKS THE SAME.**

  Two things that look the same may still be two things: two values that are not
  a number, or two probes.  Each carries an identity, and is the same as another
  exactly if the identities agree.  A copy keeps the number of what it was copied
  from and says which copy it is, so that no two copies agree.
-/

namespace OrderBy

/-- What tells a thing apart from others: a number and, for a copy of the thing
with that number, the number of the copy. -/
structure Identity where
  number : Nat := 0
  copy : Nat := 0
  deriving DecidableEq, Repr

/-- The identity of a copy. -/
def Identity.copied (n : Nat) (i : Identity) : Identity := ⟨i.number, n⟩

end OrderBy
