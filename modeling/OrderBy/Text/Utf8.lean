/-
  OrderBy.Text.Utf8
  ─────────────────
  **UTF-8, WITH THE PLACE AND CAUSE OF A FAULT.**

  A code point is one lead byte and up to three continuation bytes.  The lead
  byte fixes how many follow and in which range the first of them must lie, which
  excludes overlong forms, surrogates and code points beyond U+10FFFF.  The first
  byte sequence that cannot be read is reported with its positions: up to, and
  not including, the byte that does not fit.
-/

namespace OrderBy.Text

/-- Why a byte sequence is not UTF-8. -/
inductive Utf8Cause where
  /-- The byte cannot begin a code point. -/
  | invalidStart
  /-- A byte that must continue a code point does not. -/
  | invalidContinuation
  /-- The input ends inside a code point. -/
  | unexpectedEnd
  deriving Repr, DecidableEq

/-- An unreadable byte sequence: `length` bytes from `position` on, the first of
which is `lead`. -/
structure Utf8Fault where
  lead : UInt8
  position : Nat
  length : Nat
  cause : Utf8Cause
  deriving Repr, DecidableEq

/-- What a lead byte asks for: the number of continuation bytes, the range of the
first of them, and the bits the lead byte itself contributes. -/
structure Lead where
  following : Nat
  low : Nat
  high : Nat
  bits : Nat

/-- The lead bytes of code points of several bytes. -/
def lead? (b : Nat) : Option Lead :=
  if 0xC2 ≤ b && b ≤ 0xDF then some ⟨1, 0x80, 0xBF, b - 0xC0⟩
  else if b == 0xE0 then some ⟨2, 0xA0, 0xBF, 0⟩
  else if b == 0xED then some ⟨2, 0x80, 0x9F, 0xD⟩
  else if 0xE1 ≤ b && b ≤ 0xEF then some ⟨2, 0x80, 0xBF, b - 0xE0⟩
  else if b == 0xF0 then some ⟨3, 0x90, 0xBF, 0⟩
  else if 0xF1 ≤ b && b ≤ 0xF3 then some ⟨3, 0x80, 0xBF, b - 0xF0⟩
  else if b == 0xF4 then some ⟨3, 0x80, 0x8F, 4⟩
  else none

/-- Read `following` continuation bytes, the first of them in the given range.
On failure: how many fitted, and whether the input ended. -/
def continuation (low high : Nat) : Nat → Nat → List UInt8 → Except (Nat × Utf8Cause) Nat
  | 0, bits, _ => .ok bits
  | _ + 1, _, [] => .error (0, .unexpectedEnd)
  | n + 1, bits, b :: rest =>
    if low ≤ b.toNat && b.toNat ≤ high then
      match continuation 0x80 0xBF n (bits * 64 + (b.toNat - 0x80)) rest with
      | .ok all => .ok all
      | .error (fitted, cause) => .error (fitted + 1, cause)
    else .error (0, .invalidContinuation)

/-- Decode from a position on; the number counts the continuation bytes of the
last code point, which are still to be passed. -/
def decodeUtf8From : Nat → Nat → List UInt8 → Except Utf8Fault (List Char)
  | _, _, [] => .ok []
  | position, skip + 1, _ :: rest => decodeUtf8From (position + 1) skip rest
  | position, 0, b :: rest =>
    if b.toNat < 0x80 then
      (Char.ofNat b.toNat :: ·) <$> decodeUtf8From (position + 1) 0 rest
    else match lead? b.toNat with
      | none => .error ⟨b, position, 1, .invalidStart⟩
      | some l =>
        match continuation l.low l.high l.following l.bits rest with
        | .error (fitted, cause) => .error ⟨b, position, fitted + 1, cause⟩
        | .ok code => (Char.ofNat code :: ·) <$> decodeUtf8From (position + 1) l.following rest

/-- The text that the bytes encode. -/
def decodeUtf8 (bs : List UInt8) : Except Utf8Fault (List Char) := decodeUtf8From 0 0 bs

end OrderBy.Text
