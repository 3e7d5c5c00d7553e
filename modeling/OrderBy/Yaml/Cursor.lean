/-
  OrderBy.Yaml.Cursor
  ───────────────────
  **A PLACE IN A DOCUMENT.**

  Documents are read character by character.  The layout of a document has a
  meaning, so a cursor knows the line and the column that it stands in.  A line
  ends at a line feed, a carriage return, both together, or one of three
  separators beyond ASCII; the byte order mark takes up no column.
-/

namespace OrderBy.Yaml

/-! ## §1. Characters. -/

/-- The byte order mark. -/
def byteOrderMark : Char := Char.ofNat 0xFEFF

/-- The characters that a document may consist of. -/
def isAllowed (c : Char) : Bool :=
  let n := c.toNat
  n == 0x09 || n == 0x0A || n == 0x0D || (0x20 ≤ n && n ≤ 0x7E) || n == 0x85
    || (0xA0 ≤ n && n ≤ 0xD7FF) || (0xE000 ≤ n && n ≤ 0xFFFD) || 0x10000 ≤ n

/-- The characters that end a line. -/
def isBreak (c : Char) : Bool :=
  let n := c.toNat
  n == 0x0A || n == 0x0D || n == 0x85 || n == 0x2028 || n == 0x2029

/-- Spaces and tabs. -/
def isSpaceOrTab (c : Char) : Bool := c == ' ' || c == '\t'

/-- Whether what follows is a space, a tab, the end of the line or the end of the
document. -/
def endsWord : Option Char → Bool
  | none => true
  | some c => isSpaceOrTab c || isBreak c

/-! ## §2. Cursors. -/

/-- A place in a document: what is left, how many characters are behind, and the
line and the column, both counted from 0. -/
structure Cursor where
  rest : List Char
  index : Nat
  line : Nat
  column : Nat

namespace Cursor

/-- The start of a text. -/
def start (text : List Char) : Cursor := ⟨text, 0, 0, 0⟩

/-- The character some places ahead. -/
def peek? (c : Cursor) (ahead : Nat) : Option Char := c.rest[ahead]?

/-- The next place. -/
def advance (c : Cursor) : Cursor :=
  match c.rest with
  | [] => c
  | ch :: rest =>
    if isBreak ch && !(ch == '\r' && rest.head? == some '\n') then
      ⟨rest, c.index + 1, c.line + 1, 0⟩
    else ⟨rest, c.index + 1, c.line, if ch == byteOrderMark then c.column else c.column + 1⟩

/-- Some places ahead. -/
def forward (c : Cursor) : Nat → Cursor
  | 0 => c
  | n + 1 => c.advance.forward n

/-- Pass the characters of a class. -/
def skipWhile (p : Char → Bool) (c : Cursor) : Cursor := c.forward (c.rest.takeWhile p).length

/-- Pass a line break.  The two separators proper stand for themselves and every
other break for a line feed. -/
def takeBreak? (c : Cursor) : Option (Char × Cursor) :=
  match c.rest with
  | [] => none
  | ch :: rest =>
    if ch == '\r' && rest.head? == some '\n' then some ('\n', c.forward 2)
    else if isBreak ch then
      some (if ch.toNat == 0x2028 || ch.toNat == 0x2029 then ch else '\n', c.advance)
    else none

/-- Whether a document marker, three hyphens or three points, stands here as a
word. -/
def atMarker (c : Cursor) : Bool :=
  (c.rest.take 3 == ['-', '-', '-'] || c.rest.take 3 == ['.', '.', '.']) && endsWord (c.peek? 3)

end Cursor

end OrderBy.Yaml
