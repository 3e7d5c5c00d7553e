/-
  OrderBy.Text.Blank
  ──────────────────
  **BLANK CHARACTERS, WORDS AND PIECES.**

  An expression is cut twice: into pieces at a separator, and each piece into
  words at its blanks.  Both cuts are structural recursions over the list of
  characters, so a statement about them is an induction over the text.

      words "  a\tDESC "      = ["a", "DESC"]
      pieces ";" "a;;b"       = ["a", "", "b"]
-/

namespace OrderBy.Text

/-! ## §1. The blank characters. -/

/-- The 29 blank code points: the ASCII spaces and separators, the next-line
and no-break characters, and the space and line separators beyond ASCII. -/
def isBlank (c : Char) : Bool :=
  let n := c.toNat
  (0x09 ≤ n && n ≤ 0x0D) || (0x1C ≤ n && n ≤ 0x20) || n == 0x85 || n == 0xA0 || n == 0x1680
    || (0x2000 ≤ n && n ≤ 0x200A) || n == 0x2028 || n == 0x2029 || n == 0x202F || n == 0x205F
    || n == 0x3000

/-- A text without any word: empty, or blanks only. -/
def allBlank (s : List Char) : Bool := s.all isBlank

/-! ## §2. Words. -/

/-- The maximal blank-free stretches of a text, in order. -/
def words : List Char → List (List Char)
  | [] => []
  | c :: rest =>
    if isBlank c then words rest
    else match rest with
      | [] => [[c]]
      | d :: _ =>
        if isBlank d then [c] :: words rest
        else match words rest with
          | [] => [[c]]
          | w :: ws => (c :: w) :: ws

/-! ## §3. Pieces. -/

/-- Put a character in front of the first piece. -/
def consPiece (c : Char) : List (List Char) → List (List Char)
  | [] => [[c]]
  | p :: ps => (c :: p) :: ps

/-- Cut a text at the leftmost non-overlapping occurrences of `sep`; the
number counts the characters of an occurrence that are still to be passed. -/
def piecesFrom (sep : List Char) : Nat → List Char → List (List Char)
  | _, [] => [[]]
  | skip + 1, _ :: rest => piecesFrom sep skip rest
  | 0, c :: rest =>
    if sep.isPrefixOf (c :: rest) then [] :: piecesFrom sep (sep.length - 1) rest
    else consPiece c (piecesFrom sep 0 rest)

/-- The pieces between the occurrences of a non-empty separator. -/
def pieces (sep s : List Char) : List (List Char) := piecesFrom sep 0 s

/-! ## §4. Trimming. -/

/-- Drop the characters of a class from both ends. -/
def trimBy (drop : Char → Bool) (s : List Char) : List Char :=
  ((s.dropWhile drop).reverse.dropWhile drop).reverse

end OrderBy.Text
