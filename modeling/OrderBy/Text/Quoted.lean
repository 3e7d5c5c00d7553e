/-
  OrderBy.Text.Quoted
  ───────────────────
  **QUOTED TEXT AND QUOTED BYTES.**

  Messages show a text between quotes, with everything that would not print
  written as an escape.  The quotes are single unless the text holds a single
  quote and no double one; a backslash and the chosen quote are escaped, line
  feed, carriage return and tab have letters, and every other unprintable
  character is written by its code point in 2, 4 or 8 hexadecimal digits.
-/
import OrderBy.Text.Printable

namespace OrderBy.Text

/-- The single quote. -/
def singleQuote : Char := Char.ofNat 0x27

/-- The double quote. -/
def doubleQuote : Char := Char.ofNat 0x22

/-- The backslash. -/
def backslash : Char := Char.ofNat 0x5C

/-- The quote that encloses a text: the double quote exactly if the text holds
a single quote and no double one. -/
def enclosingQuote (s : List Char) : Char :=
  if s.contains singleQuote && !s.contains doubleQuote then doubleQuote else singleQuote

/-- The lower-case hexadecimal digits of a number, at least `width` of them. -/
def hexDigits (width n : Nat) : List Char :=
  let ds := Nat.toDigits 16 n
  List.replicate (width - ds.length) '0' ++ ds

/-- An escape by code point: two digits after x, four after u, eight after U. -/
def codePointEscape (n : Nat) : List Char :=
  if n < 0x100 then backslash :: 'x' :: hexDigits 2 n
  else if n < 0x10000 then backslash :: 'u' :: hexDigits 4 n
  else backslash :: 'U' :: hexDigits 8 n

/-- One character of a quoted text; `shown` says which characters stand for
themselves. -/
def quoteChar (quote : Char) (shown : Char → Bool) (c : Char) : List Char :=
  if c == quote || c == backslash then [backslash, c]
  else if c == '\n' then [backslash, 'n']
  else if c == '\r' then [backslash, 'r']
  else if c == '\t' then [backslash, 't']
  else if shown c then [c]
  else codePointEscape c.toNat

/-- A text between quotes. -/
def quote (s : List Char) : List Char :=
  let q := enclosingQuote s
  q :: s.flatMap (quoteChar q isPrintable) ++ [q]

/-- Bytes between quotes, after the letter b; only ASCII stands for itself. -/
def quoteBytes (bs : List UInt8) : List Char :=
  let s := bs.map (fun b => Char.ofNat b.toNat)
  let q := enclosingQuote s
  'b' :: q :: s.flatMap (quoteChar q (fun c => 0x20 ≤ c.toNat && c.toNat < 0x7F)) ++ [q]

/-- A text between quotes, as a string. -/
def quoteString (s : String) : String := String.ofList (quote s.toList)

end OrderBy.Text
