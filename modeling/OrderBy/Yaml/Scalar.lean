/-
  OrderBy.Yaml.Scalar
  ───────────────────
  **PLAIN AND QUOTED SCALARS.**

  A scalar may go over several lines.  A single line break inside becomes a
  space, further ones stay line feeds, and the spaces around them vanish.

      plain    ends at a colon or number sign that stands alone, and inside
               brackets at a bracket, a comma or a question mark
      single   a quote is written twice
      double   with escapes
-/
import OrderBy.Fault
import OrderBy.Text.Quoted
import OrderBy.Yaml.Cursor

namespace OrderBy.Yaml

open Text (singleQuote doubleQuote backslash)

/-! ## §1. Folding. -/

/-- What the first line break and those after it become. -/
def folded (first : Char) (more : List Char) : List Char :=
  (if first != '\n' then [first] else if more.isEmpty then [' '] else []) ++ more

/-! ## §2. Plain scalars. -/

/-- Whether a word of a plain scalar ends in front of these characters. -/
def plainEnds (inFlow : Bool) : List Char → Bool
  | [] => true
  | ch :: rest =>
    endsWord (some ch)
      || (ch == ':' && (endsWord rest.head?
        || (inFlow && (rest.head?.any (fun d => ",[]\x7b\x7d".contains d)))))
      || (inFlow && ",?[]\x7b\x7d".contains ch)

/-- The word of a plain scalar that begins here. -/
def plainWord (inFlow : Bool) : List Char → List Char
  | [] => []
  | ch :: rest =>
    if plainEnds inFlow (ch :: rest) then [] else ch :: plainWord inFlow rest

/-- Pass spaces and line breaks; the result is the breaks, unless a document
marker is met. -/
def plainBreaks : Nat → Cursor → Option (List Char) × Cursor
  | 0, c => (some [], c)
  | fuel + 1, c =>
    if c.peek? 0 == some ' ' then plainBreaks fuel c.advance
    else match c.takeBreak? with
      | none => (some [], c)
      | some (b, next) =>
        if next.atMarker then (none, next)
        else
          let (bs, last) := plainBreaks fuel next
          (bs.map (b :: ·), last)

/-- What stands between two words of a plain scalar: the text that it becomes,
whether a line ended, and the place behind it. -/
structure Gap where
  text : List Char
  crossed : Bool
  cursor : Cursor

/-- The gap that begins here. -/
def plainGap (c : Cursor) : Gap :=
  let spaces := c.rest.takeWhile (· == ' ')
  let behind := c.forward spaces.length
  match behind.takeBreak? with
  | none => ⟨spaces, false, behind⟩
  | some (b, next) =>
    if next.atMarker then ⟨[], true, next⟩
    else match plainBreaks (next.rest.length + 1) next with
      | (none, last) => ⟨[], true, last⟩
      | (some bs, last) => ⟨folded b bs, true, last⟩

/-- The words of a plain scalar from here on, behind a gap; outside brackets they
have to stand at the given column or further right. -/
def plainWords (inFlow : Bool) (column : Int) : Nat → Gap → List Char × Bool × Cursor
  | 0, gap => ([], gap.crossed, gap.cursor)
  | fuel + 1, gap =>
    let word := plainWord inFlow gap.cursor.rest
    if word.isEmpty then ([], gap.crossed, gap.cursor)
    else
      let next := plainGap (gap.cursor.forward word.length)
      if next.text.isEmpty || next.cursor.peek? 0 == some '#'
          || (!inFlow && next.cursor.column < column) then
        (gap.text ++ word, next.crossed, next.cursor)
      else
        let (more, crossed, last) := plainWords inFlow column fuel next
        (gap.text ++ word ++ more, crossed, last)

/-- The plain scalar that begins here, whether a line ended behind it, and the
place there. -/
def plainScalar (inFlow : Bool) (column : Int) (c : Cursor) : List Char × Bool × Cursor :=
  plainWords inFlow column (c.rest.length + 1) ⟨[], false, c⟩

/-! ## §3. Quoted scalars. -/

/-- The code points of the escapes that are a single character. -/
def simpleEscapes : List (Char × Nat) :=
  [('0', 0), ('a', 7), ('b', 8), ('t', 9), ('\t', 9), ('n', 10), ('v', 11), ('f', 12), ('r', 13),
    ('e', 0x1B), (' ', 0x20), (doubleQuote, 0x22), (backslash, 0x5C), ('/', 0x2F), ('N', 0x85),
    ('_', 0xA0), ('L', 0x2028), ('P', 0x2029)]

/-- How many hexadecimal digits follow an escape by code point. -/
def escapeWidth? (c : Char) : Option Nat :=
  if c == 'x' then some 2 else if c == 'u' then some 4 else if c == 'U' then some 8 else none

/-- The value of a hexadecimal digit. -/
def hexDigit? (c : Char) : Option Nat :=
  if '0' ≤ c && c ≤ '9' then some (c.toNat - '0'.toNat)
  else if 'a' ≤ c && c ≤ 'f' then some (c.toNat - 'a'.toNat + 10)
  else if 'A' ≤ c && c ≤ 'F' then some (c.toNat - 'A'.toNat + 10)
  else none

/-- The number that hexadecimal digits write. -/
def hexNumber? (ds : List Char) : Option Nat :=
  ds.foldlM (fun n d => (hexDigit? d).map (16 * n + ·)) 0

/-- The character of a code point. -/
def charOfCode (code : Nat) : Except DocumentFault Char :=
  if Nat.pow 2 31 ≤ code then .error .codePointTooLarge
  else if 0x110000 ≤ code then .error .noCodePoint
  else .ok (Char.ofNat code)

/-- Read a text and a place. -/
abbrev Reading : Type := Except DocumentFault (List Char × Cursor)

/-- The line breaks from here on, with the spaces in front of the lines. -/
def quotedBreaks : Nat → Cursor → Reading
  | 0, c => .ok ([], c)
  | fuel + 1, c =>
    if c.atMarker then .error .malformed
    else
      let behind := c.skipWhile isSpaceOrTab
      match behind.takeBreak? with
      | none => .ok ([], behind)
      | some (b, next) => do
        let (bs, last) ← quotedBreaks fuel next
        pure (b :: bs, last)

/-- What stands between two words of a quoted scalar. -/
def quotedGap (c : Cursor) : Reading :=
  let spaces := c.rest.takeWhile isSpaceOrTab
  let behind := c.forward spaces.length
  if behind.rest.isEmpty then .error .malformed
  else match behind.takeBreak? with
    | none => .ok (spaces, behind)
    | some (b, next) => do
      let (bs, last) ← quotedBreaks (next.rest.length + 1) next
      pure (folded b bs, last)

/-- What an escape stands for; the cursor is at the character behind the
backslash. -/
def escape (c : Cursor) : Reading :=
  match c.rest with
  | [] => .error .malformed
  | ch :: rest =>
    match simpleEscapes.lookup ch, escapeWidth? ch, c.takeBreak? with
    | some code, _, _ => .ok ([Char.ofNat code], c.advance)
    | none, some width, _ =>
      match if rest.length < width then none else hexNumber? (rest.take width) with
      | none => .error .malformed
      | some code => do
        let ch ← charOfCode code
        pure ([ch], c.forward (width + 1))
    | none, none, some (_, next) => quotedBreaks (next.rest.length + 1) next
    | none, none, none => .error .malformed

/-- A word of a quoted scalar: everything up to a space, a line break or the
closing quote. -/
def quotedWord (double : Bool) : Nat → Cursor → Reading
  | 0, c => .ok ([], c)
  | fuel + 1, c =>
    match c.rest with
    | [] => .ok ([], c)
    | ch :: rest =>
      if endsWord (some ch) then .ok ([], c)
      else if ch == (if double then doubleQuote else singleQuote) then
        if !double && rest.head? == some singleQuote then do
          let (more, last) ← quotedWord double fuel (c.forward 2)
          pure (singleQuote :: more, last)
        else .ok ([], c)
      else if double && ch == backslash then do
        let (text, next) ← escape c.advance
        let (more, last) ← quotedWord double fuel next
        pure (text ++ more, last)
      else do
        let (more, last) ← quotedWord double fuel c.advance
        pure (ch :: more, last)

/-- A quoted scalar from behind its opening quote to behind its closing one. -/
def quotedRest (double : Bool) : Nat → Cursor → Reading
  | 0, _ => .error .malformed
  | fuel + 1, c => do
    let (word, behind) ← quotedWord double (c.rest.length + 1) c
    if behind.peek? 0 == some (if double then doubleQuote else singleQuote) then
      pure (word, behind.advance)
    else
      let (gap, next) ← quotedGap behind
      let (more, last) ← quotedRest double fuel next
      pure (word ++ gap ++ more, last)

/-- The quoted scalar that begins here. -/
def quotedScalar (double : Bool) (c : Cursor) : Reading :=
  quotedRest double (c.rest.length + 1) c.advance

end OrderBy.Yaml
