/-
  OrderBy.Value.Template
  ──────────────────────
  **TEMPLATES WITH PLACES TO FILL IN.**

  A percent sign begins a place of a template, and a letter ends it: the letter says
  how the argument is written, and what stands between the two how it is laid out.

      %(name)  -+ #0  width  .precision  h l L  letter

      "%5.1f|%-4x"  filled in with  (2.25, 255)   =   "  2.2|ff  "

  Arguments are the items of a tuple, one after the other, or any other single
  value.  An argument may be looked up by a name instead, if there are names.  Two
  percent signs stand for one.  A template is filled in from left to right, and the
  first thing that is wrong ends it.

  A template of bytes is read and filled in as one of characters, a character for
  every byte, apart from the letters s, a, r and c, which then give bytes.
-/
import OrderBy.Number.Places
import OrderBy.Value.Operation
import OrderBy.Value.Text

namespace OrderBy.Template

/-! ## §1. Bytes as characters, and arguments. -/

/-- Bytes as characters. -/
def ofBytes (bs : List UInt8) : List Char := bs.map (fun b => Char.ofNat b.toNat)

/-- Characters as bytes. -/
def toBytes (s : List Char) : List UInt8 := s.map (fun c => UInt8.ofNat c.toNat)

/-- The arguments that are not used yet, and what named arguments are looked up
in. -/
structure Supply where
  arguments : List Value
  named : Option Value

/-- The value in which named arguments are looked up, if it has items: a
dictionary or a list, and for texts also bytes. -/
def names? (medium : Medium) (v : Value) : Option Value :=
  match medium, v with
  | _, .dict _ | _, .list _ | .text, .bytes _ => some v
  | _, _ => none

/-- What a value supplies. -/
def Supply.ofValue (medium : Medium) : Value → Supply
  | .tuple items => ⟨items, none⟩
  | v => ⟨[v], names? medium v⟩

/-- Take the next argument. -/
def Supply.next (s : Supply) : Except TemplateFault (Value × Supply) :=
  match s.arguments with
  | v :: rest => .ok (v, { s with arguments := rest })
  | [] => .error .tooFewArguments

/-! ## §2. Places. -/

/-- How an argument is laid out. -/
structure Layout where
  left : Bool
  plus : Bool
  blank : Bool
  alternate : Bool
  zeros : Bool
  width : Nat
  precision : Option Nat

/-- The characters that may stand behind the percent sign. -/
def isFlag (c : Char) : Bool := ['-', '+', ' ', '#', '0'].contains c

/-- The characters between a parenthesis and the one that closes it, and those
behind it; the number counts the open parentheses. -/
def enclosed : Nat → List Char → Option (List Char × List Char)
  | _, [] => none
  | depth, c :: rest =>
    let depth := if c == '(' then depth + 1 else if c == ')' then depth - 1 else depth
    if depth == 0 then some ([], rest)
    else (enclosed depth rest).map (fun (name, behind) => (c :: name, behind))

/-- The name of an argument as a value. -/
def nameValue (medium : Medium) (name : List Char) : Value :=
  match medium with
  | .text => .text (String.ofList name)
  | .bytes => .bytes (toBytes name)

/-- A place that begins with a name: the value under the name becomes the only
argument. -/
def takeName (medium : Medium) (supply : Supply) (rest : List Char) :
    Except Fault (Supply × List Char) :=
  match rest with
  | '(' :: inside =>
    match supply.named with
    | none => .error (.template .noNames)
    | some named =>
      match enclosed 1 inside with
      | none => .error (.template .unclosedName)
      | some (name, behind) => do
        let v ← named.item (nameValue medium name)
        pure ({ supply with arguments := [v] }, behind)
  | _ => .ok (supply, rest)

/-- A number in a place: an argument, digits, or nothing.  The last part of the
result says whether there were digits. -/
def takeCount (bound : Nat) (tooLong tooLarge : TemplateFault) (supply : Supply)
    (rest : List Char) : Except TemplateFault (Option Int × Supply × List Char × Bool) :=
  match rest with
  | '*' :: behind => do
    let (v, supply) ← supply.next
    match v.int? with
    | none => .error .countNotInteger
    | some n =>
      if n < -(bound : Int) || (bound : Int) ≤ n then .error tooLarge
      else .ok (some n, supply, behind, false)
  | _ =>
    let ds := rest.takeWhile isDigit
    if ds.isEmpty then .ok (none, supply, rest, false)
    else if bound ≤ numberOfDigits ds then .error tooLong
    else .ok (some (numberOfDigits ds), supply, rest.dropWhile isDigit, true)

/-- A place up to its letter: the layout, and whether a digit stands in front of the
letter. -/
def takeLayout (medium : Medium) (supply : Supply) (rest : List Char) :
    Except TemplateFault (Layout × Supply × List Char × Bool) := do
  let flags := rest.takeWhile isFlag
  let (width, supply, rest, behindWidth) ←
    takeCount (Nat.pow 2 63) .widthTooLong .widthTooLarge supply (rest.dropWhile isFlag)
  let (precision, supply, rest, behindDigit) ←
    match rest with
    | '.' :: more => do
      let (precision, supply, rest, behindDigit) ←
        takeCount (Nat.pow 2 31) (.precisionTooLong medium) .precisionTooLarge supply more
      pure (some ((precision.getD 0).toNat), supply, rest, behindDigit)
    | _ => pure (none, supply, rest, behindWidth)
  let (rest, behindDigit) := match rest with
    | c :: more => if c == 'h' || c == 'l' || c == 'L' then (more, false) else (rest, behindDigit)
    | [] => ([], false)
  let layout : Layout :=
    { left := flags.contains '-' || (width.getD 0) < 0
      plus := flags.contains '+'
      blank := flags.contains ' '
      alternate := flags.contains '#'
      zeros := flags.contains '0'
      width := (width.getD 0).natAbs % Nat.pow 2 63
      precision }
  pure (layout, supply, rest, behindDigit)

/-! ## §3. Written arguments. -/

/-- An argument as it is written.  A number is made up of a sign, the mark of its
base and digits; every other argument is characters only. -/
structure Written where
  numeric : Bool
  negative : Bool := false
  mark : List Char := []
  body : List Char

/-- A written argument in its place: padded to the width, with zeros behind the sign
and mark of a number if the layout says so, and with spaces otherwise. -/
def Layout.place (l : Layout) (w : Written) : List Char :=
  let sign : List Char :=
    if !w.numeric then []
    else if w.negative then ['-']
    else if l.plus then ['+']
    else if l.blank then [' ']
    else []
  let lead := sign ++ w.mark
  let missing := l.width - (lead.length + w.body.length)
  if l.left then lead ++ w.body ++ List.replicate missing ' '
  else if w.numeric && l.zeros then lead ++ List.replicate missing '0' ++ w.body
  else List.replicate missing ' ' ++ lead ++ w.body

/-- Characters, of which the precision says how many there may be. -/
def characters (l : Layout) (s : List Char) : Written :=
  ⟨false, false, [], match l.precision with | some n => s.take n | none => s⟩

/-- The quoted form of a value in ASCII. -/
def asciiQuoted (v : Value) : List Char :=
  v.quoted.toList.flatMap (fun c => if c.toNat < 0x80 then [c] else Text.codePointEscape c.toNat)

/-- The integer that a number is without its fraction. -/
def wholeOf (letter : Char) (v : Value) : Except TemplateFault Int :=
  match v, v.int? with
  | _, some n => .ok n
  | .float (.nan _), _ => .error .nanNotInteger
  | .float (.infinite _), _ => .error .infinityNotInteger
  | .float x, _ => .ok (x.truncate?.getD 0)
  | _, _ => .error (.notNumber letter v.typeName)

/-- An integer in a base, with as many digits as the precision says at least. -/
def integer (l : Layout) (base : Nat) (mark : List Char) (n : Int) :
    Except TemplateFault Written :=
  if Nat.pow 2 31 - 4 < l.precision.getD 0 then .error .tooManyDigits
  else
    .ok ⟨true, n < 0, if l.alternate then mark else [],
      Places.padded base (l.precision.getD 0) n.natAbs⟩

/-- The ASCII letters in upper case. -/
def Written.upper (w : Written) : Written :=
  { w with mark := w.mark.map Char.toUpper, body := w.body.map Char.toUpper }

/-- An integer in base eight or sixteen. -/
def basedInteger (l : Layout) (letter : Char) (base : Nat) (mark : List Char) (v : Value) :
    Except TemplateFault Written :=
  match v.int? with
  | some n => integer l base mark n
  | none => .error (.notInteger letter v.typeName)

/-- A real number; without a precision six digits are meant. -/
def real (medium : Medium) (l : Layout) (style : NumberStyle) (v : Value) : Except Fault Written :=
  match v.toDouble? with
  | some (.ok x) =>
    .ok ⟨true, x.isNegative, [], x.renderPlaces style l.alternate (l.precision.getD 6)⟩
  | some (.error fault) =>
    match medium with
    | .text => .error fault
    | .bytes => .error (.template (.notReal medium v.typeName))
  | none => .error (.template (.notReal medium v.typeName))

/-- A single character: itself, or the one with a code. -/
def character (medium : Medium) (v : Value) : Except TemplateFault Written :=
  let bound : Int := match medium with
    | .text => 0x110000
    | .bytes => 0x100
  match medium, v, v.text?, v.int? with
  | _, _, _, some n =>
    if 0 ≤ n && n < bound then .ok ⟨false, false, [], [Char.ofNat n.toNat]⟩
    else .error (.characterOutOfRange medium)
  | .text, _, some s, _ =>
    match s.toList with
    | [c] => .ok ⟨false, false, [], [c]⟩
    | _ => .error (.notCharacter medium)
  | .bytes, .bytes [b], _, _ => .ok ⟨false, false, [], [Char.ofNat b.toNat]⟩
  | _, _, _, _ => .error (.notCharacter medium)

/-- What the letters s and b stand for: the plain form of a value in a text, and
nothing but bytes in bytes. -/
def plain (medium : Medium) (v : Value) : Except TemplateFault (List Char) :=
  match medium, v with
  | .text, _ => .ok v.plain.toList
  | .bytes, .bytes bs => .ok (ofBytes bs)
  | .bytes, _ => .error (.notBytes v.typeName)

/-- The same argument, if it can be written in full. -/
def inFull (v : Value) : Except Fault Value :=
  if v.isWritable then .ok v else .error (.tooManyDigits Value.writtenDigits)

/-- An integer in full. -/
def wholeInteger (l : Layout) (letter : Char) (v : Value) : Except Fault Written := do
  let n ← (wholeOf letter v).mapError Fault.template
  let w ← (integer l 10 [] n).mapError Fault.template
  let _ ← inFull (.int n)
  pure w

/-- Write an argument as a letter says.  The letter is at the index; the flag says
whether a digit stands in front of it. -/
def write (medium : Medium) (l : Layout) (letter : Char) (index : Nat) (behindDigit : Bool)
    (v : Value) : Except Fault Written :=
  let ofTemplate {α : Type} (r : Except TemplateFault α) : Except Fault α :=
    r.mapError Fault.template
  match letter with
  | 's' =>
    match medium with
    | .text => do ofTemplate (characters l <$> plain medium (← inFull v))
    | .bytes => ofTemplate (characters l <$> plain medium v)
  | 'r' => do
    let v ← inFull v
    match medium with
    | .text => pure (characters l v.quoted.toList)
    | .bytes => pure (characters l (asciiQuoted v))
  | 'a' => do pure (characters l (asciiQuoted (← inFull v)))
  | 'd' | 'i' | 'u' =>
    wholeInteger l (if medium == .bytes && letter == 'i' then 'd' else letter) v
  | 'o' => ofTemplate (basedInteger l letter 8 ['0', 'o'] v)
  | 'x' => ofTemplate (basedInteger l letter 16 ['0', 'x'] v)
  | 'X' => ofTemplate (Written.upper <$> basedInteger l letter 16 ['0', 'x'] v)
  | 'f' => real medium l .fixed v
  | 'F' => Written.upper <$> real medium l .fixed v
  | 'e' => real medium l .scientific v
  | 'E' => Written.upper <$> real medium l .scientific v
  | 'g' => real medium l .general v
  | 'G' => Written.upper <$> real medium l .general v
  | 'c' => ofTemplate (character medium v)
  | _ =>
    if medium == .bytes && letter == 'b' then ofTemplate (characters l <$> plain medium v)
    else if medium == .bytes && 0x80 ≤ letter.toNat && !behindDigit then
      .error (.template .letterNotAscii)
    else .error (.template (.unknownLetter medium letter index))

/-! ## §4. Templates. -/

/-- Fill in one place, from behind the percent sign; the template has `length`
characters in all. -/
def fillPlace (medium : Medium) (length : Nat) (supply : Supply) (rest : List Char) :
    Except Fault (List Char × Supply × List Char) := do
  let (supply, rest) ← takeName medium supply rest
  let (layout, supply, rest, behindDigit) ←
    (takeLayout medium supply rest).mapError Fault.template
  match rest with
  | [] => .error (.template .unfinished)
  | letter :: behind =>
    let (v, supply) ← supply.next.mapError Fault.template
    let w ← write medium layout letter (length - rest.length) behindDigit v
    pure (layout.place w, supply, behind)

/-- Fill in what is left of a template; every step passes a character. -/
def fillFrom (medium : Medium) (length : Nat) : Nat → Supply → List Char → Except Fault (List Char)
  | 0, _, _ => .ok []
  | fuel + 1, supply, rest =>
    match rest with
    | [] =>
      if supply.named.isNone && !supply.arguments.isEmpty then
        .error (.template (.unusedArguments medium))
      else .ok []
    | '%' :: '%' :: more => do
      let s ← fillFrom medium length fuel supply more
      pure ('%' :: s)
    | '%' :: more => do
      let (filled, supply, behind) ← fillPlace medium length supply more
      let s ← fillFrom medium length fuel supply behind
      pure (filled ++ s)
    | c :: more => do
      let s ← fillFrom medium length fuel supply more
      pure (c :: s)

/-- The template filled in with a value. -/
def fill (medium : Medium) (template : List Char) (v : Value) : Except Fault (List Char) :=
  fillFrom medium template.length (template.length + 1) (Supply.ofValue medium v) template

end OrderBy.Template
