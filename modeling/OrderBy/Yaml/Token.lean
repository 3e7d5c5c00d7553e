/-
  OrderBy.Yaml.Token
  ──────────────────
  **THE TOKENS OF A DOCUMENT.**

  Indentation becomes tokens: a block begins where something stands further right
  than the block around it, and ends where something stands further left.  That
  something is a key is seen only at the colon behind it; until then its place is
  remembered as a *possible key*, and the tokens for the key are put in there
  afterwards.  A possible key ends with its line, and after 1024 characters.

  Tokens are given out as soon as they are settled: when no key can be put in front
  of them any more.  A text that cannot be cut into tokens is cut as far as it can
  be; behind the tokens that were settled until then, the last one says what is
  wrong.
-/
import OrderBy.Yaml.Scalar

namespace OrderBy.Yaml

/-! ## §1. Tokens. -/

/-- A token. -/
inductive Token where
  | streamEnd
  | documentStart
  | documentEnd
  | blockSequenceStart
  | blockMappingStart
  | blockEnd
  | flowSequenceStart
  | flowSequenceEnd
  | flowMappingStart
  | flowMappingEnd
  | blockEntry
  | flowEntry
  | key
  | value
  | scalar (text : List Char) (plain : Bool)
  /-- Here the text cannot be read any further. -/
  | unreadable (fault : DocumentFault)
  deriving DecidableEq, Repr

/-- Where a key may have begun: the number of tokens in front of it, whether it
must be a key because it begins a line of its block, and its place. -/
structure PossibleKey where
  tokens : Nat
  required : Bool
  index : Nat
  line : Nat
  column : Nat

/-- The state of the reader: the place, how many brackets are open, the tokens so
far with the latest first, the columns of the open blocks from the innermost on,
whether a key may begin here, and the possible keys by number of open brackets. -/
structure Lexer where
  cursor : Cursor
  depth : Nat
  tokens : List Token
  column : Int
  outer : List Int
  allowKey : Bool
  keys : List (Nat × PossibleKey)

namespace Lexer

/-- The state before the first token. -/
def start (text : List Char) : Lexer :=
  let c := Cursor.start text
  let cursor := if c.peek? 0 == some byteOrderMark then c.advance else c
  ⟨cursor, 0, [], -1, [], true, []⟩

/-- Whether any bracket is open. -/
def inFlow (s : Lexer) : Bool := s.depth != 0

/-! ## §2. Between tokens. -/

/-- Pass spaces, comments and line breaks.  Outside brackets a key may begin on a
new line. -/
def skipToToken : Nat → Lexer → Lexer
  | 0, s => s
  | fuel + 1, s =>
    let behindSpaces := s.cursor.skipWhile (· == ' ')
    let behind :=
      if behindSpaces.peek? 0 == some '#' then behindSpaces.skipWhile (!isBreak ·) else behindSpaces
    match behind.takeBreak? with
    | none => { s with cursor := behind }
    | some (_, next) =>
      skipToToken fuel { s with cursor := next, allowKey := s.allowKey || !s.inFlow }

/-- Whether a possible key was left behind. -/
def isStale (s : Lexer) (k : PossibleKey) : Bool :=
  k.line != s.cursor.line || k.index + 1024 < s.cursor.index

/-- Forget the possible keys that were left behind; a required one must not be. -/
def expireKeys (s : Lexer) : Except DocumentFault Lexer :=
  if s.keys.any (fun k => s.isStale k.2 && k.2.required) then .error .malformed
  else .ok { s with keys := s.keys.filter (fun k => !s.isStale k.2) }

/-- The tokens that are settled, the latest first: those in front of every possible
key that was not left behind. -/
def settled (s : Lexer) : List Token :=
  let waiting := s.keys.filter (fun k => !s.isStale k.2)
  let count := waiting.foldl (fun n k => min n k.2.tokens) s.tokens.length
  s.tokens.drop (s.tokens.length - count)

/-- End the blocks that stand further right than a column. -/
def closeFrom (target : Int) : Int → List Int → List Token → Int × List Int × List Token
  | column, [], tokens => (column, [], tokens)
  | column, next :: outer, tokens =>
    if target < column then closeFrom target next outer (.blockEnd :: tokens)
    else (column, next :: outer, tokens)

/-- The same of a state; inside brackets indentation has no meaning. -/
def closeBlocks (s : Lexer) (target : Int) : Lexer :=
  if s.inFlow then s
  else
    let (column, outer, tokens) := closeFrom target s.column s.outer s.tokens
    { s with column, outer, tokens }

/-! ## §3. Possible keys. -/

/-- Forget the possible key at this depth, which must not be a required one. -/
def forgetKey (s : Lexer) : Except DocumentFault Lexer :=
  if (s.keys.lookup s.depth).any (·.required) then .error .malformed
  else .ok { s with keys := s.keys.filter (·.1 != s.depth) }

/-- Remember this place as a possible key, if keys are allowed here. -/
def noteKey (s : Lexer) : Except DocumentFault Lexer :=
  if s.allowKey then do
    let required := !s.inFlow && s.column == s.cursor.column
    let key : PossibleKey :=
      ⟨s.tokens.length, required, s.cursor.index, s.cursor.line, s.cursor.column⟩
    let cleared ← s.forgetKey
    pure { cleared with keys := (s.depth, key) :: cleared.keys }
  else .ok s

/-- Begin a block at a column, unless one as far right is open; the token goes
behind the given number of tokens. -/
def openBlock (s : Lexer) (column : Int) (behind : Nat) (token : Token) : Lexer :=
  if s.column < column then
    let after := s.tokens.length - behind
    { s with
      column
      outer := s.column :: s.outer
      tokens := s.tokens.take after ++ token :: s.tokens.drop after }
  else s

/-- Append a token and pass some characters. -/
def emit (s : Lexer) (token : Token) (width : Nat) : Lexer :=
  { s with cursor := s.cursor.forward width, tokens := token :: s.tokens }

/-! ## §4. One token. -/

/-- A document marker, which ends all blocks. -/
def marker (s : Lexer) (token : Token) : Except DocumentFault Lexer := do
  let s ← (s.closeBlocks (-1)).forgetKey
  pure ({ s with allowKey := false }.emit token 3)

/-- An opening bracket. -/
def openBracket (s : Lexer) (token : Token) : Except DocumentFault Lexer := do
  let s ← s.noteKey
  pure ({ s with depth := s.depth + 1, allowKey := true }.emit token 1)

/-- A closing bracket. -/
def closeBracket (s : Lexer) (token : Token) : Except DocumentFault Lexer := do
  let s ← s.forgetKey
  pure ({ s with depth := s.depth - 1, allowKey := false }.emit token 1)

/-- A comma between brackets. -/
def flowEntry (s : Lexer) : Except DocumentFault Lexer := do
  let s ← { s with allowKey := true }.forgetKey
  pure (s.emit .flowEntry 1)

/-- The hyphen in front of an item.  Outside brackets it may stand only where a
key may, and begins a sequence if it stands further right than the block. -/
def blockEntry (s : Lexer) : Except DocumentFault Lexer := do
  if !s.inFlow && !s.allowKey then .error .malformed
  else
    let opened :=
      if s.inFlow then s else s.openBlock s.cursor.column s.tokens.length .blockSequenceStart
    let s ← { opened with allowKey := true }.forgetKey
    pure (s.emit .blockEntry 1)

/-- The question mark in front of a key. -/
def explicitKey (s : Lexer) : Except DocumentFault Lexer := do
  if !s.inFlow && !s.allowKey then .error .malformed
  else
    let opened :=
      if s.inFlow then s else s.openBlock s.cursor.column s.tokens.length .blockMappingStart
    let s ← { opened with allowKey := !s.inFlow }.forgetKey
    pure (s.emit .key 1)

/-- The colon in front of a value.  If there is a possible key at this depth it
was one, and begins a mapping if it stands further right than the block. -/
def value (s : Lexer) : Except DocumentFault Lexer := do
  match s.keys.lookup s.depth with
  | some key =>
    let after := s.tokens.length - key.tokens
    let keyed :=
      { s with
        keys := s.keys.filter (·.1 != s.depth)
        tokens := s.tokens.take after ++ Token.key :: s.tokens.drop after }
    let opened :=
      if s.inFlow then keyed else keyed.openBlock key.column key.tokens .blockMappingStart
    pure ({ opened with allowKey := false }.emit .value 1)
  | none =>
    if !s.inFlow && !s.allowKey then .error .malformed
    else
      let opened :=
        if s.inFlow then s else s.openBlock s.cursor.column s.tokens.length .blockMappingStart
      let s ← { opened with allowKey := !s.inFlow }.forgetKey
      pure (s.emit .value 1)

/-- A quoted scalar. -/
def quoted (s : Lexer) (double : Bool) : Except DocumentFault Lexer := do
  let s ← s.noteKey
  let (text, cursor) ← quotedScalar double s.cursor
  pure { s with cursor, allowKey := false, tokens := .scalar text false :: s.tokens }

/-- A plain scalar.  A key may begin behind it if a line ended there. -/
def plain (s : Lexer) : Except DocumentFault Lexer := do
  let s ← s.noteKey
  let (text, crossed, cursor) := plainScalar s.inFlow (s.column + 1) s.cursor
  pure { s with cursor, allowKey := crossed, tokens := .scalar text true :: s.tokens }

/-- The characters that have a meaning of their own. -/
def indicators : List Char := "-?:,[]\x7b\x7d#&*!|>\x27\x22%@\x60".toList

/-- Whether a plain scalar can begin with a character, before another one: with
any that is no indicator, and with a hyphen, a question mark or a colon that does
not stand alone. -/
def startsPlain (inFlow : Bool) (ch : Char) (next : Option Char) : Bool :=
  !(endsWord (some ch) || indicators.contains ch)
    || (!endsWord next && (ch == '-' || (!inFlow && (ch == '?' || ch == ':'))))

/-- The token that begins with the given characters. -/
def token (s : Lexer) (ch : Char) (next : Option Char) : Except DocumentFault Lexer :=
  let alone := endsWord next
  if s.cursor.column == 0 && s.cursor.atMarker then
    s.marker (if ch == '-' then .documentStart else .documentEnd)
  else if ch == '[' then s.openBracket .flowSequenceStart
  else if ch == '\x7b' then s.openBracket .flowMappingStart
  else if ch == ']' then s.closeBracket .flowSequenceEnd
  else if ch == '\x7d' then s.closeBracket .flowMappingEnd
  else if ch == ',' then s.flowEntry
  else if ch == '-' && alone then s.blockEntry
  else if ch == '?' && (s.inFlow || alone) then s.explicitKey
  else if ch == ':' && (s.inFlow || alone) then s.value
  else if ch == Text.singleQuote then s.quoted false
  else if ch == Text.doubleQuote then s.quoted true
  else if startsPlain s.inFlow ch next then s.plain
  else .error .malformed

/-! ## §5. All tokens. -/

/-- The state behind the next token, or the state at the end of the text. -/
def step (s : Lexer) : Except DocumentFault (Lexer ⊕ Lexer) := do
  let s ← (s.skipToToken (s.cursor.rest.length + 1)).expireKeys
  let s := s.closeBlocks s.cursor.column
  match s.cursor.rest with
  | ch :: rest => .inl <$> s.token ch rest.head?
  | [] => do
    let s ← (s.closeBlocks (-1)).forgetKey
    pure (.inr { s with tokens := .streamEnd :: s.tokens })

/-- All tokens from a state on, the latest first. -/
def run : Nat → Lexer → List Token
  | 0, s => .unreadable .malformed :: s.tokens
  | fuel + 1, s =>
    match s.step with
    | .error fault => .unreadable fault :: s.settled
    | .ok (.inr last) => last.tokens
    | .ok (.inl next) => run fuel next

end Lexer

/-- The tokens of a text.  Every token but the last takes up a character. -/
def Token.ofText (text : List Char) : List Token :=
  ((Lexer.start text).run (text.length + 2)).reverse

end OrderBy.Yaml
