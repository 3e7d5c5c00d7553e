/-
  OrderBy.Expression.Parser
  ─────────────────────────
  **READING SORT EXPRESSIONS.**

  An expression is a list of groups between separators.  A group is a field,
  optionally followed by a direction token, with blanks around and between them.

      "year DESC, month asc, day"  ↦  year DESC, month ASC, day ASC

  What is wrong with an expression is decided in this order:

    1. it is not a text, and can be written in the message or not;
    2. it is blank;
    3. the parser's separator is empty;
    4. the leftmost group with no token, or with more than the parser allows;
    5. the leftmost group whose field is no field name, which can happen only if
       the separator is not a comma.

  Nothing is logged about an expression that fails in the first four ways.
-/
import OrderBy.Traced
import OrderBy.Log
import OrderBy.Fault.Message
import OrderBy.Text.Blank

namespace OrderBy

/-! ## §1. Groups. -/

/-- A group of an expression: its field and its direction token, if it has one. -/
structure Group where
  field : String
  token : Option String
  deriving DecidableEq, Repr

namespace Group

/-- The group that some tokens make at a position, counted from 1.  Tokens after
the second are allowed as far as `maxTokens` does, and ignored. -/
def ofTokens (maxTokens : Int) (position : Nat) : List String → Except Reason Group
  | [] => .error (.emptyGroup position)
  | field :: more =>
    if maxTokens < more.length + 1 then .error (.tooManyTokens position (more.length + 1))
    else .ok ⟨field, more.head?⟩

/-- The groups that the pieces of a text make, the first of them at the given
position. -/
def ofPieces (maxTokens : Int) : Nat → List (List Char) → Except Reason (List Group)
  | _, [] => .ok []
  | position, piece :: rest => do
    let g ← ofTokens maxTokens position ((Text.words piece).map String.ofList)
    let gs ← ofPieces maxTokens (position + 1) rest
    pure (g :: gs)

/-- The direction of a group: that of its token, and ascending without one. -/
def direction (g : Group) : Direction := g.token.elim .ascending Direction.ofToken

/-- The sort key of a group. -/
def key (g : Group) : Except Fault SortKey :=
  match SortKey.ofField g.field g.direction with
  | .ok k => .ok k
  | .error fault => .error (.invalid [⟨[.field "field"], .fieldName fault⟩])

/-- The warning that a group deserves: its token is not the name of a direction
in any case of letters. -/
def warning? (expression : Value) (g : Group) : Option LogEntry :=
  match g.token with
  | some token =>
    if Direction.isKnownToken token then none
    else some (.unknownDirection token g.field expression)
  | none => none

end Group

/-! ## §2. Parsers. -/

/-- How expressions are read: whether unknown directions are logged, what
separates the groups, and how many tokens a group may have. -/
structure Parser where
  warn : Bool := true
  separator : String := ","
  maxTokens : Int := 2
  deriving DecidableEq, Repr

namespace Parser

/-- The parser that reads expressions unless another is given. -/
def standard : Parser := {}

/-- The parser that logs no warnings. -/
def silent : Parser := { warn := false }

/-- The groups of a text, which `expression` is. -/
def groups (p : Parser) (expression : Value) (text : List Char) : Except Fault (List Group) :=
  if Text.allBlank text then .error (.malformed expression .noFields)
  else if p.separator.isEmpty then .error .emptySeparator
  else match Group.ofPieces p.maxTokens 1 (Text.pieces p.separator.toList text) with
    | .ok gs => .ok gs
    | .error reason => .error (.malformed expression reason)

/-- Read one group, and log its warning first. -/
def readGroup (p : Parser) (expression : Value) (g : Group) : Traced LogEntry SortKey := do
  match if p.warn then g.warning? expression else none with
  | some entry => Traced.emit entry
  | none => pure ()
  Traced.ofExcept g.key

/-- Read some groups, in order. -/
def readGroups (p : Parser) (expression : Value) : List Group → Traced LogEntry (List SortKey)
  | [] => pure []
  | g :: gs => do
    let k ← p.readGroup expression g
    let ks ← p.readGroups expression gs
    pure (k :: ks)

end Parser

/-- The expression with the given text and keys, of which there must be some. -/
def Expression.ofKeys (text : String) (keys : List SortKey) : Except Fault Expression :=
  if h : keys ≠ [] then .ok ⟨text, keys, h⟩ else .error (.invalid [⟨[.field "keys"], .noKeys⟩])

/-- Read an expression. -/
def Parser.parse (p : Parser) (expression : Value) : Traced LogEntry Expression := do
  match expression.text? with
  | none => Traced.fail (.ofMalformed expression (.notText expression.typeName))
  | some text =>
    let gs ← Traced.ofExcept (p.groups expression text.toList)
    let keys ← p.readGroups expression gs
    let parsed ← Traced.ofExcept (Expression.ofKeys text keys)
    Traced.emit (.parsed expression parsed.canonical)
    pure parsed

/-- Read a text with the standard parser. -/
def Expression.read (expression : Value) : Traced LogEntry Expression :=
  Parser.standard.parse expression

/-! ## §3. Checking without reading. -/

/-- The verdict on an expression: whether it can be read and, if it is malformed,
the message. -/
structure Verdict where
  valid : Bool
  message : Option String
  deriving DecidableEq, Repr

/-- Check an expression.  Only malformed expressions are turned into a verdict;
every other fault is passed on. -/
def Parser.validate (p : Parser) (expression : Value) : Traced LogEntry Verdict :=
  let read := p.parse expression
  match read.outcome with
  | .ok _ => ⟨read.events, .ok ⟨true, none⟩⟩
  | .error (.malformed e reason) => ⟨read.events, .ok ⟨false, some (reason.message e)⟩⟩
  | .error fault => ⟨read.events, .error fault⟩

end OrderBy
