/-
  OrderBy.Session
  ───────────────
  **A SORTER IN USE.**

  A session holds a record sorter, records that were created one after the other,
  a list of some of them, and the expression that was read last.  Its commands
  sort the list, read expressions, and change the settings, the list and the
  records.  A command that fails changes nothing.

  Settings are assigned unchecked, and the parser and the worker count were
  settled when the sorter was made: assigning to a setting changes what is used
  in place of a missing expression, and nothing else.
-/
import OrderBy.Sorter
import OrderBy.Record.Extractor

namespace OrderBy

/-! ## §1. Requests. -/

/-- What a caller asks to sort by. -/
inductive Request where
  /-- A value, normally the text of an expression. -/
  | written (v : Value)
  /-- The expression with these fields. -/
  | fields (es : Entries)
  /-- An expression that the standard parser reads beforehand. -/
  | parse (v : Value)
  /-- The expression that the session read last. -/
  | stored

/-- The criterion that a request stands for; nothing stored is no criterion. -/
def Request.criterion (stored : Option Expression) : Request → Traced LogEntry Criterion
  | written v => pure (.written v)
  | fields es => .parsed <$> Traced.ofExcept (Expression.ofEntries es).toExcept
  | parse v => .parsed <$> Expression.read v
  | .stored => pure (stored.elim (.written .null) .parsed)

/-! ## §2. Sessions and commands. -/

/-- The state of a session.  The number of a record is its place in `records`. -/
structure Session where
  sorter : BoundSorter
  records : List Record
  list : List Nat
  stored : Option Expression

/-- What a sort in a session is given. -/
structure SortOrder where
  request : Request
  extractors : List (String × Option Extractor)
  /-- Whether the result becomes the list. -/
  keep : Bool

/-- What can be done in a session. -/
inductive Command where
  /-- Sort the list with the session's sorter. -/
  | sort (order : SortOrder)
  /-- Let the list sort itself. -/
  | sortList (order : SortOrder)
  /-- Read an expression and store it. -/
  | parse (expression : Value)
  | setSetting (name : String) (value : Value)
  | getSettings
  /-- Change whether the sorter's parser logs warnings. -/
  | setWarn (value : Value)
  /-- Change how many workers the sorter has. -/
  | setWorkers (value : Value)
  /-- Create a record and append it to the list. -/
  | push (body : RecordBody)
  | pop (index : Value)
  | reverse
  | setField (record : Nat) (name : String) (value : Value)

/-- What a command answers. -/
inductive Reply where
  | sorted (numbers : List Nat)
  | canonical (form : String)
  | settings (s : Settings)
  | done

namespace Session

/-- Number some records. -/
def number : Nat → List RecordBody → List Record
  | _, [] => []
  | n, b :: bs => ⟨n, b⟩ :: number (n + 1) bs

/-- A session with a sorter and some records, all of them in the list. -/
def start (sorter : BoundSorter) (bodies : List RecordBody) : Session :=
  ⟨sorter, number 0 bodies, List.range bodies.length, none⟩

/-- The records of the list. -/
def listed (s : Session) : Source := .records (s.list.filterMap (fun i => s.records[i]?))

/-- Remove the item at an index, a negative one counting from the end. -/
def popAt (list : List Nat) (index : Int) : Except Fault (List Nat) :=
  if index < -Value.indexBound || Value.indexBound ≤ index then .error .popIndexTooLarge
  else if list.isEmpty then .error .popFromEmpty
  else
    let place := if index < 0 then index + list.length else index
    if place < 0 || (list.length : Int) ≤ place then .error .popOutOfRange
    else .ok (list.eraseIdx place.toNat)

/-- The numbers of the listed records in order, by the session's sorter or by the
list itself. -/
def sortNumbers (s : Session) (bySorter : Bool) (order : SortOrder) : Traced Event (List Nat) := do
  let criterion ← (order.request.criterion s.stored).mapEvents .log
  let extractors := Extractor.register order.extractors
  let sorting : Run Tally Event (List Record) :=
    if bySorter then s.sorter.sort [] s.listed criterion extractors
    else do
      let l ← Run.lift (Traced.ofExcept (RecordList.ofSource s.listed))
      RecordList.records <$> l.sortBy criterion extractors
  List.map Record.id <$> (sorting []).1

/-- Sort, and make the result the list if it is to be kept. -/
def sorted (s : Session) (bySorter : Bool) (order : SortOrder) :
    Traced Event (Reply × Session) := do
  let numbers ← s.sortNumbers bySorter order
  pure (.sorted numbers, if order.keep then { s with list := numbers } else s)

/-- Carry out a command. -/
def carryOut (s : Session) : Command → Traced Event (Reply × Session)
  | .sort order => s.sorted true order
  | .sortList order => s.sorted false order
  | .parse expression => do
    let e ← (s.sorter.parse expression).mapEvents .log
    pure (.canonical e.canonical, { s with stored := some e })
  | .setSetting name value => do
    let settings ← Traced.ofExcept (s.sorter.settings.assign name value)
    pure (.done, { s with sorter := { s.sorter with settings } })
  | .getSettings => pure (.settings s.sorter.settings, s)
  | .setWarn value =>
    let parser : Parser := { s.sorter.sorter.parser with warn := value.isTruthy }
    let sorter : Sorter := { s.sorter.sorter with parser }
    pure (.done, { s with sorter := { s.sorter with sorter } })
  | .setWorkers value =>
    let sorter : Sorter := { s.sorter.sorter with workers := value }
    pure (.done, { s with sorter := { s.sorter with sorter } })
  | .push body =>
    let n := s.records.length
    pure (.done, { s with records := s.records ++ [⟨n, body⟩], list := s.list ++ [n] })
  | .pop index => do
    match index.int? with
    | some i =>
      let list ← Traced.ofExcept (popAt s.list i)
      pure (.done, { s with list })
    | none => Traced.fail (.indexNotInteger index.typeName)
  | .reverse => pure (.done, { s with list := s.list.reverse })
  | .setField record name value =>
    pure (.done, { s with records := s.records.modify record (·.setField name value) })

/-- Carry out a command and keep the session as it was if it fails. -/
def step (s : Session) (c : Command) : Traced Event Reply × Session :=
  match s.carryOut c with
  | ⟨es, .ok (reply, s')⟩ => (⟨es, .ok reply⟩, s')
  | ⟨es, .error fault⟩ => (⟨es, .error fault⟩, s)

end Session

end OrderBy
