/-
  OrderBy.Sorter
  ──────────────
  **SORTING RECORDS BY AN EXPRESSION.**

  A sort goes through phases that do not overlap:

      read the expression  →  list the records  →  resolve the accessors
        →  read every distinct field of every record  →  compare  →  log

  A fault in one phase keeps the later ones from beginning.  The comparisons see
  keys only: records themselves are never compared, and records that tie on every
  key keep the order that they came in.

  There are several ways in, which differ in where the parser, the number of
  workers and a missing expression come from, and in nothing else.
-/
import OrderBy.BinaryInsertion
import OrderBy.Config
import OrderBy.Decoration

namespace OrderBy

variable {σ : Type}

/-! ## §1. What is sorted, and by what. -/

/-- Where records come from: a list, or a value whose items they are. -/
inductive Source where
  | records (rs : List Record)
  | value (v : Value)

/-- Number some values, beginning with `n`, and make each a plain record. -/
def plainRecords : Nat → List Value → List Record
  | _, [] => []
  | n, v :: vs => ⟨n, .plain v⟩ :: plainRecords (n + 1) vs

/-- The records of a source, which must be one that can be iterated over. -/
def Source.toList : Source → Except Fault (List Record)
  | records rs => .ok rs
  | value v => plainRecords 0 <$> v.itemsOrFault

/-- What records are sorted by: an expression that was read, or a value that
still has to be. -/
inductive Criterion where
  | parsed (e : Expression)
  | written (v : Value)

/-- The expression of a criterion, read by a parser if need be. -/
def Criterion.read (p : Parser) : Criterion → Traced LogEntry Expression
  | parsed e => pure e
  | written v => p.parse v

/-! ## §2. Comparing decorated records. -/

/-- Ask whether one decorated record comes strictly before another. -/
def Decorated.before (ds : List Direction) (x y : Decorated) : Traced Event Bool := do
  Traced.emit (.question x.position y.position)
  (keyBefore ds x.key y.key).mapEvents .comparison

/-- Decorated records in the order of their keys under some directions. -/
def sortDecorated (ds : List Direction) (xs : List Decorated) : Traced Event (List Decorated) :=
  BinaryInsertion.sort (Decorated.before ds) xs

/-! ## §3. Sorters. -/

/-- How records are sorted: the parser for expressions and the number of workers
that read records, which may be any value that can be compared with one. -/
structure Sorter where
  parser : Parser
  workers : Value

namespace Sorter

/-- The sorter that is used unless another is given. -/
def standard : Sorter := ⟨Parser.standard, .int 0⟩

/-- Whether there is more than one worker. -/
def isConcurrent (s : Sorter) : Except Fault Bool := (s.workers.ask .greater (.int 1)).outcome

/-- Sort the records of a source under a schedule for concurrent readings; the
result keeps their keys and where they were in the input. -/
def sortKeyed (s : Sorter) (schedule : List Nat) (source : Source) (criterion : Criterion)
    (extractors : Extractors σ) : Run σ Event (List Decorated) := do
  let e ← Run.lift ((criterion.read s.parser).mapEvents .log)
  let records ← Run.lift (Traced.ofExcept source.toList)
  let concurrent ← Run.lift (Traced.ofExcept s.isConcurrent)
  let decorated ← decorate concurrent schedule e.fields extractors records
  let sorted ← Run.lift (sortDecorated e.directions decorated)
  Run.emit (.log (.sorted sorted.length e.canonical))
  pure sorted

/-- The records of a source in order. -/
def sort (s : Sorter) (schedule : List Nat) (source : Source) (criterion : Criterion)
    (extractors : Extractors σ) : Run σ Event (List Record) :=
  List.map Decorated.record <$> s.sortKeyed schedule source criterion extractors

end Sorter

/-! ## §4. Ways in. -/

/-- Sort with the standard sorter. -/
def sortBy (source : Source) (criterion : Criterion) (extractors : Extractors σ) :
    Run σ Event (List Record) :=
  Sorter.standard.sort [] source criterion extractors

/-- A list of records that can be sorted. -/
structure RecordList where
  records : List Record

namespace RecordList

/-- The list of the records of a source. -/
def ofSource (source : Source) : Except Fault RecordList := mk <$> source.toList

/-- The list in order. -/
def sortBy (l : RecordList) (criterion : Criterion) (extractors : Extractors σ) :
    Run σ Event RecordList :=
  mk <$> OrderBy.sortBy (.records l.records) criterion extractors

end RecordList

/-- A sorter that is bound to settings. -/
structure BoundSorter where
  settings : Settings
  sorter : Sorter

namespace BoundSorter

/-- The record sorter of a configuration: its parser and workers are settled here,
its default expression only when it is needed. -/
def ofConfig (c : Config) : BoundSorter :=
  ⟨Settings.ofConfig c, ⟨{ warn := c.warnOnUnknownDirection }, .int c.decorateWorkers⟩⟩

/-- Read an expression. -/
def parse (s : BoundSorter) (expression : Value) : Traced LogEntry Expression :=
  s.sorter.parser.parse expression

/-- The criterion to sort by: the given one, or the default expression in place of
none. -/
def criterion (s : BoundSorter) : Criterion → Except Fault Criterion
  | .written .null =>
    match s.settings.defaultExpression with
    | .null => .error (.malformed .null .noExpression)
    | v => .ok (.written v)
  | c => .ok c

/-- Sort under a schedule and keep the keys. -/
def sortKeyed (s : BoundSorter) (schedule : List Nat) (source : Source) (criterion : Criterion)
    (extractors : Extractors σ) : Run σ Event (List Decorated) := do
  let c ← Run.lift (Traced.ofExcept (s.criterion criterion))
  s.sorter.sortKeyed schedule source c extractors

/-- The records of a source in order. -/
def sort (s : BoundSorter) (schedule : List Nat) (source : Source) (criterion : Criterion)
    (extractors : Extractors σ) : Run σ Event (List Record) :=
  List.map Decorated.record <$> s.sortKeyed schedule source criterion extractors

end BoundSorter

end OrderBy
