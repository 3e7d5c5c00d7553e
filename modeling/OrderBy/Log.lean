/-
  OrderBy.Log
  ───────────
  **WHAT IS LOGGED.**

  Three things are worth a line in the log: an expression that was read, a
  direction token that nobody knows, and a sort that was finished.  Texts in a
  log line are quoted; an expression given as a direction shows that it is one.
-/
import OrderBy.Value.Text

namespace OrderBy

/-- The importance of a log line. -/
inductive LogLevel where
  | debug
  | warning
  deriving DecidableEq, Repr

/-- The name of a level. -/
def LogLevel.name : LogLevel → String
  | debug => "DEBUG"
  | warning => "WARNING"

/-- A line of the log. -/
inductive LogEntry where
  /-- An expression was read; the second text is its canonical form. -/
  | parsed (expression : Value) (canonical : String)
  /-- A group of an expression has an unknown direction token. -/
  | unknownDirection (token field : String) (expression : Value)
  /-- Some records were sorted by an expression with this canonical form. -/
  | sorted (count : Nat) (canonical : String)

namespace LogEntry

/-- Only an unknown direction is a warning. -/
def level : LogEntry → LogLevel
  | unknownDirection _ _ _ => .warning
  | parsed _ _ | sorted _ _ => .debug

/-- The text of a line. -/
def message : LogEntry → String
  | parsed expression canonical =>
    "Parsed sort expression " ++ expression.quoted ++ " as " ++ Text.quoteString canonical
  | unknownDirection token field expression =>
    "Unrecognised sort direction " ++ Text.quoteString token ++ " for field "
      ++ Text.quoteString field ++ " in " ++ expression.quoted ++ ", sorting ascending"
  | sorted count canonical =>
    "Sorted " ++ toString count ++ " records by " ++ Text.quoteString canonical

end LogEntry

end OrderBy
