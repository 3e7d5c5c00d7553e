/-
  OrderBy.Value.Text
  ──────────────────
  **VALUES AS TEXT.**

  A message shows a value in one of two ways.  *Quoted*, everything is written so
  that its kind can be seen: texts between quotes, sequences in brackets.
  *Plain*, a text stands for itself, a direction is written by its full name and a
  key in its canonical form; inside sequences everything is quoted.

  Either way an integer has so many digits at most; a value that holds a longer one
  cannot be written.
-/
import OrderBy.Value
import OrderBy.Text.Quoted
import OrderBy.Number.Decimal

namespace OrderBy.Value

/-- Items between commas. -/
def joinItems (items : List String) : String := ", ".intercalate items

/-- The full name of a direction. -/
def fullName (d : Direction) : String := "SortDirection." ++ d.name

mutual

/-- The quoted form of a value. -/
def quoted : Value → String
  | null => "None"
  | bool b => if b then "True" else "False"
  | int n => toString n
  | float x => String.ofList x.render
  | text s => Text.quoteString s
  | bytes bs => String.ofList (Text.quoteBytes bs)
  | list xs => "[" ++ joinItems (quotedItems xs) ++ "]"
  | tuple [] => "()"
  | tuple [x] => "(" ++ quoted x ++ ",)"
  | tuple (x :: y :: xs) => "(" ++ joinItems (quoted x :: quoted y :: quotedItems xs) ++ ")"
  | set [] => "set()"
  | set (x :: xs) => "\x7b" ++ joinItems (quoted x :: quotedItems xs) ++ "\x7d"
  | dict es => "\x7b" ++ joinItems (quotedEntries es) ++ "\x7d"
  | direction d => "<" ++ fullName d ++ ": " ++ Text.quoteString d.name ++ ">"
  | key k => "SortKey(field=" ++ Text.quoteString k.field ++ ", direction=<"
      ++ fullName k.direction ++ ": " ++ Text.quoteString k.direction.name ++ ">)"
  | probe _ label _ _ => "<Spy " ++ label ++ ">"
  | object className _ => "<" ++ className ++ ">"
termination_by structural v => v

/-- The quoted forms of some values. -/
def quotedItems : List Value → List String
  | [] => []
  | x :: xs => quoted x :: quotedItems xs
termination_by structural xs => xs

/-- The quoted forms of some entries, the key in front of a colon. -/
def quotedEntries : List (Value × Value) → List String
  | [] => []
  | e :: es => quotedEntry e :: quotedEntries es
termination_by structural es => es

/-- The quoted form of an entry. -/
def quotedEntry : Value × Value → String
  | (k, v) => quoted k ++ ": " ++ quoted v
termination_by structural e => e

end

/-- The plain form of a value. -/
def plain : Value → String
  | text s => s
  | direction d => fullName d
  | key k => k.render
  | v => quoted v

/-- How many digits an integer may be written with. -/
def writtenDigits : Nat := 4300

/-- Whether an integer has no more digits than may be written. -/
def isWritableInt (n : Int) : Bool := n.natAbs < Nat.pow 10 writtenDigits

mutual

/-- Whether every integer that is written with a value may be. -/
def isWritable : Value → Bool
  | int n => isWritableInt n
  | list xs | tuple xs | set xs => areWritable xs
  | dict es => areWritableEntries es
  | _ => true
termination_by structural v => v

/-- The same of some values. -/
def areWritable : List Value → Bool
  | [] => true
  | x :: xs => isWritable x && areWritable xs
termination_by structural xs => xs

/-- The same of some entries. -/
def areWritableEntries : List (Value × Value) → Bool
  | [] => true
  | e :: es => isWritableEntry e && areWritableEntries es
termination_by structural es => es

/-- The same of an entry. -/
def isWritableEntry : Value × Value → Bool
  | (k, v) => isWritable k && isWritable v
termination_by structural e => e

end

end OrderBy.Value
