/-
  OrderBy.Config.Document
  ───────────────────────
  **CONFIGURATIONS IN DOCUMENTS AND FILES.**

  A settings document is a mapping in which the settings are found under the key
  `sorter`.  A document or settings that count as false, such as an empty
  document, leave every setting at its default; so does a missing file.

  In which format documents are written is left open: whoever makes a configuration
  says how a text is read.
-/
import OrderBy.Config

namespace OrderBy

/-! ## §1. Documents. -/

/-- How a text is read as a document: the value that it describes, or why it describes
none. -/
abbrev DocumentReader : Type := List Char → Except DocumentFault Value

namespace Config

/-- The key under which the settings are found. -/
def sectionName : String := "sorter"

/-- The settings in the value of a document. -/
def entriesOfDocument (document : Value) : Except Fault Entries :=
  if !document.isTruthy then .ok []
  else match document with
    | .dict entries =>
      match (Value.getEntry? (.text sectionName) entries).getD .null with
      | .dict settings =>
        if settings.all (fun e => e.1.text?.isSome) then .ok settings
        else .error (.document .settingNameNotText)
      | v =>
        if v.isTruthy then .error (.document (.settingsNotMapping v.typeName)) else .ok []
    | v => .error (.document (.notMapping v.typeName))

/-- The configuration that a document describes. -/
def ofDocument (read : DocumentReader) (text : List Char) : Traced LogEntry Config := do
  match read text with
  | .error fault => Traced.fail (.document fault)
  | .ok document =>
    let entries ← Traced.ofExcept (entriesOfDocument document)
    ofEntries entries

/-! ## §2. Files. -/

/-- What is found in place of a settings file. -/
inductive File where
  | missing
  | directory
  | content (bytes : List UInt8)
  deriving DecidableEq, Repr

/-- Write every line end of a file as a line feed. -/
def unifyLineEnds : List Char → List Char
  | '\r' :: '\n' :: rest => '\n' :: unifyLineEnds rest
  | '\r' :: rest => '\n' :: unifyLineEnds rest
  | c :: rest => c :: unifyLineEnds rest
  | [] => []

/-- The configuration in a file; without one, the default configuration. -/
def ofFile (read : DocumentReader) : File → Traced LogEntry Config
  | .missing => pure {}
  | .directory => Traced.fail (.document .directory)
  | .content bytes =>
    match Text.decodeUtf8 bytes with
    | .error fault => Traced.fail (.document (.notUtf8 fault))
    | .ok text => ofDocument read (unifyLineEnds text)

end Config

end OrderBy
