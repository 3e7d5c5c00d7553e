/-
  OrderBy.Config
  ──────────────
  **THE CONFIGURATION OF A SORTER.**

  Three settings: the expression to sort by unless one is given, whether unknown
  directions are logged, and how many workers read records.  A configuration is
  made from entries, and every one that is made can be used: its expression, if
  it has one, can be read, and its worker count is no negative number.
-/
import OrderBy.Validation

namespace OrderBy

/-! ## §1. Configurations. -/

/-- The settings of a sorter. -/
structure Config where
  defaultExpression : Option String := none
  warnOnUnknownDirection : Bool := true
  decorateWorkers : Nat := 0
  deriving DecidableEq, Repr

namespace Config

/-- The name of the setting for the default expression. -/
def defaultExpressionName : String := "default_expression"

/-- The name of the setting for warnings. -/
def warnName : String := "warn_on_unknown_direction"

/-- The name of the setting for the number of workers. -/
def workersName : String := "decorate_workers"

/-- Check a default expression by reading it, with a parser that logs no
warnings; that it was read is logged. -/
def checkExpression (v : Value) : Traced LogEntry (Checked (Option String)) :=
  match v.toOptionalText with
  | .error r => pure (.error [⟨[], r⟩])
  | .ok none => pure (.ok none)
  | .ok (some s) =>
    let read := Parser.silent.parse (.text s)
    match read.outcome with
    | .ok _ => ⟨read.events, .ok (.ok (some s))⟩
    | .error (.malformed _ reason) =>
      ⟨read.events, .ok (.error [⟨[], .defaultExpression reason⟩])⟩
    | .error fault => ⟨read.events, .error fault⟩

/-- The configuration with the given entries. -/
def ofEntries (es : Entries) : Traced LogEntry Config := do
  let expression ←
    match es.field? defaultExpressionName with
    | some v => Checked.below (.field defaultExpressionName) <$> checkExpression v
    | none => pure (.ok none)
  let warn := es.optional warnName true (fun v => Checked.ofConversion v.toTruth)
  let workers := es.optional workersName 0 (fun v => Checked.ofConversion v.toCount)
  match Checked.both expression (Checked.both warn workers) with
  | .ok (e, w, n) => pure ⟨e, w, n⟩
  | .error is => Traced.fail (.invalid is)

end Config

/-! ## §2. Settings that may change. -/

/-- The settings of a sorter in use, to which anything can be assigned. -/
structure Settings where
  defaultExpression : Value
  warnOnUnknownDirection : Value
  decorateWorkers : Value

namespace Settings

/-- The settings of a configuration. -/
def ofConfig (c : Config) : Settings :=
  ⟨c.defaultExpression.elim .null .text, .bool c.warnOnUnknownDirection, .int c.decorateWorkers⟩

/-- The names of what settings have besides, none of which can be assigned to. -/
def readOnlyNames : List String := ["model_extra", "model_fields_set"]

/-- Assign to a setting, unchecked.  Names that begin with an underscore are no
settings, and assigning to them changes nothing. -/
def assign (s : Settings) (name : String) (v : Value) : Except Fault Settings :=
  if name == Config.defaultExpressionName then .ok { s with defaultExpression := v }
  else if name == Config.warnName then .ok { s with warnOnUnknownDirection := v }
  else if name == Config.workersName then .ok { s with decorateWorkers := v }
  else if name.startsWith "_" then .ok s
  else if readOnlyNames.contains name then .error (.readOnlySetting name)
  else .error (.unknownSetting name)

end Settings

end OrderBy
