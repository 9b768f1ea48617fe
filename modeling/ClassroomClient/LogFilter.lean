/-
# Log filters

Which log records are shown is set by a text of directives between commas. A directive names a
target, a span and a field that a record must have, and the least severe level that it shows:
`target[span{field}]=level`, where each part may be missing. Of the directives that apply to a
record the most specific one decides, and of equally specific ones the last.
-/

import ClassroomClient.Text.Alphanumeric
import ClassroomClient.Text.Blank
import ClassroomClient.Text.Decimal

namespace ClassroomClient

/-- How severe a record is, from the most severe to the least. -/
inductive LogLevel
  | error
  | warn
  | info
  | debug
  | trace
  deriving DecidableEq, Repr, Inhabited

/-- The number of a level. A more severe level has a smaller number. -/
def LogLevel.rank : LogLevel → Nat
  | error => 1
  | warn => 2
  | info => 3
  | debug => 4
  | trace => 5

/-- The least severe level that a directive shows, or `none` if it hides everything. -/
abbrev Threshold := Option LogLevel

/-- The thresholds by their numbers, each with its name. -/
def Threshold.table : List (String × Threshold) :=
  [("off", none), ("error", some .error), ("warn", some .warn), ("info", some .info),
   ("debug", some .debug), ("trace", some .trace)]

/-- Reads a threshold, a name in any case or a number. -/
def Threshold.ofText? (text : List Char) : Option Threshold :=
  match Text.readSize? text with
  | some number => (Threshold.table[number]?).map (·.2)
  | none => Threshold.table.lookup (String.ofList (text.map Char.toLower))

/-- A part of a filter. -/
structure Directive where
  /-- The beginning that the target of a record must have. -/
  target : Option (List Char)
  /-- The span within which a record must fall. -/
  span : Option (List Char)
  /-- The field that a record must have, and whether a value is asked for. -/
  field : Option (List Char × Bool)
  threshold : Threshold
  deriving DecidableEq, Repr, Inhabited

namespace Directive

/-- A directive while it is read: what is still to be scanned, and the text from the same place
on. Blanks at the ends are not scanned, but places are counted from the start of the text. -/
structure Rest where
  scanned : List Char
  text : List Char

/-- Splits at the first character that ends a part. Without one the part is the whole rest. -/
def Rest.splitAt (rest : Rest) (ends : List Char) : List Char × Option (Char × Rest) :=
  let size := (rest.scanned.takeWhile fun c => !ends.contains c).length
  match rest.scanned.drop size with
  | [] => (rest.text, none)
  | c :: scanned => (rest.text.take size, some (c, ⟨scanned, rest.text.drop (size + 1)⟩))

/-- Reads the level. Without one everything is shown. -/
def readLevel (directive : Directive) (text : List Char) : Option Directive :=
  if text.isEmpty then some directive
  else (Threshold.ofText? text).map fun threshold => { directive with threshold }

/-- Reads what stands behind the closing bracket. -/
def readEnd (directive : Directive) (rest : Rest) : Option Directive :=
  match rest.scanned with
  | [] => some directive
  | '=' :: _ => readLevel directive (rest.text.drop 1)
  | _ => none

/-- Reads a field and the bracket behind it. -/
def readField (directive : Directive) (rest : Rest) : Option Directive :=
  match rest.splitAt ['\x7d'] with
  | ([], _) | (_, none) => none
  | (field, some (_, rest)) =>
    match rest.scanned with
    | ']' :: scanned =>
      let name := field.takeWhile (· != '=')
      readEnd { directive with field := some (name, field.contains '=') }
        ⟨scanned, rest.text.drop 1⟩
    | _ => none

/-- Reads what stands in brackets. -/
def readSpan (directive : Directive) (rest : Rest) : Option Directive :=
  match rest.splitAt [']', '\x7b'] with
  | (_, none) => none
  | (span, some (']', rest)) => readEnd { directive with span := some span } rest
  | (span, some (_, rest)) =>
    readField { directive with span := if span.isEmpty then none else some span } rest

/-- The directive that shows every record. -/
def everything : Directive :=
  { target := none, span := none, field := none, threshold := some .trace }

/-- Whether a target or a level can begin with a character. -/
def canBegin (c : Char) : Bool :=
  c == '-' || c == ':' || c == '_' || Text.isAlphanumeric c

/-- Reads a directive. A single word is a level if it can be one, otherwise a target. -/
def ofText? (text : List Char) : Option Directive :=
  match Text.trim text with
  | [] => none
  | '[' :: scanned => readSpan everything ⟨scanned, text.drop 1⟩
  | c :: scanned =>
    if canBegin c then
      match Rest.splitAt ⟨c :: scanned, text⟩ ['=', '['] with
      | (word, none) =>
        match Threshold.ofText? word with
        | some threshold => some { everything with threshold }
        | none => some { everything with target := some word }
      | (target, some ('=', rest)) => readLevel { everything with target := some target } rest.text
      | (target, some (_, rest)) => readSpan { everything with target := some target } rest
    else none

end Directive

/-- A log record, as far as a filter asks about it. Records are not in a span. -/
structure LogRecord where
  target : String
  level : LogLevel
  fields : List String
  deriving DecidableEq, Repr, Inhabited

/-- Whether a level is at least as severe as a threshold asks. -/
def Threshold.admits (threshold : Threshold) (level : LogLevel) : Bool :=
  match threshold with
  | none => false
  | some least => level.rank ≤ least.rank

/-- Whether a directive is about a record. One with a span or the value of a field is about
records in spans only. -/
def Directive.applies (directive : Directive) (record : LogRecord) : Bool :=
  directive.span.isNone &&
  (match directive.target with
    | none => true
    | some target => target.isPrefixOf record.target.toList) &&
  (match directive.field with
    | none => true
    | some (name, hasValue) => !hasValue && record.fields.contains (String.ofList name))

/-- Whether a directive is at least as specific as another one. A longer target is more
specific, then a field. -/
def Directive.asSpecificAs (directive other : Directive) : Bool :=
  let weight (d : Directive) : Nat × Nat :=
    ((d.target.map (·.length + 1)).getD 0, if d.field.isSome then 1 else 0)
  let (target, field) := weight directive
  let (otherTarget, otherField) := weight other
  otherTarget < target || (otherTarget == target && otherField ≤ field)

/-- A filter for log records. -/
structure LogFilter where
  directives : List Directive
  deriving DecidableEq, Repr, Inhabited

namespace LogFilter

/-- The filter that shows errors only. -/
def errorsOnly : LogFilter :=
  { directives := [{ Directive.everything with threshold := some .error }] }

/-- Reads a filter. An empty text shows errors only. -/
def ofText? (text : String) : Option LogFilter :=
  if text.isEmpty then some errorsOnly
  else
    ((text.toList.splitOn ',').mapM Directive.ofText?).map fun directives => { directives }

/-- The directive that decides about a record. -/
def deciding? (filter : LogFilter) (record : LogRecord) : Option Directive :=
  (filter.directives.filter (·.applies record)).foldl (fun best directive =>
    match best with
    | none => some directive
    | some other => if directive.asSpecificAs other then some directive else best) none

/-- Whether a record is shown. -/
def shows (filter : LogFilter) (record : LogRecord) : Bool :=
  match filter.deciding? record with
  | some directive => directive.threshold.admits record.level
  | none => false

end LogFilter

end ClassroomClient
