/-
The form in which the log names a value that the program has no use for.

* **`Value.describe`** — the kind of the value and its content: `Integer(1)`, `String("a")`,
  `Array([Boolean(true)])`, `Table({"k": Integer(1)})`.
-/
import LoadGenerator.Number.Shortest
import LoadGenerator.Text.Quoted
import LoadGenerator.Text.Record
import LoadGenerator.Toml.Value

namespace LoadGenerator.Toml

/-- Floating-point numbers are written out from a ten-thousandth up to below ten to the
sixteenth. -/
def describedLayout : DecimalLayout := ⟨some (-4), some 15, true⟩

/-- A floating-point number in a description. -/
def describeFloat (x : Binary64) : String :=
  if x.isNaN then "NaN"
  else
    let sign := if x.isNegative then "-" else ""
    if x.isInfinite then sign ++ "inf" else sign ++ x.shortest.text describedLayout

/-- A part that may be absent, in a description. -/
def describePart (part : Option String) : String :=
  match part with
  | some s => "Some(" ++ s ++ ")"
  | none => "None"

/-- A date-time in a description, part by part. -/
def describeDateTime (d : DateTime) : String :=
  let date := d.date.map fun x =>
    Text.record "Date" [("year", toString x.year), ("month", toString x.month),
      ("day", toString x.day)]
  let time := d.time.map fun x =>
    Text.record "Time" [("hour", toString x.hour), ("minute", toString x.minute),
      ("second", toString x.second), ("nanosecond", toString x.nanosecond)]
  let offset := d.offset.map fun
    | .universal => "Z"
    | .minutes m => Text.record "Custom" [("minutes", toString m)]
  Text.record "Datetime" [("date", describePart date), ("time", describePart time),
    ("offset", describePart offset)]

namespace Value

mutual

/-- The value holds a date-time somewhere. -/
def holdsDateTime : Value → Bool
  | datetime _ => true
  | array items => itemsHoldDateTime items
  | table entries => entriesHoldDateTime entries
  | _ => false

/-- Some item holds a date-time. -/
def itemsHoldDateTime : List Value → Bool
  | [] => false
  | v :: rest => holdsDateTime v || itemsHoldDateTime rest

/-- Some entry holds a date-time. -/
def entriesHoldDateTime : List (String × Value) → Bool
  | [] => false
  | (_, v) :: rest => holdsDateTime v || entriesHoldDateTime rest

end

mutual

/-- The kind of a value and its content. -/
def describe : Value → String
  | string s => "String(" ++ Text.quoted s ++ ")"
  | integer n => "Integer(" ++ toString n ++ ")"
  | float x => "Float(" ++ describeFloat x ++ ")"
  | boolean b => if b then "Boolean(true)" else "Boolean(false)"
  | datetime d => "Datetime(" ++ describeDateTime d ++ ")"
  | array items => "Array([" ++ ", ".intercalate (describeItems items) ++ "])"
  | table entries => "Table(\x7b" ++ ", ".intercalate (describeEntries entries) ++ "\x7d)"

/-- The descriptions of an array's items. -/
def describeItems : List Value → List String
  | [] => []
  | v :: rest => describe v :: describeItems rest

/-- The keys of a table with the descriptions of their values. -/
def describeEntries : List (String × Value) → List String
  | [] => []
  | (k, v) :: rest => (Text.quoted k ++ ": " ++ describe v) :: describeEntries rest

end

end Value

end LoadGenerator.Toml
