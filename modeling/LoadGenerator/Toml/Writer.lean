/-
Writing a configuration document.

* **`Value.inline`** — a value within one line;
* **`writeDocument`** — values first, then a block for every table, with a blank line between
  blocks. Both come in the order of the entries, and so do the entries of every table inside;
* **`writeDocument?`** — the same, unless a string somewhere among the values is not countable. Keys
  do not matter, as they are never written over several lines.

A table with entries but no values of its own gets no header, as the headers of the tables inside it
bring it about. An array is written as a series of tables when it holds nothing else.
-/
import LoadGenerator.Number.Shortest
import LoadGenerator.Toml.StringStyle

namespace LoadGenerator.Toml

/-- Floating-point numbers are written without exponents, and a whole one keeps its point. -/
def floatLayout : DecimalLayout := ⟨none, none, true⟩

/-- A floating-point number. The sign of what is no number is not written. -/
def writeFloat (x : Binary64) : String :=
  if x.isNaN then "nan"
  else
    let sign := if x.isNegative then "-" else ""
    if x.isInfinite then sign ++ "inf" else sign ++ x.shortest.text floatLayout

namespace Value

/-- The value is a table. -/
def isTable : Value → Bool
  | table _ => true
  | _ => false

/-- The value is an array of tables alone, and at least one. -/
def isTableSeries : Value → Bool
  | array items => !items.isEmpty && items.all isTable
  | _ => false

/-- The value gets blocks of its own and is not written behind its key. -/
def hasBlocks (v : Value) : Bool := v.isTable || v.isTableSeries

mutual

/-- A value within one line. -/
def inline : Value → String
  | string s => writeString s
  | integer n => toString n
  | float x => writeFloat x
  | boolean b => if b then "true" else "false"
  | datetime d => d.text
  | array items => "[" ++ ", ".intercalate (inlineItems items) ++ "]"
  | table [] => "\x7b\x7d"
  | table entries => "\x7b " ++ ", ".intercalate (inlineEntries entries) ++ " \x7d"

/-- The items of an array within one line. -/
def inlineItems : List Value → List String
  | [] => []
  | v :: rest => inline v :: inlineItems rest

/-- The entries of a table within one line. -/
def inlineEntries : List (String × Value) → List String
  | [] => []
  | (k, v) :: rest => (writeKey k ++ " = " ++ inline v) :: inlineEntries rest

end

mutual

/-- Every string in a value is countable. -/
def isCountable : Value → Bool
  | string s => Toml.isCountable s.toList
  | integer _ | float _ | boolean _ | datetime _ => true
  | array items => areItemsCountable items
  | table entries => areEntriesCountable entries

/-- Every string in the items of an array is countable. -/
def areItemsCountable : List Value → Bool
  | [] => true
  | v :: rest => isCountable v && areItemsCountable rest

/-- Every string in the values of a table is countable. -/
def areEntriesCountable : List (String × Value) → Bool
  | [] => true
  | (_, v) :: rest => isCountable v && areEntriesCountable rest

end

end Value

/-- The lines of a table's own values. -/
def valueLines (entries : Entries) : List String :=
  (entries.filter fun e => !e.2.hasBlocks).map fun e => writeKey e.1 ++ " = " ++ e.2.inline ++ "\n"

/-- The path of a header. -/
def writePath (path : List String) : String := ".".intercalate (path.map writeKey)

/-- The block of a table with its header. -/
def tableBlock (path : List String) (entries : Entries) : List String :=
  let lines := valueLines entries
  if lines.isEmpty && !entries.isEmpty then []
  else ["[" ++ writePath path ++ "]\n" ++ String.join lines]

/-- The block of one table of a series. -/
def seriesBlock (path : List String) (entries : Entries) : List String :=
  ["[[" ++ writePath path ++ "]]\n" ++ String.join (valueLines entries)]

mutual

/-- The blocks that a value at a path brings about. -/
def valueBlocks (path : List String) : Value → List String
  | .table entries => tableBlock path entries ++ entryBlocks path entries
  | .array items =>
    if (Value.array items).isTableSeries then seriesBlocks path items else []
  | _ => []

/-- The blocks of a series of tables. -/
def seriesBlocks (path : List String) : List Value → List String
  | [] => []
  | .table entries :: rest =>
    seriesBlock path entries ++ entryBlocks path entries ++ seriesBlocks path rest
  | _ :: rest => seriesBlocks path rest

/-- The blocks that the entries of a table bring about. -/
def entryBlocks (path : List String) : List (String × Value) → List String
  | [] => []
  | (k, v) :: rest => valueBlocks (path ++ [k]) v ++ entryBlocks path rest

end

/-- A whole document: the values among the entries, then the blocks of the others. -/
def writeDocument (entries : Entries) : String :=
  let values := String.join (valueLines entries)
  let front := if values.isEmpty then [] else [values]
  "\n".intercalate (front ++ entryBlocks [] entries)

/-- A whole document, if all of its strings are countable. -/
def writeDocument? (entries : Entries) : Option String :=
  if Value.areEntriesCountable entries then some (writeDocument entries) else none

end LoadGenerator.Toml
