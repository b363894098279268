/-
Values of the configuration language.

* **`Value`** — strings, whole numbers, floating-point numbers, truth values, date-times, arrays and
  tables. A table is a list of keys with their values, without a repeated key;
* **`Value.same`** — the values cannot be told apart: everything that is no number is one value, and
  the order of keys in a table does not count;
* **`Value.settle?`** — the form in which a value that the program has no field for is kept: keys in
  order, and a table that is the carrier of a date-time replaced by the date-time.
-/
import LoadGenerator.Number.Binary64
import LoadGenerator.Toml.DateTime

namespace LoadGenerator.Toml

/-- A value of the configuration language. -/
inductive Value where
  | string (s : String)
  | integer (n : Int)
  | float (x : Binary64)
  | boolean (b : Bool)
  | datetime (d : DateTime)
  | array (items : List Value)
  | table (entries : List (String × Value))
  deriving Repr, Inhabited

/-- The keys of a table with their values, in order. -/
abbrev Entries := List (String × Value)

/-- The key under which a date-time travels as a table with a single text. -/
def dateTimeKey : String := "$__toml_private_datetime"

/-- Entries with their keys in ascending order. -/
def sortEntries {α : Type} (entries : List (String × α)) : List (String × α) :=
  entries.mergeSort fun a b => decide (a.1 ≤ b.1)

namespace Value

mutual

/-- The values cannot be told apart; the order of keys in a table does not count. -/
def same : Value → Value → Bool
  | string s, string t => s = t
  | integer m, integer n => m = n
  | float x, float y => x.sameNumber y
  | boolean a, boolean b => a = b
  | datetime d, datetime e => d = e
  | array xs, array ys => sameItems xs ys
  | table xs, table ys => xs.length = ys.length && sameEntries xs ys
  | _, _ => false

/-- The arrays cannot be told apart, item by item. -/
def sameItems : List Value → List Value → Bool
  | [], [] => true
  | x :: xs, y :: ys => same x y && sameItems xs ys
  | _, _ => false

/-- Every key of the first table has the same value in the second. -/
def sameEntries : List (String × Value) → List (String × Value) → Bool
  | [], _ => true
  | (k, x) :: xs, ys =>
    (match ys.find? fun e => e.1 = k with
      | some (_, y) => same x y
      | none => false) && sameEntries xs ys

end

mutual

/-- The form in which a value without a field is kept. There is none for a table that starts with
the key of a date-time and then does not hold one, or holds more. -/
def settle? : Value → Option Value
  | array items => (settleItems? items).map array
  | table ((k, v) :: rest) =>
    if k = dateTimeKey then
      match v, rest with
      | string s, [] => (DateTime.parse? s).map datetime
      | _, _ => none
    else (settleEntries? ((k, v) :: rest)).map fun entries => table (sortEntries entries)
  | v => some v

/-- `settle?` on the items of an array. -/
def settleItems? : List Value → Option (List Value)
  | [] => some []
  | v :: rest =>
    match settle? v, settleItems? rest with
    | some v, some rest => some (v :: rest)
    | _, _ => none

/-- `settle?` on the values of a table. -/
def settleEntries? : List (String × Value) → Option (List (String × Value))
  | [] => some []
  | (k, v) :: rest =>
    match settle? v, settleEntries? rest with
    | some v, some rest => some ((k, v) :: rest)
    | _, _ => none

end

end Value

end LoadGenerator.Toml
