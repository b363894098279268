/-
The tree of tables that the lines of a document build.

A table can come about in three ways: by its own header, on the way to the header of a table inside
it, or by a dotted key. A header may follow for a table that only lay on the way; a dotted key may
only enter tables that have no header.

* **`Node`** — a value, a table with the way it came about, or an array of tables;
* **`Branch.alter`** — walks along a path, making the tables that are missing, and changes the table
  at its end;
* **`Branch.openTable`**, **`Branch.openArray`** — a header of a table, and of one more table of an
  array;
* **`Branch.assign`** — a key with its value, in the table that the last header opened;
* **`Node.value`** — the finished tree as a plain value.
-/
import LoadGenerator.Toml.Value

namespace LoadGenerator.Toml

/-- How a table came about. -/
inductive Origin where
  /-- By its own header, or as the document itself. -/
  | header
  /-- On the way to the header of a table inside it. -/
  | passage
  /-- By a dotted key. -/
  | dotted
  deriving DecidableEq, Repr

mutual

/-- What a key stands for while the document is being read. -/
inductive Node where
  | value (v : Value)
  | table (t : Branch)
  | tables (earlier : List Branch) (last : Branch)

/-- A table while the document is being read. -/
inductive Branch where
  | mk (origin : Origin) (entries : List (String × Node))

end

namespace Branch

/-- How the table came about. -/
def origin : Branch → Origin
  | mk o _ => o

/-- The keys of the table with what they stand for, in order. -/
def entries : Branch → List (String × Node)
  | mk _ es => es

/-- A table without entries. -/
def empty (o : Origin) : Branch := mk o []

/-- The entry of a key. -/
def find? (t : Branch) (key : String) : Option Node :=
  (t.entries.find? fun e => e.1 = key).map Prod.snd

/-- The table with one more entry at its end. -/
def append (t : Branch) (key : String) (n : Node) : Branch :=
  mk t.origin (t.entries ++ [(key, n)])

/-- The table without the entry of a key. -/
def erase (t : Branch) (key : String) : Branch :=
  mk t.origin (t.entries.filter fun e => e.1 ≠ key)

/-- The table with another node for a key that it has. -/
def replace (t : Branch) (key : String) (n : Node) : Branch :=
  mk t.origin (t.entries.map fun e => if e.1 = key then (key, n) else e)

/-- Changes the table at the end of a path, seen from `t`. Missing tables are made with the origin
`made`; the last table of an array stands for the array. A dotted key does not enter a table that
has a header. -/
def alter (made : Origin) (change : Branch → Option Branch) : List String → Branch → Option Branch
  | [], t => change t
  | key :: path, t =>
    match t.find? key with
    | none => do
      let inner ← alter made change path (empty made)
      return t.append key (.table inner)
    | some (.value _) => none
    | some (.tables earlier last) => do
      let last ← alter made change path last
      return t.replace key (.tables earlier last)
    | some (.table inner) =>
      if made = .dotted ∧ inner.origin = .header then none
      else do
        let inner ← alter made change path inner
        return t.replace key (.table inner)

/-- A header for a table: it must be new, or have lain on the way only. -/
def openTable (path : List String) (key : String) (root : Branch) : Option Branch :=
  root.alter .passage
    (fun t =>
      match t.find? key with
      | none => some (t.append key (.table (empty .header)))
      | some (.table inner) =>
        if inner.origin = .passage then
          some ((t.erase key).append key (.table (mk .header inner.entries)))
        else none
      | some _ => none)
    path

/-- A header for one more table of an array. -/
def openArray (path : List String) (key : String) (root : Branch) : Option Branch :=
  root.alter .passage
    (fun t =>
      match t.find? key with
      | none => some (t.append key (.tables [] (empty .header)))
      | some (.tables earlier last) =>
        some (t.replace key (.tables (earlier ++ [last]) (empty .header)))
      | some _ => none)
    path

/-- A node for a key behind a dotted path. The table at the end of the path must be one that dotted
keys build, and without a path one that they do not build; the key must be new in it. -/
def place (path : List String) (key : String) (n : Node) (t : Branch) : Option Branch :=
  t.alter .dotted
    (fun t =>
      if decide (t.origin = .dotted) = path.isEmpty then none
      else if (t.find? key).isSome then none
      else some (t.append key n))
    path

/-- A key with its value, in the table at the end of the open header's path. -/
def assign (header : List String) (path : List String) (key : String) (v : Value)
    (root : Branch) : Option Branch :=
  root.alter .passage (place path key (.value v)) header

end Branch

mutual

/-- The finished node as a plain value. -/
def Node.toValue : Node → Value
  | .value v => v
  | .table t => .table t.toEntries
  | .tables earlier last => .array (branchValues earlier ++ [.table last.toEntries])

/-- The finished table's keys with their plain values. -/
def Branch.toEntries : Branch → Entries
  | .mk _ es => entryValues es

/-- The finished tables of an array. -/
def branchValues : List Branch → List Value
  | [] => []
  | t :: rest => .table t.toEntries :: branchValues rest

/-- The finished entries of a table. -/
def entryValues : List (String × Node) → Entries
  | [] => []
  | (k, n) :: rest => (k, n.toValue) :: entryValues rest

end

end LoadGenerator.Toml
