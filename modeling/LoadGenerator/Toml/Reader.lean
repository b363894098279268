/-
Reading a configuration document.

* **`readValue?`** — a value of any kind; arrays may spread over lines, inline tables may not;
* **`readLine?`** — one line: a header, a key with its value, a comment or nothing;
* **`parse?`** — the tree of a whole document.

The nesting of values is bounded, so reading recurses on what is left of the bound; within one level
it recurses on the length of the text.
-/
import LoadGenerator.Toml.Document
import LoadGenerator.Toml.Scalar

namespace LoadGenerator.Toml

/-- A reader of values: what it read, and the rest of the text. -/
abbrev ValueReader := List Char → Option (Value × List Char)

/-- The items of an array up to its closing bracket. A comma may follow the last one. -/
def readItems (item : ValueReader) : (fuel : Nat) → List Char → Option (List Value × List Char)
  | 0, _ => none
  | fuel + 1, s =>
    match skipFiller false s with
    | ']' :: rest => some ([], rest)
    | s => do
      let (v, s) ← item s
      match skipFiller false s with
      | ',' :: s =>
        let (items, rest) ← readItems item fuel s
        return (v :: items, rest)
      | ']' :: rest => return ([v], rest)
      | _ => none

/-- A key path, an equals sign and a value: the path without its last key, that key and the
value. -/
def readAssignment? (item : ValueReader) (s : List Char) :
    Option ((List String × String × Value) × List Char) := do
  let (path, s) ← readKeyPath? greatestDepth s
  let key ← path.getLast?
  match s with
  | '=' :: s =>
    let (v, s) ← item (skipBlanks s)
    return ((path.dropLast, key, v), s)
  | _ => none

/-- The entries of an inline table up to its closing brace, added to those before them. -/
def readInlineEntries (item : ValueReader) :
    (fuel : Nat) → Branch → List Char → Option (Branch × List Char)
  | 0, _, _ => none
  | fuel + 1, t, s => do
    let ((path, key, v), s) ← readAssignment? item s
    let t ← t.place path key (.value v)
    match skipBlanks s with
    | ',' :: s => readInlineEntries item fuel t s
    | '}' :: rest => return (t, rest)
    | _ => none

/-- A value without parts. -/
def readScalar? (s : List Char) : Option (Value × List Char) :=
  match s with
  | '"' :: _ | '\'' :: _ => (readString? s).map fun (text, rest) => (.string text, rest)
  | 't' :: 'r' :: 'u' :: 'e' :: rest => some (.boolean true, rest)
  | 'f' :: 'a' :: 'l' :: 's' :: 'e' :: rest => some (.boolean false, rest)
  | _ => readNumber? s

/-- A value, with at most `room` arrays and inline tables inside each other. -/
def readValue? : (room : Nat) → ValueReader
  | 0, s => readScalar? s
  | room + 1, s =>
    match s with
    | '[' :: s =>
      (readItems (readValue? room) s.length s).map fun (items, rest) => (.array items, rest)
    | '{' :: s =>
      match skipBlanks s with
      | '}' :: rest => some (.table [], rest)
      | s =>
        (readInlineEntries (readValue? room) s.length (.empty .header) s).map
          fun (t, rest) => (.table t.toEntries, rest)
    | s => readScalar? s

/-- A document as far as it has been read: its tables, and the path of the last header. -/
structure Draft where
  root : Branch := .empty .header
  header : List String := []

namespace Draft

/-- A header between `depth` brackets on each side. -/
def readHeader? (s : List Char) : Option (List String × String × List Char) := do
  let (path, s) ← readKeyPath? greatestDepth s
  let key ← path.getLast?
  return (path.dropLast, key, s)

/-- One line of the document, which is not the end of the text. -/
def readLine? (d : Draft) (s : List Char) : Option (Draft × List Char) :=
  match s with
  | '[' :: '[' :: s => do
    let (path, key, s) ← readHeader? s
    match s with
    | ']' :: ']' :: s =>
      let rest ← endOfLine? s
      let root ← d.root.openArray path key
      return ({ root, header := path ++ [key] }, rest)
    | _ => none
  | '[' :: s => do
    let (path, key, s) ← readHeader? s
    match s with
    | ']' :: s =>
      let rest ← endOfLine? s
      let root ← d.root.openTable path key
      return ({ root, header := path ++ [key] }, rest)
    | _ => none
  | s =>
    match endOfLine? s with
    | some rest => some (d, rest)
    | none => do
      let ((path, key, v), s) ← readAssignment? (readValue? greatestDepth) s
      let rest ← endOfLine? s
      let root ← d.root.assign d.header path key v
      return ({ d with root }, rest)

/-- All lines of the document. -/
def readLines? : (fuel : Nat) → Draft → List Char → Option Draft
  | 0, _, _ => none
  | fuel + 1, d, s =>
    match skipBlanks s with
    | [] => some d
    | s => do
      let (d, rest) ← d.readLine? s
      readLines? fuel d rest

end Draft

/-- A text without the mark of its byte order at the front. -/
def skipByteOrderMark : List Char → List Char
  | '\uFEFF' :: s => s
  | s => s

/-- The entries of a whole document, in the order of the text. -/
def parse? (text : String) : Option Entries :=
  let s := skipByteOrderMark text.toList
  (Draft.readLines? (s.length + 1) {} s).map fun d => d.root.toEntries

end LoadGenerator.Toml
