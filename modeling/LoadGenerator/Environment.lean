/-
The variables of the environment, and the file that adds to them.

* **`Environment`** — variables by name;
* **`Environment.extend`** — adds the variables of a file. A variable that is there already keeps
  its value, and the first line that cannot be understood ends the file;
* **`Environment.addLine`** — one line: `NAME=value`, perhaps with `export` in front. A value may be
  quoted, may go over several lines inside its quotes, and may name other variables after a dollar
  sign;
* **`Environment.namesIn`** — the names that a file may ask for.
-/
import LoadGenerator.Text.Blank

namespace LoadGenerator

/-- Variables with their values. -/
abbrev Environment := List (String × String)

namespace Environment

/-- The value of a variable. -/
def get? (env : Environment) (name : String) : Option String :=
  (env.find? fun v => v.1 = name).map Prod.snd

/-- One more variable, unless it is there already. -/
def add (env : Environment) (name value : String) : Environment :=
  if (env.get? name).isSome then env else env ++ [(name, value)]

/-! ### Lines -/

/-- Where a reader stands that looks for the end of a line: a line goes on after its end while a
quote is open. -/
inductive LineState where
  | outside
  /-- Behind a blank outside of quotes, where a comment may begin. -/
  | behindBlank
  | escape
  | inQuotes (mark : Char)
  | escapeInQuotes (mark : Char)
  deriving DecidableEq, Repr

namespace LineState

/-- The state that a quotation mark, a backslash or another character leads to. -/
def opening (c : Char) : LineState :=
  if c = '\\' then escape
  else if c = '"' ∨ c = '\'' then inQuotes c
  else outside

/-- The state behind one more character. -/
def next (s : LineState) (c : Char) : LineState :=
  match s with
  | behindBlank => opening c
  | escape => outside
  | outside => if Text.isBlank c ∧ c ≠ '\n' ∧ c ≠ '\r' then behindBlank else opening c
  | inQuotes mark =>
    if c = '\\' then escapeInQuotes mark else if c = mark then outside else inQuotes mark
  | escapeInQuotes mark => inQuotes mark

end LineState

/-- Reads a line to its end: the line without its ending or comment, and the rest of the text. There
is none when the text ends inside quotes or behind a backslash. -/
def takeLine : LineState → List Char → Option (List Char × List Char)
  | .outside, [] | .behindBlank, [] => some ([], [])
  | _, [] => none
  | .behindBlank, '#' :: rest =>
    some ([], (rest.dropWhile (· ≠ '\n')).drop 1)
  | .outside, '\n' :: rest | .behindBlank, '\n' :: rest | .escape, '\n' :: rest => some ([], rest)
  | s, c :: rest => (takeLine (s.next c) rest).map fun (line, rest) => (c :: line, rest)

/-- The value of a variable as it is being read. -/
inductive ValueState where
  | plain (inQuotes : Bool)
  /-- Inside single quotes, where everything stands for itself. -/
  | literal
  | escape (inQuotes : Bool)
  /-- In the name of a variable. -/
  | name (inQuotes : Bool) (sofar : List Char)
  /-- In the name of a variable that is written in braces. -/
  | bracedName (inQuotes : Bool) (sofar : List Char)
  /-- Behind the value, where only blanks and a comment may follow. -/
  | behind
  deriving DecidableEq, Repr

/-- The characters that a backslash may stand before, and what they stand for then. -/
def escaped? : Char → Option Char
  | 'n' => some '\n'
  | c => if c = '\\' ∨ c = '\'' ∨ c = '"' ∨ c = '$' ∨ c = ' ' then some c else none

/-- The value of the variable of a name; an unknown one is empty. -/
def expand (env : Environment) (name : List Char) : List Char :=
  ((env.get? (String.ofList name)).getD "").toList

/-- Reads a value. The character that ends a name without braces stands for itself. -/
def readValue (env : Environment) : ValueState → List Char → Option (List Char)
  | .plain false, [] | .escape false, [] | .behind, [] => some []
  | .name false sofar, [] => some (env.expand sofar)
  | _, [] => none
  | .behind, c :: rest =>
    if c = ' ' ∨ c = '\t' then readValue env .behind rest
    else if c = '#' then some []
    else none
  | .escape q, c :: rest => do
    let c ← escaped? c
    return c :: (← readValue env (.plain q) rest)
  | .literal, c :: rest =>
    if c = '\'' then readValue env (.plain false) rest
    else return c :: (← readValue env .literal rest)
  | .name q sofar, c :: rest =>
    if c.isAlphanum then readValue env (.name q (sofar ++ [c])) rest
    else if c = '\x7b' ∧ sofar = [] then readValue env (.bracedName q []) rest
    else if c = '$' then return env.expand sofar ++ (← readValue env (.name q []) rest)
    else return env.expand sofar ++ c :: (← readValue env (.plain q) rest)
  | .bracedName q sofar, c :: rest =>
    if c = '\x7d' then return env.expand sofar ++ (← readValue env (.plain q) rest)
    else readValue env (.bracedName q (sofar ++ [c])) rest
  | .plain q, c :: rest =>
    if c = '$' then readValue env (.name q []) rest
    else if c = '\\' then readValue env (.escape q) rest
    else if c = '"' then readValue env (.plain !q) rest
    else if q then return c :: (← readValue env (.plain q) rest)
    else if c = '\'' then readValue env .literal rest
    else if c = ' ' ∨ c = '\t' then readValue env .behind rest
    else return c :: (← readValue env (.plain q) rest)

/-- A name, and what follows it and any blanks behind it. -/
def readName? : List Char → Option (List Char × List Char)
  | c :: rest =>
    if c.isAlpha ∨ c = '_' then
      let inName := fun (d : Char) => d.isAlphanum || d = '_' || d = '.'
      some (c :: rest.takeWhile inName, (rest.dropWhile inName).dropWhile Text.isBlank)
    else none
  | [] => none

/-- What follows an equals sign. -/
def afterEquals? : List Char → Option (List Char)
  | '=' :: rest => some rest
  | _ => none

/-- The name and the value text of a line that is neither empty nor a comment. -/
def readBinding? (line : List Char) : Option (List Char × List Char) := do
  let (name, rest) ← readName? line
  if name = "export".toList ∧ (afterEquals? rest).isNone then
    let (name, rest) ← readName? rest
    return (name, ← afterEquals? rest)
  else return (name, ← afterEquals? rest)

/-- The environment after one line, unless that cannot be understood. -/
def addLine (env : Environment) (line : List Char) : Option Environment :=
  match (Text.trim (String.ofList line)).toList with
  | [] | '#' :: _ => some env
  | line => do
    let (name, rest) ← readBinding? line
    let value ← match rest.dropWhile Text.isBlank with
      | [] | '#' :: _ => some []
      | text => env.readValue (.plain false) text
    return env.add (String.ofList name) (String.ofList value)

/-- The next line of a text. A line that begins as a comment goes to its end, whatever is in it. -/
def nextLine (text : List Char) : Option (List Char × List Char) :=
  match text.dropWhile fun c => Text.isBlank c && c ≠ '\n' with
  | '#' :: rest => some ([], (rest.dropWhile (· ≠ '\n')).drop 1)
  | _ => takeLine .outside text

/-- The environment after the lines of a text, at most so many. -/
def addLines : (limit : Nat) → Environment → List Char → Environment
  | 0, env, _ => env
  | _, env, [] => env
  | limit + 1, env, text =>
    match nextLine text with
    | none => env
    | some (line, rest) =>
      match env.addLine line with
      | none => env
      | some env => addLines limit env rest

/-- The environment with the variables of a file. A byte order mark in front of it does not
count. -/
def extend (env : Environment) (file : String) : Environment :=
  let text := match file.toList with
    | '\uFEFF' :: rest => rest
    | text => text
  env.addLines (text.length + 1) text

/-- The runs of characters of a kind in a text. -/
def runsOf (inRun : Char → Bool) (text : List Char) : List String :=
  let step := fun (c : Char) (runs : List (List Char)) =>
    match inRun c, runs with
    | true, run :: rest => (c :: run) :: rest
    | true, [] => [[c]]
    | false, runs => [] :: runs
  ((text.foldr step []).filter (!·.isEmpty)).map String.ofList

/-- The names that a file may ask for, in either way of writing them. -/
def namesIn (file : String) : List String :=
  runsOf (fun c => c.isAlphanum || c = '_' || c = '.') file.toList
    ++ runsOf Char.isAlphanum file.toList

end Environment

end LoadGenerator
