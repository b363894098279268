/-
The four styles of writing a string, and which of them is taken.

* **`StringStyle`** — with or without escapes, within one line or over several;
* **`isCountable`** — the runs of quotation marks in a text are short enough to be counted, without
  which no style is chosen for it;
* **`StringStyle.choose`** — the first style that needs no escape; a text that needs escapes anyway
  is written with them, over several lines if it has line breaks;
* **`writeString`**, **`writeKey`** — strings as values and as keys.
-/
import LoadGenerator.Toml.Scalar

namespace LoadGenerator.Toml

open LoadGenerator.Text

/-- The ways of writing a string. -/
inductive StringStyle where
  /-- Double quotation marks, with escapes. -/
  | basic
  /-- Single quotation marks, without escapes. -/
  | literal
  /-- Three double quotation marks, with escapes and line breaks. -/
  | basicLines
  /-- Three single quotation marks, with line breaks and without escapes. -/
  | literalLines
  deriving DecidableEq, Repr

/-- A control that no string holds without an escape; tabs and line breaks are not among them. -/
def needsEscape (c : Char) : Bool :=
  (c < ' ' && c ≠ '\t' && c ≠ '\n') || c = '\x7f'

/-- The length of the longest run of a character, when `current` of them stand in front. -/
def longestRun (c : Char) : (current : Nat) → List Char → Nat
  | current, [] => current
  | current, d :: s =>
    if d = c then longestRun c (current + 1) s else max current (longestRun c 0 s)

/-- The longest run of one quotation mark that is counted: a count is a byte. -/
def greatestRun : Nat := 255

/-- No run of one quotation mark in a text is too long to be counted. -/
def isCountable (s : List Char) : Bool :=
  longestRun '"' 0 s ≤ greatestRun && longestRun '\'' 0 s ≤ greatestRun

namespace StringStyle

/-- The first style in which a text needs no escape, in the order: double marks, single marks, three
double marks, three single marks. -/
def choose (s : List Char) : StringStyle :=
  let escapes := s.any needsEscape
  let backslash := s.contains '\\'
  let breaks := s.contains '\n'
  let double := longestRun '"' 0 s
  let single := longestRun '\'' 0 s
  if !escapes && !backslash && double = 0 && !breaks then basic
  else if !escapes && single = 0 && !breaks then literal
  else if !escapes && !backslash && double ≤ 2 then basicLines
  else if !escapes && single ≤ 2 then literalLines
  -- no style does without escapes
  else if breaks then basicLines
  else basic

/-- The marks on either side. -/
def marks : StringStyle → String
  | basic => "\""
  | literal => "'"
  | basicLines => "\"\"\""
  | literalLines => "'''"

/-- The style may hold line breaks. -/
def hasLines : StringStyle → Bool
  | basicLines | literalLines => true
  | basic | literal => false

/-- The style has escapes. -/
def hasEscapes : StringStyle → Bool
  | basic | basicLines => true
  | literal | literalLines => false

end StringStyle

/-- A character other than a quotation mark inside marks with escapes. -/
def escapeChar (lines : Bool) (c : Char) : List Char :=
  if c = '\x08' then ['\\', 'b']
  else if c = '\t' then ['\\', 't']
  else if c = '\n' then (if lines then ['\n'] else ['\\', 'n'])
  else if c = '\x0c' then ['\\', 'f']
  else if c = '\r' then ['\\', 'r']
  else if c = '\\' then ['\\', '\\']
  else if needsEscape c then
    '\\' :: 'u' :: (toHex c.toNat 4).toList.map Char.toUpper
  else [c]

/-- The body of a string with escapes, behind `run` quotation marks in a row. Over several lines two
marks in a row may stand as they are; within one line every mark is escaped. -/
def escapeBody (lines : Bool) : (run : Nat) → List Char → List Char
  | _, [] => []
  | run, '"' :: s =>
    if lines && run < 2 then '"' :: escapeBody lines (run + 1) s
    else '\\' :: '"' :: escapeBody lines 0 s
  | _, c :: s => escapeChar lines c ++ escapeBody lines 0 s

/-- A text in a style. A text with line breaks starts on a line of its own. -/
def writeStyled (style : StringStyle) (s : List Char) : String :=
  let opening := if style.hasLines && s.contains '\n' then "\n" else ""
  let body := if style.hasEscapes then escapeBody style.hasLines 0 s else s
  style.marks ++ opening ++ String.ofList body ++ style.marks

/-- A countable string as a value. -/
def writeString (text : String) : String :=
  writeStyled (StringStyle.choose text.toList) text.toList

/-- A string as a key: bare if it can be, otherwise within one line. -/
def writeKey (key : String) : String :=
  let s := key.toList
  if !s.isEmpty && s.all isBareChar then key
  else
    match StringStyle.choose s with
    | .basic => writeStyled .basic s
    | .literal => writeStyled .literal s
    | _ => writeStyled .basic s

end LoadGenerator.Toml
