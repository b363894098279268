/-
The pieces of a configuration text that have no parts: blanks, comments, keys, strings and numbers.

Every reader takes the text from its place on and returns what it read with the rest of the text, or
nothing where the text does not have that form.

* **`skipBlanks`**, **`skipFiller`**, **`endOfLine?`** — what may stand between the pieces;
* **`readString?`** — strings in the four styles;
* **`readKey?`**, **`readKeyPath?`** — keys, bare or quoted, and their dotted paths;
* **`readNumber?`** — date-times, floating-point numbers and whole numbers in four bases.
-/
import LoadGenerator.Toml.Value

namespace LoadGenerator.Toml

open LoadGenerator.Text

/-! ### Between the pieces -/

/-- A blank within a line. -/
def isLineBlank (c : Char) : Bool := c = ' ' || c = '\t'

/-- A text without the blanks at its front. -/
def skipBlanks (s : List Char) : List Char := s.dropWhile isLineBlank

/-- A character that may stand in a comment: everything but controls, a tab excepted. -/
def isCommentChar (c : Char) : Bool :=
  c = '\t' || (' ' ≤ c && c ≤ '~') || '\x80' ≤ c

/-- The text behind a line break. -/
def newline? : List Char → Option (List Char)
  | '\n' :: s => some s
  | '\r' :: '\n' :: s => some s
  | _ => none

/-- A text without a comment at its front. -/
def skipComment : List Char → List Char
  | '#' :: s => s.dropWhile isCommentChar
  | s => s

/-- The text behind the end of a line: blanks, a comment, and a line break unless the text ends. -/
def endOfLine? (s : List Char) : Option (List Char) :=
  match skipComment (skipBlanks s) with
  | [] => some []
  | s => newline? s

/-- A text without blanks, line breaks and comments at its front. A comment that does not reach the
end of its line is left where it breaks off, and nothing can be read there. -/
def skipFiller (inComment : Bool) : List Char → List Char
  | [] => []
  | c :: s =>
    if c = '\n' then skipFiller false s
    else if c = '\r' then
      match s with
      | '\n' :: s => skipFiller false s
      | _ => c :: s
    else if inComment then
      if isCommentChar c then skipFiller true s else c :: s
    else if isLineBlank c then skipFiller false s
    else if c = '#' then skipFiller true s
    else c :: s

/-! ### Strings -/

/-- A character that stands for itself in a string with escapes. -/
def isBasicChar (c : Char) : Bool :=
  c = '\t' || (' ' ≤ c && c ≤ '~' && c ≠ '"' && c ≠ '\\') || '\x80' ≤ c

/-- A character that stands for itself in a string without escapes. -/
def isLiteralChar (c : Char) : Bool :=
  c = '\t' || (' ' ≤ c && c ≤ '~' && c ≠ '\'') || '\x80' ≤ c

/-- The character that a letter behind a backslash stands for. -/
def shortEscape? : Char → Option Char
  | 'b' => some '\x08'
  | 't' => some '\t'
  | 'n' => some '\n'
  | 'f' => some '\x0c'
  | 'r' => some '\r'
  | '"' => some '"'
  | '\\' => some '\\'
  | _ => none

/-- The character whose code point hexadecimal digits give, where there is one. -/
def codePoint? (digits : List Char) : Option Char :=
  match digits.mapM (digitValue? 16) with
  | some values =>
    let n := ofDigits 16 values
    if n.isValidChar then some (Char.ofNat n) else none
  | none => none

/-- How a string with escapes goes on: as text, or inside the break that a backslash at the end of a
line makes, before or behind the end of that line. -/
inductive BasicMode where
  | text | beforeBreak | behindBreak
  deriving DecidableEq

/-- The body of a string with escapes, up to its closing marks. With several lines, three marks
close the string, and up to two more in front of them belong to it. -/
def readBasic (severalLines : Bool) : BasicMode → List Char → Option (List Char × List Char)
  | _, [] => none
  | .beforeBreak, '\n' :: s => readBasic severalLines .behindBreak s
  | .beforeBreak, '\r' :: '\n' :: s => readBasic severalLines .behindBreak s
  | .beforeBreak, c :: s => if isLineBlank c then readBasic severalLines .beforeBreak s else none
  | .behindBreak, '\n' :: s => readBasic severalLines .behindBreak s
  | .behindBreak, '\r' :: '\n' :: s => readBasic severalLines .behindBreak s
  | .behindBreak, ' ' :: s => readBasic severalLines .behindBreak s
  | .behindBreak, '\t' :: s => readBasic severalLines .behindBreak s
  | _, '"' :: s =>
    if severalLines then
      match s with
      | '"' :: '"' :: '"' :: '"' :: rest => some (['"', '"'], rest)
      | '"' :: '"' :: '"' :: rest => some (['"'], rest)
      | '"' :: '"' :: rest => some ([], rest)
      | _ => cons '"' (readBasic severalLines .text s)
    else some ([], s)
  | _, '\\' :: 'u' :: a :: b :: c :: d :: s =>
    match codePoint? [a, b, c, d] with
    | some x => cons x (readBasic severalLines .text s)
    | none => none
  | _, '\\' :: 'U' :: a :: b :: c :: d :: e :: f :: g :: h :: s =>
    match codePoint? [a, b, c, d, e, f, g, h] with
    | some x => cons x (readBasic severalLines .text s)
    | none => none
  | _, '\\' :: c :: s =>
    match shortEscape? c with
    | some x => cons x (readBasic severalLines .text s)
    | none =>
      if severalLines then
        if c = '\n' then readBasic severalLines .behindBreak s
        else if c = '\r' ∨ isLineBlank c then
          match c, s with
          | '\r', '\n' :: s => readBasic severalLines .behindBreak s
          | '\r', _ => none
          | _, s => readBasic severalLines .beforeBreak s
        else none
      else none
  | _, '\r' :: '\n' :: s =>
    if severalLines then cons '\n' (readBasic severalLines .text s) else none
  | _, c :: s =>
    if isBasicChar c || (severalLines && c = '\n') then cons c (readBasic severalLines .text s)
    else none
where
  /-- A character in front of what was read. -/
  cons (c : Char) : Option (List Char × List Char) → Option (List Char × List Char)
    | some (body, rest) => some (c :: body, rest)
    | none => none

/-- The body of a string without escapes, up to its closing marks. -/
def readLiteral (severalLines : Bool) : List Char → Option (List Char × List Char)
  | [] => none
  | '\'' :: s =>
    if severalLines then
      match s with
      | '\'' :: '\'' :: '\'' :: '\'' :: rest => some (['\'', '\''], rest)
      | '\'' :: '\'' :: '\'' :: rest => some (['\''], rest)
      | '\'' :: '\'' :: rest => some ([], rest)
      | _ => readBasic.cons '\'' (readLiteral severalLines s)
    else some ([], s)
  | '\r' :: '\n' :: s =>
    if severalLines then readBasic.cons '\n' (readLiteral severalLines s) else none
  | c :: s =>
    if isLiteralChar c || (severalLines && c = '\n') then
      readBasic.cons c (readLiteral severalLines s)
    else none

/-- A string within one line, quoted in one of the two ways. -/
def readLineString? : List Char → Option (String × List Char)
  | '"' :: s => (readBasic false .text s).map fun (body, rest) => (String.ofList body, rest)
  | '\'' :: s => (readLiteral false s).map fun (body, rest) => (String.ofList body, rest)
  | _ => none

/-- A string in any of the four styles. A line break right behind three opening marks is dropped. -/
def readString? : List Char → Option (String × List Char)
  | '"' :: '"' :: '"' :: s =>
    (readBasic true .text ((newline? s).getD s)).map fun (body, rest) => (String.ofList body, rest)
  | '\'' :: '\'' :: '\'' :: s =>
    (readLiteral true ((newline? s).getD s)).map fun (body, rest) => (String.ofList body, rest)
  | s => readLineString? s

/-! ### Keys -/

/-- A character of a bare key. -/
def isBareChar (c : Char) : Bool :=
  ('a' ≤ c && c ≤ 'z') || ('A' ≤ c && c ≤ 'Z') || ('0' ≤ c && c ≤ '9') || c = '-' || c = '_'

/-- A single key, quoted or bare. -/
def readKey? (s : List Char) : Option (String × List Char) :=
  match s with
  | '"' :: _ => readLineString? s
  | '\'' :: _ => readLineString? s
  | _ =>
    let bare := s.takeWhile isBareChar
    if bare.isEmpty then none else some (String.ofList bare, s.dropWhile isBareChar)

/-- At most `room` keys joined by points, with blanks around each. -/
def readKeyPath? : (room : Nat) → List Char → Option (List String × List Char)
  | 0, _ => none
  | room + 1, s => do
    let (key, s) ← readKey? (skipBlanks s)
    match skipBlanks s with
    | '.' :: s =>
      let (path, s) ← readKeyPath? room s
      return (key :: path, s)
    | s => return ([key], s)

/-- The greatest number of keys in a path, and of values inside each other. -/
def greatestDepth : Nat := 79

/-! ### Numbers -/

/-- The digits of a base at the front of a text, where single underscores may stand between two
digits. An underscore anywhere else spoils the number. -/
def readSpacedDigits (base : Nat) : List Char → Option (List Nat × List Char)
  | c :: s =>
    match digitValue? base c with
    | some d =>
      match s with
      | '_' :: s => (readSpacedDigits base s).map fun (ds, rest) => (d :: ds, rest)
      | c' :: s' =>
        if (digitValue? base c').isSome then
          (readSpacedDigits base (c' :: s')).map fun (ds, rest) => (d :: ds, rest)
        else some ([d], c' :: s')
      | [] => some ([d], [])
    | none => none
  | [] => none

/-- Decimal digits without a leading zero, or a zero alone. -/
def readPlainDigits : List Char → Option (List Nat × List Char)
  | '0' :: s => some ([0], s)
  | s => readSpacedDigits 10 s

/-- A sign at the front of a text, and whether it is a minus. -/
def readSign : List Char → Bool × List Char
  | '-' :: s => (true, s)
  | '+' :: s => (false, s)
  | s => (false, s)

/-- A point and the digits behind it, where the text goes on so. -/
def readFraction : List Char → Option (List Nat × List Char)
  | '.' :: s => readSpacedDigits 10 s
  | s => some ([], s)

/-- An exponent, where the text goes on so. -/
def readExponent : List Char → Option (Int × List Char)
  | c :: s =>
    if c = 'e' ∨ c = 'E' then
      let (negative, s) := readSign s
      match readSpacedDigits 10 s with
      | some (digits, rest) =>
        let n : Int := ofDigits 10 digits
        some (if negative then -n else n, rest)
      | none => none
    else some (0, c :: s)
  | [] => some (0, [])

/-- A whole number, where it is in the range of sixty-four bits. -/
def wholeNumber? (negative : Bool) (magnitude : Nat) : Option Value :=
  let n : Int := if negative then -(magnitude : Int) else magnitude
  if -(twoTo 63 : Int) ≤ n ∧ n < twoTo 63 then some (.integer n) else none

/-- A floating-point number, unless it would be infinite above. -/
def finiteNumber? (negative : Bool) (digits : Nat) (e : Int) : Option Value :=
  let x := Binary64.ofDecimal negative digits e
  if x.isInfinite && !negative then none else some (.float x)

/-- Whole numbers in the bases sixteen, eight and two, marked by a letter behind a zero. -/
def readBased (base : Nat) (s : List Char) : Option (Value × List Char) := do
  let (digits, rest) ← readSpacedDigits base s
  let v ← wholeNumber? false (ofDigits base digits)
  return (v, rest)

/-- A signed decimal number: whole, or floating-point if a fraction or an exponent follows. -/
def readDecimal (negative : Bool) (s : List Char) : Option (Value × List Char) := do
  let (whole, rest) ← readPlainDigits s
  let (fraction, afterFraction) ← readFraction rest
  let (e, afterExponent) ← readExponent afterFraction
  if afterExponent.length = rest.length then
    let v ← wholeNumber? negative (ofDigits 10 whole)
    return (v, rest)
  else
    let v ← finiteNumber? negative (ofDigits 10 (whole ++ fraction)) (e - fraction.length)
    return (v, afterExponent)

/-- A number or date-time. -/
def readNumber? (s : List Char) : Option (Value × List Char) :=
  match DateTime.read s with
  | some (d, rest) => some (.datetime d, rest)
  | none =>
    match s with
    | '0' :: 'x' :: s => readBased 16 s
    | '0' :: 'o' :: s => readBased 8 s
    | '0' :: 'b' :: s => readBased 2 s
    | s =>
      let (negative, s) := readSign s
      match s with
      | 'i' :: 'n' :: 'f' :: rest => some (.float (Binary64.infinity negative), rest)
      | 'n' :: 'a' :: 'n' :: rest => some (.float (Binary64.nan negative), rest)
      | s => readDecimal negative s

end LoadGenerator.Toml
