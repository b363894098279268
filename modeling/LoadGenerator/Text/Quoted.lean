/-
Texts and bytes shown to a reader of the log.

* **`Text.quoted`** — a text in quotation marks, with escapes for what cannot be shown;
* **`Text.escapedByte`** — a byte as a character, with escapes for what is no plain character.
-/
import LoadGenerator.Text.Digits
import LoadGenerator.Text.Printable

namespace LoadGenerator.Text

/-- A character inside quotation marks. -/
def quotedChar (c : Char) : String :=
  match c with
  | '\x00' => "\\0"
  | '\t' => "\\t"
  | '\n' => "\\n"
  | '\r' => "\\r"
  | '"' => "\\\""
  | '\\' => "\\\\"
  | c => if isHidden c then "\\u\x7b" ++ toHex c.toNat ++ "\x7d" else String.singleton c

/-- A text in quotation marks. -/
def quoted (s : String) : String :=
  "\"" ++ String.join (s.toList.map quotedChar) ++ "\""

/-- A byte as a character: a letter for the common controls, a backslash before a quotation mark or
a backslash, and two hexadecimal digits for every other byte outside the printable range. -/
def escapedByte (b : UInt8) : String :=
  match b with
  | 9 => "\\t"
  | 10 => "\\n"
  | 13 => "\\r"
  | 34 => "\\\""
  | 39 => "\\'"
  | 92 => "\\\\"
  | b =>
    if 32 ≤ b ∧ b < 127 then String.singleton (Char.ofNat b.toNat)
    else "\\x" ++ toHex b.toNat 2

end LoadGenerator.Text
