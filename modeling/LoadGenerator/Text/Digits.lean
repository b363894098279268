/-
Numbers written in digits of a base.

* **`digitValue?`** — the value of a character as a digit, letters of either case standing for ten
  and more;
* **`leadingDigits`** — the digits that a text begins with, and the rest of the text;
* **`ofDigits`** — the number that a list of digits stands for;
* **`toHex`** — a number in lower-case hexadecimal digits.
-/
namespace LoadGenerator.Text

/-- The value of a character as a digit of a base, where it is one. -/
def digitValue? (base : Nat) (c : Char) : Option Nat :=
  let value? : Option Nat :=
    if '0' ≤ c ∧ c ≤ '9' then some (c.toNat - '0'.toNat)
    else if 'a' ≤ c ∧ c ≤ 'z' then some (c.toNat - 'a'.toNat + 10)
    else if 'A' ≤ c ∧ c ≤ 'Z' then some (c.toNat - 'A'.toNat + 10)
    else none
  value?.filter (· < base)

/-- The digits at the front of a text, and what follows them. -/
def leadingDigits (base : Nat) : List Char → List Nat × List Char
  | [] => ([], [])
  | c :: rest =>
    match digitValue? base c with
    | some d => ((d :: (leadingDigits base rest).1), (leadingDigits base rest).2)
    | none => ([], c :: rest)

/-- The number that digits stand for, the most significant one first. -/
def ofDigits (base : Nat) (digits : List Nat) : Nat :=
  digits.foldl (fun n d => n * base + d) 0

/-- A number in hexadecimal, in at least `width` digits. -/
def toHex (n : Nat) (width : Nat := 1) : String :=
  let digits := (Nat.toDigits 16 n)
  String.ofList (List.replicate (width - digits.length) '0' ++ digits)

/-- A number in decimal, in at least `width` digits. -/
def toDecimal (n : Nat) (width : Nat := 1) : String :=
  let digits := (Nat.toDigits 10 n)
  String.ofList (List.replicate (width - digits.length) '0' ++ digits)

end LoadGenerator.Text
