/-
Internet addresses and their texts.

* **`IPv4`**, **`IPv6`** — four octets, eight groups;
* **`IPv4.text`**, **`IPv6.text`** — the canonical texts: no leading zeros, the first longest run of
  two or more zero groups left out, and the dotted form for an embedded four-octet address;
* **`IPv4.read`**, **`IPv6.read`** — reading at the front of a text; the rest is left over.
-/
import LoadGenerator.Text.Digits

namespace LoadGenerator

open Text

/-- A four-octet address. -/
structure IPv4 where
  a : UInt8
  b : UInt8
  c : UInt8
  d : UInt8
  deriving DecidableEq, Repr, Inhabited

namespace IPv4

/-- The four octets in decimal, joined by points. -/
def text (ip : IPv4) : String :=
  s!"{ip.a}.{ip.b}.{ip.c}.{ip.d}"

/-- An octet: one to three digits without a leading zero, at most 255. -/
def readOctet (s : List Char) : Option (UInt8 × List Char) :=
  let (digits, rest) := leadingDigits 10 s
  let value := ofDigits 10 digits
  if digits.isEmpty || 3 < digits.length || (digits.head? = some 0 && 1 < digits.length)
      || 255 < value then none
  else some (value.toUInt8, rest)

/-- An octet behind a point. -/
def readFurtherOctet : List Char → Option (UInt8 × List Char)
  | '.' :: rest => readOctet rest
  | _ => none

/-- Four octets joined by points, at the front of a text. -/
def read (s : List Char) : Option (IPv4 × List Char) := do
  let (a, s) ← readOctet s
  let (b, s) ← readFurtherOctet s
  let (c, s) ← readFurtherOctet s
  let (d, s) ← readFurtherOctet s
  return (⟨a, b, c, d⟩, s)

end IPv4

/-- An address of eight groups of sixteen bits. -/
structure IPv6 where
  groups : List UInt16
  eight : groups.length = 8
  deriving DecidableEq, Repr

namespace IPv6

/-- The group that two octets make. -/
def groupOf (high low : UInt8) : UInt16 := high.toUInt16 * 256 + low.toUInt16

/-- The four-octet address that is embedded behind `::ffff:`, where there is one. -/
def mapped? (ip : IPv6) : Option IPv4 :=
  match ip.groups with
  | [0, 0, 0, 0, 0, 0xFFFF, x, y] =>
    some ⟨(x / 256).toUInt8, x.toUInt8, (y / 256).toUInt8, y.toUInt8⟩
  | _ => none

/-- The number of zeros that a list of groups begins with. -/
def leadingZeros (groups : List UInt16) : Nat := (groups.takeWhile (· = 0)).length

/-- The start and length of the first longest run of zeros. -/
def longestZeroRun (groups : List UInt16) : Nat × Nat :=
  (List.range groups.length).foldl
    (fun best start =>
      let length := leadingZeros (groups.drop start)
      if best.2 < length then (start, length) else best)
    (0, 0)

/-- Groups in hexadecimal, joined by colons. -/
def joined (groups : List UInt16) : String :=
  ":".intercalate (groups.map fun g => toHex g.toNat)

/-- The canonical text. -/
def text (ip : IPv6) : String :=
  match ip.mapped? with
  | some v4 => s!"::ffff:{v4.text}"
  | none =>
    let (start, length) := longestZeroRun ip.groups
    if 1 < length then
      s!"{joined (ip.groups.take start)}::{joined (ip.groups.drop (start + length))}"
    else joined ip.groups

/-- A group: one to four hexadecimal digits. -/
def readGroup (s : List Char) : Option (UInt16 × List Char) :=
  let (digits, rest) := leadingDigits 16 s
  if digits.isEmpty || 4 < digits.length then none
  else some ((ofDigits 16 digits).toUInt16, rest)

/-- The text behind the colon that joins a group to the ones before it. The first group has none. -/
def behindColon (first : Bool) : List Char → Option (List Char)
  | s => if first then some s else
    match s with
    | ':' :: rest => some rest
    | _ => none

/-- At most `room` groups at the front of a text, and whether they end in a dotted address, which
stands for two groups and ends the list. -/
def readGroups : (room : Nat) → (first : Bool) → List Char → List UInt16 × Bool × List Char
  | 0, _, s => ([], false, s)
  | room + 1, first, s =>
    match (if 0 < room then behindColon first s >>= IPv4.read else none) with
    | some (v4, rest) => ([groupOf v4.a v4.b, groupOf v4.c v4.d], true, rest)
    | none =>
      match behindColon first s >>= readGroup with
      | some (g, rest) =>
        let (more, dotted, rest) := readGroups room false rest
        (g :: more, dotted, rest)
      | none => ([], false, s)

/-- Eight groups, or fewer around one `::` that stands for at least one zero group. A dotted address
may only come last. -/
def read (s : List Char) : Option (IPv6 × List Char) :=
  let (head, dotted, rest) := readGroups 8 true s
  if h : head.length = 8 then some (⟨head, h⟩, rest)
  else if dotted then none
  else
    match rest with
    | ':' :: ':' :: rest =>
      let (tail, _, rest) := readGroups (7 - head.length) true rest
      let groups := head ++ List.replicate (8 - head.length - tail.length) 0 ++ tail
      if h : groups.length = 8 then some (⟨groups, h⟩, rest) else none
    | _ => none

end IPv6

end LoadGenerator
