/-
Socket addresses: an internet address with a port, and for eight-group addresses a scope.

* **`SocketAddress`** — the addresses that a worker dials;
* **`SocketAddress.text`** — `1.2.3.4:80`, `[::1]:80`, `[fe80::1%3]:80`;
* **`SocketAddress.parse?`** — reads a whole text; names are not looked up.
-/
import LoadGenerator.Address.IP

namespace LoadGenerator

open Text

/-- An address to dial. -/
inductive SocketAddress where
  | v4 (ip : IPv4) (port : UInt16)
  | v6 (ip : IPv6) (port : UInt16) (scope : UInt32)
  deriving DecidableEq, Repr

namespace SocketAddress

/-- The address without port and scope, as text. -/
def ipText : SocketAddress → String
  | v4 ip _ => ip.text
  | v6 ip _ _ => ip.text

/-- The port number. -/
def port : SocketAddress → UInt16
  | v4 _ p => p
  | v6 _ p _ => p

/-- The address has eight groups. -/
def isV6 : SocketAddress → Bool
  | v4 .. => false
  | v6 .. => true

/-- The canonical text. A scope of zero is not written. -/
def text : SocketAddress → String
  | v4 ip port => s!"{ip.text}:{port}"
  | v6 ip port scope =>
    if scope = 0 then s!"[{ip.text}]:{port}" else s!"[{ip.text}%{scope}]:{port}"

/-- A colon and a port: any number of digits, at most 65535 in value. -/
def readPort : List Char → Option (UInt16 × List Char)
  | ':' :: s =>
    let (digits, rest) := leadingDigits 10 s
    let value := ofDigits 10 digits
    if digits.isEmpty || 65535 < value then none else some (value.toUInt16, rest)
  | _ => none

/-- A percent sign and a scope number. Without one the scope is zero and nothing is read. -/
def readScope : List Char → UInt32 × List Char
  | '%' :: s =>
    let (digits, rest) := leadingDigits 10 s
    let value := ofDigits 10 digits
    if digits.isEmpty || 4294967295 < value then (0, '%' :: s) else (value.toUInt32, rest)
  | s => (0, s)

/-- A four-octet address with its port. -/
def readV4 (s : List Char) : Option (SocketAddress × List Char) := do
  let (ip, s) ← IPv4.read s
  let (port, s) ← readPort s
  return (v4 ip port, s)

/-- An eight-group address in brackets, with its port. -/
def readV6 : List Char → Option (SocketAddress × List Char)
  | '[' :: s => do
    let (ip, s) ← IPv6.read s
    let (scope, s) := readScope s
    match s with
    | ']' :: s =>
      let (port, s) ← readPort s
      return (v6 ip port scope, s)
    | _ => none
  | _ => none

/-- The address that a whole text stands for. -/
def parse? (s : String) : Option SocketAddress :=
  match readV4 s.toList <|> readV6 s.toList with
  | some (address, []) => some address
  | _ => none

end SocketAddress

end LoadGenerator
