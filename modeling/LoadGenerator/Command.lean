/-
The commands that steer the workers, one byte each.

* **`Command`** — open a connection, stop the worker that reads it, or a byte without a meaning;
* **`Command.ofByte`**, **`Command.byte`** — reading and writing. Every byte has one reading; a
  command may carry a reserved byte as an unknown one, and is then read back as what the byte means.
-/
namespace LoadGenerator

/-- One byte on the control pipe. -/
inductive Command where
  /-- Open one more connection. -/
  | connect
  /-- Stop the worker that reads this byte. -/
  | terminate
  /-- A byte that means nothing to a worker. -/
  | unknown (byte : UInt8)
  deriving DecidableEq, Repr, Inhabited

namespace Command

/-- The byte that asks for a connection: the letter `c`. -/
def connectByte : UInt8 := 99

/-- The byte that stops a worker: the letter `b`. -/
def terminateByte : UInt8 := 98

/-- What a byte asks for. -/
def ofByte (byte : UInt8) : Command :=
  if byte = connectByte then connect
  else if byte = terminateByte then terminate
  else unknown byte

/-- The byte that carries a command. -/
def byte : Command → UInt8
  | connect => connectByte
  | terminate => terminateByte
  | unknown b => b

/-- Every byte survives being read as a command. -/
@[simp] theorem byte_ofByte (b : UInt8) : (ofByte b).byte = b := by
  unfold ofByte
  split
  · simp_all [byte]
  · split <;> simp_all [byte]

end Command

end LoadGenerator
