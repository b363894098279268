/-
The byte pattern that every connection sends, repeated without end.

* **`Payload`** — a pattern of at least one byte;
* **`Payload.rewind`** — the position inside the pattern that a cursor stands for;
* **`Payload.chunk`** — what a single write may take at a position: all up to the pattern's end;
* **`Payload.byteAt`** — the endless repetition itself.
-/
namespace LoadGenerator

/-- A byte pattern of at least one byte. -/
structure Payload where
  data : Array UInt8
  nonempty : 0 < data.size

namespace Payload

/-- The number of bytes of the pattern. -/
def size (p : Payload) : Nat := p.data.size

theorem size_pos (p : Payload) : 0 < p.size := p.nonempty

/-- A pattern, unless there is no byte in it. -/
def ofBytes? (data : Array UInt8) : Option Payload :=
  if h : 0 < data.size then some ⟨data, h⟩ else none

/-- Byte `j` of the endless repetition. -/
def byteAt (p : Payload) (j : Nat) : UInt8 :=
  have : j % p.size < p.data.size := Nat.mod_lt j p.nonempty
  p.data[j % p.size]

/-- A cursor on or beyond the end of the pattern is brought back by whole laps. -/
def rewind (p : Payload) (cursor : Nat) : Nat :=
  if cursor < p.size then cursor else cursor % p.size

/-- The largest piece that a single write can take at a position: it ends where the pattern does. -/
def chunk (p : Payload) (position : Nat) : Array UInt8 :=
  p.data.extract position p.size

theorem rewind_eq_mod (p : Payload) (cursor : Nat) : p.rewind cursor = cursor % p.size := by
  unfold rewind
  split
  · rw [Nat.mod_eq_of_lt ‹_›]
  · rfl

theorem rewind_lt (p : Payload) (cursor : Nat) : p.rewind cursor < p.size := by
  rw [rewind_eq_mod]
  exact Nat.mod_lt _ p.nonempty

@[simp] theorem size_chunk (p : Payload) (position : Nat) :
    (p.chunk position).size = p.size - position := by
  simp [chunk, size]

theorem toList_chunk (p : Payload) (position : Nat) :
    (p.chunk position).toList = p.data.toList.drop position := by
  rw [chunk, Array.toList_extract, List.extract_eq_take_drop, size]
  exact List.take_of_length_le (by simp)

end Payload

end LoadGenerator
