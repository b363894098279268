/-
The remote addresses that a worker dials, each with the worker's own dial history.

* **`RemoteStats`** — attempts and failures of one address, and whether a write failure on it was
  reported;
* **`RemoteStats.isBroken`** — more than ten attempts, every one of which failed;
* **`Roster`** — the addresses in order, never empty, with a cursor for the next pick;
* **`Roster.selectNext`** — the next address that is not broken, round and round from the cursor;
  when all are broken, the last one looked at;
* **`Roster.dial`** — a pick together with what it adds to the history.

The cursor is a machine word: it goes back to zero after the last word, so the order of picks has a
seam there unless the number of addresses divides the number of words.
-/
import LoadGenerator.Number.Natural
import LoadGenerator.Address.SocketAddress

namespace LoadGenerator

/-- Dial history of one remote address, as a single worker has seen it. -/
structure RemoteStats where
  attempts : Nat := 0
  failures : Nat := 0
  writeFailureReported : Bool := false
  deriving DecidableEq, Repr, Inhabited

namespace RemoteStats

/-- Attempts after which an address that never succeeded is passed over. -/
def brokenThreshold : Nat := 10

/-- The address had more attempts than the threshold, and every one of them failed. -/
def isBroken (s : RemoteStats) : Bool :=
  brokenThreshold < s.attempts && s.failures = s.attempts

/-- One more attempt. -/
def recordAttempt (s : RemoteStats) : RemoteStats :=
  { s with attempts := s.attempts + 1 }

/-- One more failure. -/
def recordFailure (s : RemoteStats) : RemoteStats :=
  { s with failures := s.failures + 1 }

/-- The failure just counted is the first one of this address. -/
def isFirstFailure (s : RemoteStats) : Bool := s.failures = 1

/-- The counters are machine words; so many more attempts and failures still fit into them. -/
def hasRoomFor (s : RemoteStats) (attempts failures : Nat) : Bool :=
  s.attempts + attempts < wordRange && s.failures + failures < wordRange

/-- A write failure of this address counts as reported from now on. -/
def claimWriteReport (s : RemoteStats) : RemoteStats :=
  { s with writeFailureReported := true }

end RemoteStats

/-- One remote address and what the worker knows of it. -/
structure Remote where
  address : SocketAddress
  stats : RemoteStats := {}
  deriving DecidableEq, Repr

/-- The addresses of a worker in the order given, at least one, and where the next pick starts. -/
structure Roster where
  remotes : Array Remote
  nonempty : 0 < remotes.size
  cursor : UInt64

namespace Roster

/-- The number of addresses. -/
def size (r : Roster) : Nat := r.remotes.size

/-- A fresh roster whose first pick starts at `offset`, unless there is no address. -/
def ofAddresses? (addresses : Array SocketAddress) (offset : UInt64) : Option Roster :=
  if h : 0 < addresses.size then
    some ⟨addresses.map fun a => { address := a }, by simpa using h, offset⟩
  else none

/-- The history of entry `i`, where there is such an entry. -/
def stats? (r : Roster) (i : Nat) : Option RemoteStats :=
  r.remotes[i]?.map Remote.stats

/-- The history of entry `i`; an entry that does not exist has none. -/
def stats (r : Roster) (i : Nat) : RemoteStats :=
  (r.stats? i).getD {}

/-- The address of entry `i`, where there is such an entry. -/
def address? (r : Roster) (i : Nat) : Option SocketAddress :=
  r.remotes[i]?.map Remote.address

/-- The histories of all entries, in order. -/
def snapshot (r : Roster) : List RemoteStats :=
  r.remotes.toList.map Remote.stats

/-- The roster with the history of entry `i` changed. -/
def updateStats (r : Roster) (i : Nat) (f : RemoteStats → RemoteStats) : Roster :=
  { r with
    remotes := r.remotes.modify i fun e => { e with stats := f e.stats }
    nonempty := by simpa using r.nonempty }

/-- Entry `i` is broken. -/
def isBroken (r : Roster) (i : Nat) : Bool := (r.stats i).isBroken

/-- The address of an entry. -/
def address (r : Roster) (i : Fin r.size) : SocketAddress :=
  have : i.val < r.remotes.size := i.isLt
  r.remotes[i.val].address

/-- The entry that a cursor points at. -/
def entryAt (r : Roster) (cursor : UInt64) : Fin r.size :=
  ⟨cursor.toNat % r.size, Nat.mod_lt _ r.nonempty⟩

/-- Looks at no more than `steps` entries from the cursor on and stops at the first that is not
broken. The result is the last entry looked at, and the cursor behind it. -/
def scan (r : Roster) :
    (steps : Nat) → (cursor : UInt64) → (last : Fin r.size) → Fin r.size × UInt64
  | 0, cursor, last => (last, cursor)
  | steps + 1, cursor, _ =>
    let i := r.entryAt cursor
    if r.isBroken i then r.scan steps (cursor + 1) i else (i, cursor + 1)

/-- Picks the next entry to dial. Broken entries are passed over; when every entry is broken, the
last one looked at is picked all the same. -/
def selectNext (r : Roster) : Fin r.size × Roster :=
  let (i, cursor) := r.scan r.size r.cursor ⟨0, r.nonempty⟩
  (i, { r with cursor })

/-- A dial as the roster sees it: the next entry is picked and has one more attempt, and one more
failure if the connect fails. -/
def dial (r : Roster) (fails : Bool) : Nat × Roster :=
  let (i, next) := r.selectNext
  let next := next.updateStats i RemoteStats.recordAttempt
  (i, if fails then next.updateStats i RemoteStats.recordFailure else next)

@[simp] theorem size_updateStats (r : Roster) (i : Nat) (f : RemoteStats → RemoteStats) :
    (r.updateStats i f).size = r.size := by
  simp [updateStats, size]

@[simp] theorem cursor_updateStats (r : Roster) (i : Nat) (f : RemoteStats → RemoteStats) :
    (r.updateStats i f).cursor = r.cursor := rfl

/-- Only the entry that is changed has another history. -/
theorem stats?_updateStats (r : Roster) (i j : Nat) (f : RemoteStats → RemoteStats) :
    (r.updateStats i f).stats? j = if i = j then (r.stats? j).map f else r.stats? j := by
  unfold updateStats stats?
  simp only [Array.getElem?_modify]
  by_cases h : i = j
  · simp [h, Option.map_map, Function.comp_def]
  · simp [h]

@[simp] theorem address?_updateStats (r : Roster) (i j : Nat) (f : RemoteStats → RemoteStats) :
    (r.updateStats i f).address? j = r.address? j := by
  unfold updateStats address?
  simp only [Array.getElem?_modify]
  by_cases h : i = j
  · simp [h, Option.map_map, Function.comp_def]
  · simp [h]

@[simp] theorem remotes_selectNext (r : Roster) : r.selectNext.2.remotes = r.remotes := rfl

@[simp] theorem size_selectNext (r : Roster) : r.selectNext.2.size = r.size := rfl

end Roster

end LoadGenerator
