/-
The pipe that carries commands from the supervisor to the workers.

Every byte is delivered once, to whichever reader comes first. The read end does not block; the
write end does, so that no command is lost when the pipe is full.

* **`ControlPipe`** — the bytes on their way, whether the write end is open, and how many handles of
  the read end are;
* **`ControlPipe.write`** — refused when nobody reads any more, unless there is nothing to write;
* **`ControlPipe.read`** — the next byte, the end of the stream, or the remark that one would have
  to wait.
-/
import LoadGenerator.Command
import LoadGenerator.SystemError

namespace LoadGenerator

/-- What reading a single byte of the control pipe gives. -/
inductive ControlRead where
  | byte (b : UInt8)
  /-- The end of the stream: nobody can write any more. -/
  | closed
  | failed (error : SystemError)
  deriving DecidableEq, Repr

/-- A pipe for commands. -/
structure ControlPipe where
  pending : List UInt8 := []
  writerOpen : Bool := true
  readers : Nat := 1
  deriving Repr

/-- How one end of a pipe was opened. -/
structure EndFlags where
  nonblocking : Bool
  closeOnExec : Bool
  deriving DecidableEq, Repr

namespace ControlPipe

/-- The read end does not block, and child processes do not inherit it. -/
def readerFlags : EndFlags := ⟨true, true⟩

/-- The write end blocks, and child processes do not inherit it. -/
def writerFlags : EndFlags := ⟨false, true⟩

/-- Bytes into the pipe, in one piece. -/
def write (p : ControlPipe) (bytes : List UInt8) : Except SystemError ControlPipe :=
  if bytes.isEmpty then .ok p
  else if p.readers = 0 then .error .brokenPipe
  else .ok { p with pending := p.pending ++ bytes }

/-- One byte out of the pipe. -/
def read (p : ControlPipe) : ControlRead × ControlPipe :=
  match p.pending with
  | b :: rest => (.byte b, { p with pending := rest })
  | [] => (if p.writerOpen then .failed .tryAgain else .closed, p)

/-- One command. -/
def send (p : ControlPipe) (c : Command) : Except SystemError ControlPipe :=
  p.write [c.byte]

/-- One byte, whatever it means. -/
def sendRaw (p : ControlPipe) (b : UInt8) : Except SystemError ControlPipe :=
  p.write [b]

/-- A request for one connection. -/
def openConnection (p : ControlPipe) : Except SystemError ControlPipe :=
  p.send .connect

/-- Requests for `count` connections, in one piece. -/
def openConnections (p : ControlPipe) (count : Nat) : Except SystemError ControlPipe :=
  p.write (List.replicate count Command.connectByte)

/-- A request that whichever worker reads it should stop. -/
def terminateOne (p : ControlPipe) : Except SystemError ControlPipe :=
  p.send .terminate

/-- Requests to stop for `workers` workers, in one piece. -/
def terminateMany (p : ControlPipe) (workers : Nat) : Except SystemError ControlPipe :=
  p.write (List.replicate workers Command.terminateByte)

/-- The write end is closed. -/
def closeWriter (p : ControlPipe) : ControlPipe := { p with writerOpen := false }

/-- One more handle of the read end. -/
def addReader (p : ControlPipe) : ControlPipe := { p with readers := p.readers + 1 }

/-- One handle of the read end is closed. With the last one the bytes on their way are gone. -/
def closeReader (p : ControlPipe) : ControlPipe :=
  { p with
    readers := p.readers - 1
    -- nobody is left who could read them
    pending := if p.readers ≤ 1 then [] else p.pending }

/-- Reads up to `count` commands. The result stops short where a read gives no byte, and then says
what it gave. -/
def readCommands (p : ControlPipe) : (count : Nat) → List Command × Option ControlRead × ControlPipe
  | 0 => ([], none, p)
  | count + 1 =>
    match p.read with
    | (.byte b, p) =>
      let (commands, stop, p) := p.readCommands count
      (Command.ofByte b :: commands, stop, p)
    | (stop, p) => ([], some stop, p)

theorem pending_of_write {p q : ControlPipe} {bytes : List UInt8} (h : p.write bytes = .ok q) :
    q.pending = p.pending ++ bytes := by
  unfold write at h
  split at h
  · next he =>
    injection h with h
    subst h
    simp_all
  · split at h
    · cases h
    · injection h with h
      subst h
      rfl

theorem readers_of_write {p q : ControlPipe} {bytes : List UInt8} (h : p.write bytes = .ok q) :
    q.readers = p.readers := by
  unfold write at h
  split at h
  · rw [← Except.ok.inj h]
  · split at h
    · cases h
    · rw [← Except.ok.inj h]

/-- A write is refused exactly when there is something to write and nobody to read it. -/
theorem write_eq_error_iff {p : ControlPipe} {bytes : List UInt8} {e : SystemError} :
    p.write bytes = .error e ↔ bytes ≠ [] ∧ p.readers = 0 ∧ e = .brokenPipe := by
  unfold write
  by_cases hb : bytes = []
  · simp [hb]
  · by_cases hr : p.readers = 0
    · have : bytes.isEmpty = false := by simpa using hb
      simp only [this, hr, if_true, Bool.false_eq_true, if_false, Except.error.injEq]
      exact ⟨fun h => ⟨hb, trivial, h.symm⟩, fun h => h.2.2.symm⟩
    · simp [hb, hr]

end ControlPipe

end LoadGenerator
