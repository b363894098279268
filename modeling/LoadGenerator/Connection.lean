/-
One outbound connection of a worker.

* **`Connection`** — where it leads, how far it has come, and how much it has sent;
* **`Connection.finish`** — asks the socket whether the connect is through. Once it is, it stays so
  and the socket is not asked again;
* **`Connection.seek`**, **`Connection.record`** — the cursor before and after a write.
-/
import LoadGenerator.Number.Natural
import LoadGenerator.Address.SocketAddress
import LoadGenerator.Payload
import LoadGenerator.SystemError

namespace LoadGenerator

/-- How far a connection has come. -/
inductive ConnectionState where
  /-- The connect was issued and is not confirmed yet. -/
  | connecting
  | established
  deriving DecidableEq, Repr

/-- One outbound connection, owned by a single worker. -/
structure Connection where
  remote : SocketAddress
  /-- The roster entry that was dialed. -/
  entry : Nat
  state : ConnectionState := .connecting
  /-- The position in the payload, below its size after every look-up of a chunk. -/
  cursor : Nat := 0
  transmitted : Nat := 0
  /-- The socket was reported writable, and no write has been refused since. -/
  ready : Bool := false
  deriving DecidableEq, Repr

/-- What a socket answers about its connect: the error that is pending on it, or the failure to ask
for one; and the failure to name its peer, which there is none of when it is connected. -/
structure ConnectStatus where
  pendingError : Option SystemError
  peer : Option SystemError
  deriving DecidableEq, Repr

namespace Connection

/-- Whether the connect is through. `ok false` means that it still goes on. -/
def finish (c : Connection) (s : ConnectStatus) : Connection × Except SystemError Bool :=
  match c.state with
  | .established => (c, .ok true)
  | .connecting =>
    match s.pendingError with
    | some e => (c, .error e)
    | none =>
      match s.peer with
      | none => ({ c with state := .established }, .ok true)
      | some e =>
        if e.kind = .notConnected ∨ e = .connectInProgress then (c, .ok false) else (c, .error e)

/-- The connection with its cursor at a position inside the payload. -/
def seek (c : Connection) (p : Payload) : Connection :=
  { c with cursor := p.rewind c.cursor }

/-- The connection after a write that took `count` bytes. -/
def record (c : Connection) (count : Nat) : Connection :=
  { c with cursor := c.cursor + count, transmitted := c.transmitted + count }

/-- Cursor and counter are machine words; this much more still fits into both. -/
def hasRoomFor (c : Connection) (count : Nat) : Bool :=
  c.cursor + count < wordRange && c.transmitted + count < wordRange

/-- A look-up leaves the cursor inside the payload. -/
theorem cursor_seek_lt (c : Connection) (p : Payload) : (c.seek p).cursor < p.size :=
  p.rewind_lt c.cursor

@[simp] theorem seek_seek (c : Connection) (p : Payload) : (c.seek p).seek p = c.seek p := by
  simp [seek, Payload.rewind_eq_mod]

end Connection

end LoadGenerator
