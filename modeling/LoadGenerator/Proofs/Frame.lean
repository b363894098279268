/-
What dialing and serving leave alone.

Neither touches the flags that say how a worker stands to the control pipe, nor the batch that is
being served. Only a command, an event of the pipe or a read of it changes a flag.

* **`Worker.controls`** — the three flags;
* **`Worker.Undisturbed`** — flags and batch are as they were;
* **`Worker.undisturbed_dial`**, **`Worker.undisturbed_serve`** — so it is after a dial, and after
  every service.
-/
import LoadGenerator.Proofs.History

namespace LoadGenerator

namespace Worker

/-- How a worker stands to the control pipe: registered, reported readable, told to stop. -/
def controls (w : Worker) : Bool × Bool × Bool :=
  (w.controlRegistered, w.controlReady, w.terminating)

/-- Flags and batch are as they were. -/
structure Undisturbed (w w' : Worker) : Prop where
  controls : w'.controls = w.controls
  batch : w'.batch = w.batch

variable {w w' w'' : Worker}

theorem Undisturbed.refl (w : Worker) : w.Undisturbed w := ⟨rfl, rfl⟩

theorem Undisturbed.trans (h : w.Undisturbed w') (h' : w'.Undisturbed w'') : w.Undisturbed w'' :=
  ⟨h'.controls.trans h.controls, h'.batch.trans h.batch⟩

theorem undisturbed_close (w : Worker) (t : Token) (cause : CloseCause) :
    w.Undisturbed (w.close t cause).1 := by
  cases h : w.connections.get? t with
  | none =>
    rw [close_eq_self h]
    exact .refl w
  | some c =>
    rw [close_eq h]
    exact ⟨rfl, rfl⟩

theorem undisturbed_failWrite (w : Worker) (t : Token) (c : Connection) (e : SystemError) :
    w.Undisturbed (w.failWrite t c e).1 := by
  obtain ⟨r, hr⟩ := tellWriteFailure_fst w c e
  have htold : w.Undisturbed ((w.tellWriteFailure c e).1.updateStats c.entry .recordFailure) := by
    rw [hr]
    exact ⟨rfl, rfl⟩
  exact htold.trans (undisturbed_close _ t (.writeFailed e))

theorem undisturbed_writeChunk (w : Worker) (t : Token) (c : Connection)
    (write : Except SystemError Nat) : w.Undisturbed (w.writeChunk t c write).1 := by
  unfold writeChunk
  cases write with
  | ok count => exact ⟨rfl, rfl⟩
  | error e =>
    simp only
    split
    · exact ⟨rfl, rfl⟩
    · split
      · exact ⟨rfl, rfl⟩
      -- the look-up of the chunk moves the cursor, and the failure does the rest
      · have hset : w.Undisturbed (w.setConnection t (c.seek w.payload)) := ⟨rfl, rfl⟩
        exact hset.trans (undisturbed_failWrite _ t _ e)

theorem undisturbed_serve (w : Worker) (t : Token) (answer : SocketAnswer) :
    w.Undisturbed (w.serve t answer).1 := by
  unfold serve
  split
  · exact undisturbed_close w t .terminating
  · cases h : w.connections.get? t with
    | none => exact .refl w
    | some c =>
      simp only
      rcases finish_cases c answer.status with hf | hf | ⟨e, hf⟩
      · rw [hf]
        exact undisturbed_writeChunk w t c.confirmed answer.write
      · rw [hf]
        exact ⟨rfl, rfl⟩
      · rw [hf]
        -- the failure is counted before the connection is closed
        have hcount : w.Undisturbed (w.countConnectFailure c.entry c.remote e).1 := ⟨rfl, rfl⟩
        exact hcount.trans (undisturbed_close _ t (.connectFailed e))

theorem undisturbed_dial (w : Worker) (answers : DialAnswers) :
    w.Undisturbed (w.dial answers).worker := by
  cases h : answers.result w.nextToken with
  | _ =>
    simp only [dial, h]
    exact ⟨rfl, rfl⟩

/-- Serving a batch empties it, and leaves the flags alone. -/
theorem controls_serveEach (answers : Token → SocketAnswer) (ts : List Token)
    (hbatch : w.batch = ts) :
    (serveEach answers ts w).1.controls = w.controls ∧ (serveEach answers ts w).1.batch = [] := by
  induction ts generalizing w with
  | nil => exact ⟨rfl, hbatch⟩
  | cons t rest ih =>
    have hserved := undisturbed_serve { w with batch := rest } t (answers t)
    obtain ⟨hcontrols, hrest⟩ := ih hserved.batch
    exact ⟨hcontrols.trans hserved.controls, hrest⟩

theorem controls_serveReady (w : Worker) (answers : Token → SocketAnswer) :
    (w.serveReady answers).1.controls = w.controls ∧ (w.serveReady answers).1.batch = [] :=
  controls_serveEach answers w.ready rfl

end Worker

end LoadGenerator
