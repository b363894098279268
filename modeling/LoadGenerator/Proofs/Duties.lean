/-
What a command makes of the worker that reads it.

A worker reads at most one byte in a turn, none once it was told to stop, and none that it does not
act on at once. Serving its connections changes neither its attempts nor whether it stops.

* **`Worker.Steady`** — nothing was read, nothing was dialed, and the worker stops if it did before;
* **`Worker.Heeds`** — one byte was read, and the worker did what it says;
* **`Worker.heeds_act`**, **`Worker.steady_act`** — when a turn is the one or the other;
* **`Member.Course`**, **`Member.course_turn`** — the course of a member's turn;
* **`Member.Traffic`**, **`Member.traffic_turn`** — what a member's turn takes from the pipe.
-/
import LoadGenerator.Engine.Crew
import LoadGenerator.Proofs.History

namespace LoadGenerator

/-- The byte that an act took from the control pipe. -/
def Act.byteRead? : Act → Option UInt8
  | readControl (.byte b) => some b
  | _ => none

/-- The bytes that were read from the control pipe, in order. -/
def bytesRead (acts : List Act) : List UInt8 := acts.filterMap Act.byteRead?

theorem bytesRead_append (acts more : List Act) :
    bytesRead (acts ++ more) = bytesRead acts ++ bytesRead more :=
  List.filterMap_append

/-! ### Attempts on all addresses -/

namespace Roster

/-- Attempts on all addresses together. -/
def attempts (r : Roster) : Nat := total (r.snapshot.map RemoteStats.attempts)

theorem attempts_updateStats (r : Roster) {i k : Nat} {f : RemoteStats → RemoteStats}
    (hk : ∀ s, (f s).attempts = s.attempts + k) (h : i < r.size ∨ k = 0) :
    (r.updateStats i f).attempts = r.attempts + k := by
  have hsum := total_map_modify (f := fun e : Remote => e.stats.attempts)
    (g := fun e => { e with stats := f e.stats }) (fun e => hk e.stats) r.remotes.toList (i := i) h
  simpa [attempts, snapshot, updateStats, Array.toList_modify, Function.comp_def] using hsum

end Roster

namespace Worker

variable {w w' w'' : Worker} {acts more : List Act} {b : UInt8}

/-! ### Steady stretches -/

/-- Nothing is read, nothing is dialed, and the worker stops if it did before. -/
structure Steady (w : Worker) (acts : List Act) (w' : Worker) : Prop where
  terminating : w'.terminating = w.terminating
  attempts : w'.roster.attempts = w.roster.attempts
  reads : bytesRead acts = []

theorem Steady.refl (w : Worker) : Steady w [] w := ⟨rfl, rfl, rfl⟩

theorem Steady.trans (h : Steady w acts w') (h' : Steady w' more w'') :
    Steady w (acts ++ more) w'' where
  terminating := h'.terminating.trans h.terminating
  attempts := h'.attempts.trans h.attempts
  reads := by rw [bytesRead_append, h.reads, h'.reads, List.append_nil]

theorem steady_updateStats (w : Worker) (i : Nat) {f : RemoteStats → RemoteStats}
    (hf : ∀ s, (f s).attempts = s.attempts) : Steady w [] (w.updateStats i f) :=
  ⟨rfl, w.roster.attempts_updateStats (k := 0) hf (.inr rfl), rfl⟩

theorem steady_close (w : Worker) (t : Token) (cause : CloseCause) :
    Steady w (w.close t cause).2 (w.close t cause).1 := by
  unfold close
  split <;> exact ⟨rfl, rfl, rfl⟩

theorem steady_countConnectFailure (w : Worker) (i : Nat) (address : SocketAddress)
    (e : SystemError) :
    Steady w (w.countConnectFailure i address e).2 (w.countConnectFailure i address e).1 := by
  have hcount := w.steady_updateStats i (f := .recordFailure) fun _ => rfl
  unfold countConnectFailure
  refine ⟨hcount.terminating, hcount.attempts, ?_⟩
  simp only
  split <;> rfl

theorem steady_tellWriteFailure (w : Worker) (c : Connection) (e : SystemError) :
    Steady w (w.tellWriteFailure c e).2 (w.tellWriteFailure c e).1 := by
  unfold tellWriteFailure
  split
  · exact ⟨rfl, rfl, rfl⟩
  · split
    · exact .refl w
    · have hclaim := w.steady_updateStats c.entry (f := .claimWriteReport) fun _ => rfl
      exact ⟨rfl, hclaim.attempts, rfl⟩

theorem steady_failWrite (w : Worker) (t : Token) (c : Connection) (e : SystemError) :
    Steady w (w.failWrite t c e).2 (w.failWrite t c e).1 := by
  have htold := w.steady_tellWriteFailure c e
  have hcount := (w.tellWriteFailure c e).1.steady_updateStats c.entry (f := .recordFailure)
    fun _ => rfl
  exact htold.trans (hcount.trans (steady_close _ t (.writeFailed e)))

theorem Steady.cons (h : Steady w acts w') {a : Act} (ha : a.byteRead? = none) :
    Steady w (a :: acts) w' :=
  ⟨h.terminating, h.attempts, by rw [bytesRead, List.filterMap_cons_none ha]; exact h.reads⟩

theorem steady_writeChunk (w : Worker) (t : Token) (c : Connection)
    (write : Except SystemError Nat) :
    Steady w (w.writeChunk t c write).2 (w.writeChunk t c write).1 := by
  unfold writeChunk
  cases write with
  | ok count => exact ⟨rfl, rfl, rfl⟩
  | error e =>
    simp only
    split
    · exact ⟨rfl, rfl, rfl⟩
    · split
      · exact ⟨rfl, rfl, rfl⟩
      -- the failure works on the worker with the cursor moved, which is as steady
      · have hset : Steady w [] (w.setConnection t (c.seek w.payload)) := ⟨rfl, rfl, rfl⟩
        exact (hset.trans (steady_failWrite _ t _ e)).cons rfl

theorem steady_serve (w : Worker) (t : Token) (answer : SocketAnswer) :
    Steady w (w.serve t answer).2 (w.serve t answer).1 := by
  unfold serve
  split
  · exact steady_close w t _
  · split
    · exact .refl w
    · next c _ =>
      simp only
      split
      · exact (steady_writeChunk w t _ _).cons rfl
      · exact ⟨rfl, rfl, rfl⟩
      · next e _ =>
        have hcount := steady_countConnectFailure w (c.finish answer.status).1.entry
          (c.finish answer.status).1.remote e
        exact (hcount.trans (steady_close _ t _)).cons rfl

theorem steady_serveEach (answers : Token → SocketAnswer) (ts : List Token) (w : Worker) :
    Steady w (serveEach answers ts w).2 (serveEach answers ts w).1 := by
  induction ts generalizing w with
  | nil => exact .refl w
  | cons t rest ih =>
    have htaken : Steady w [] { w with batch := rest } := ⟨rfl, rfl, rfl⟩
    exact (htaken.trans (steady_serve _ t (answers t))).trans (ih _)

theorem steady_serveReady (w : Worker) (answers : Token → SocketAnswer) :
    Steady w (w.serveReady answers).2 (w.serveReady answers).1 := by
  have hswapped : Steady w [] { w with ready := w.batch, batch := w.ready } := ⟨rfl, rfl, rfl⟩
  exact hswapped.trans (steady_serveEach answers w.ready _)

theorem steady_observe (w : Worker) (t : Token) : Steady w [] (w.observe t) := by
  unfold observe
  split
  · exact ⟨rfl, rfl, rfl⟩
  · unfold markReady
    split
    · exact .refl w
    · split <;> exact ⟨rfl, rfl, rfl⟩

theorem steady_observeAll (w : Worker) (events : List Token) :
    Steady w [] (w.observeAll events) := by
  induction events generalizing w with
  | nil => exact .refl w
  | cons t events ih => exact (steady_observe w t).trans (ih _)

/-! ### Commands -/

/-- One byte is read by a worker that was not told to stop, and the worker does what it says. -/
structure Heeds (w : Worker) (b : UInt8) (acts : List Act) (w' : Worker) : Prop where
  unstopped : w.terminating = false
  terminating : w'.terminating = decide (b = Command.terminateByte)
  attempts : w'.roster.attempts = w.roster.attempts + if b = Command.connectByte then 1 else 0
  reads : bytesRead acts = [b]

theorem Steady.heeds (h : Steady w acts w') (h' : Heeds w' b more w'') :
    Heeds w b (acts ++ more) w'' where
  unstopped := h.terminating ▸ h'.unstopped
  terminating := h'.terminating
  attempts := by rw [h'.attempts, h.attempts]
  reads := by rw [bytesRead_append, h.reads, h'.reads, List.nil_append]

theorem Heeds.steady (h : Heeds w b acts w') (h' : Steady w' more w'') :
    Heeds w b (acts ++ more) w'' where
  unstopped := h.unstopped
  terminating := h'.terminating.trans h.terminating
  attempts := h'.attempts.trans h.attempts
  reads := by rw [bytesRead_append, h.reads, h'.reads, List.append_nil]

/-- However it ends, a dial is one attempt. -/
theorem attempts_dial (w : Worker) (answers : DialAnswers) :
    (w.dial answers).worker.terminating = w.terminating ∧
      (w.dial answers).worker.roster.attempts = w.roster.attempts + 1 ∧
      bytesRead (w.dial answers).acts = [] := by
  have hattempt : w.attempt.roster.attempts = w.roster.attempts + 1 :=
    -- the attempt is counted before anything can fail
    Roster.attempts_updateStats _ (fun _ => rfl) (.inl w.roster.selectNext.1.isLt)
  cases h : answers.result w.nextToken with
  | failed e =>
    simp only [dial, h]
    -- counting the failure leaves the attempts alone
    have hcount := steady_countConnectFailure w.attempt w.nextEntry w.nextAddress e
    exact ⟨hcount.terminating, hcount.attempts.trans hattempt, (hcount.cons rfl).reads⟩
  | _ =>
    simp only [dial, h]
    exact ⟨trivial, hattempt, rfl⟩

theorem handle_ofByte (w : Worker) (answers : DialAnswers) (b : UInt8) (h : w.terminating = false) :
    let step := w.handle (Command.ofByte b) answers
    step.worker.terminating = decide (b = Command.terminateByte) ∧
      step.worker.roster.attempts =
        w.roster.attempts + (if b = Command.connectByte then 1 else 0) ∧
      bytesRead step.acts = [] := by
  intro step
  -- a byte is a connect, a stop, or neither, and only the first two count
  by_cases hc : b = Command.connectByte
  · have hstep : step = w.dial answers := by simp only [step, hc]; rfl
    obtain ⟨hterminating, hattempts, hreads⟩ := attempts_dial w answers
    rw [hstep, hterminating, hattempts, if_pos hc, h, hc]
    exact ⟨rfl, rfl, hreads⟩
  · by_cases ht : b = Command.terminateByte
    · have hstep : step = { worker := w.beginTerminating } := by simp only [step, ht]; rfl
      rw [hstep, if_neg hc, ht]
      exact ⟨rfl, rfl, rfl⟩
    · have hstep : step = { worker := w, acts := [.told (.unknownCommand w.index b)] } := by
        simp only [step, Command.ofByte, if_neg hc, if_neg ht]
        rfl
      rw [hstep, if_neg hc, decide_eq_false ht]
      exact ⟨h, rfl, rfl⟩

/-- A worker that would read the pipe takes the byte that is there. -/
theorem heeds_readControl (h : w.readsControl = true) (b : UInt8) (answers : DialAnswers) :
    Heeds w b (w.readControl (.byte b) answers).acts (w.readControl (.byte b) answers).worker := by
  have hunstopped : w.terminating = false := by
    simp only [readsControl, Bool.and_eq_true, Bool.not_eq_true'] at h
    exact h.2
  obtain ⟨hterminating, hattempts, hreads⟩ := handle_ofByte w answers b hunstopped
  simp only [readControl, h, Bool.not_true, Bool.false_eq_true, if_false]
  exact ⟨hunstopped, hterminating, hattempts, congrArg (b :: ·) hreads⟩

/-- A worker that would not read the pipe, or finds no byte there, goes on as before. -/
theorem steady_readControl {read : ControlRead}
    (h : w.readsControl = false ∨ ∀ b, read ≠ .byte b) (answers : DialAnswers) :
    Steady w (w.readControl read answers).acts (w.readControl read answers).worker := by
  unfold readControl
  split
  · exact .refl w
  · next hreads =>
    cases read with
    | closed => exact ⟨rfl, rfl, rfl⟩
    | byte b =>
      -- a byte that is read could only be what the hypothesis rules out
      rcases h with h | h
      · simp [h] at hreads
      · exact absurd rfl (h b)
    | failed e =>
      simp only
      split
      · exact ⟨rfl, rfl, rfl⟩
      · split <;> exact ⟨rfl, rfl, rfl⟩

theorem heeds_act (h : w.readsControl = true) {answers : TurnAnswers}
    (hb : answers.control = .byte b) : Heeds w b (w.act answers).acts (w.act answers).worker := by
  have hread := heeds_readControl h b answers.dial
  rw [← hb] at hread
  unfold act
  simp only
  split
  · exact hread
  · exact hread.steady (steady_serveReady _ answers.sockets)

theorem steady_act {answers : TurnAnswers}
    (h : w.readsControl = false ∨ ∀ b, answers.control ≠ .byte b) :
    Steady w (w.act answers).acts (w.act answers).worker := by
  have hread := steady_readControl h answers.dial
  unfold act
  simp only
  split
  · exact hread
  · exact hread.trans (steady_serveReady _ answers.sockets)

theorem ending_act (w : Worker) (answers : TurnAnswers) (e : SystemError) :
    (w.act answers).ending ≠ .pollFailed e := by
  unfold act
  simp only
  split <;> simp

end Worker

/-! ### Members at the pipe -/

namespace MemberAnswers

variable (a : MemberAnswers) (pipe : ControlPipe) (w : Worker)

/-- The answers to a worker's turn at the pipe. -/
def atPipe : TurnAnswers :=
  { poll := a.poll, control := (a.readFrom pipe w).1, dial := a.dial, sockets := a.sockets }

theorem steady_polled : w.Steady [] (a.polled w) := by
  unfold polled
  split
  · exact Worker.steady_observeAll w _
  · exact .refl w

/-- A turn fails with its poll, or acts once the poll has been taken note of. -/
theorem turn_cases :
    (∃ e, w.turn (a.atPipe pipe w) = ⟨w, [], .pollFailed e⟩) ∨
      w.turn (a.atPipe pipe w) = (a.polled w).act (a.atPipe pipe w) := by
  cases hpoll : a.poll with
  | ok events => exact .inr (by simp only [Worker.turn, atPipe, polled, hpoll])
  | error e =>
    by_cases hkind : e.kind = .interrupted
    · exact .inr (by simp only [Worker.turn, atPipe, polled, hpoll, hkind, if_true])
    · exact .inl ⟨e, by simp only [Worker.turn, atPipe, hpoll, hkind, if_false]⟩

/-- What a worker reads is what the pipe has lost. -/
theorem readFrom_cases :
    (a.polled w).readsControl = true ∧ (∃ b rest, pipe.pending = b :: rest ∧
        a.readFrom pipe w = (.byte b, { pipe with pending := rest })) ∨
      (a.readFrom pipe w).2 = pipe ∧
        ((a.polled w).readsControl = false ∨ ∀ b, (a.readFrom pipe w).1 ≠ .byte b) := by
  unfold readFrom
  cases a.readFailure with
  | some e => exact .inr ⟨rfl, .inr (by simp)⟩
  | none =>
    cases hreads : (a.polled w).readsControl with
    | false => exact .inr ⟨rfl, .inl rfl⟩
    | true =>
      cases hpending : pipe.pending with
      -- an empty pipe ends or keeps the reader waiting, and gives no byte
      | nil => exact .inr ⟨by simp [ControlPipe.read, hpending], .inr fun b => by
          simp only [if_true, ControlPipe.read, hpending]
          split <;> simp⟩
      | cons b rest => exact .inl ⟨rfl, b, rest, rfl, by simp [ControlPipe.read, hpending]⟩

end MemberAnswers

namespace Member

/-- What a turn, or the end of its thread, is to a member and the pipe. -/
inductive Traffic (m : Member) (pipe : ControlPipe) (t : MemberTurn) : Prop
  /-- Nothing is read. The member may give up its handle of the pipe. -/
  | steady (h : m.worker.Steady t.acts t.member.worker)
      (hpipe : t.pipe = pipe ∨ t.pipe = pipe.closeReader)
  /-- The first byte of the pipe is read. -/
  | read {b : UInt8} {rest : List UInt8} (hpending : pipe.pending = b :: rest)
      (hpipe : t.pipe = { pipe with pending := rest })
      (h : m.worker.Heeds b t.acts t.member.worker)

/-- The course of a member's turn. -/
inductive Course (m : Member) (pipe : ControlPipe) (a : MemberAnswers) (t : MemberTurn) : Prop
  | idle (hmember : t.member = m) (hpipe : t.pipe = pipe) (hacts : t.acts = [])
  /-- The poll fails, and the thread ends with it. -/
  | ended (hrun : m.isRunning = true) (edge : Bool) (e : SystemError)
      (hmember : t.member = { m with edge, status := .exited m.worker.report })
      (hpipe : t.pipe = pipe.closeReader)
      (hacts : t.acts = [.told (.pollFailed m.worker.index e), m.worker.farewell])
  /-- The worker takes note of events and acts. -/
  | worked
      (hmember : t.member =
        { m with
          worker := ((a.polled m.worker).act (a.atPipe pipe m.worker)).worker
          edge := m.edge && !a.deliversEdge })
      (hpipe : t.pipe = (a.readFrom pipe m.worker).2)
      (hacts : t.acts = ((a.polled m.worker).act (a.atPipe pipe m.worker)).acts)

variable (m : Member) (pipe : ControlPipe)

theorem course_turn (a : MemberAnswers) : m.Course pipe a (m.turn pipe a) := by
  unfold turn
  split
  · next hbusy =>
    rw [Bool.and_eq_true] at hbusy
    rcases a.turn_cases pipe m.worker with ⟨e, h⟩ | h
    -- a poll that fails for good ends the member
    · unfold MemberAnswers.atPipe at h
      simp only [h]
      exact .ended hbusy.1 _ e rfl rfl rfl
    · -- the poll has not failed, so the member stays
      have hend := (a.polled m.worker).ending_act (a.atPipe pipe m.worker)
      rw [← h] at hend
      refine .worked ?_ ?_ ?_
      · rw [← h]
        unfold MemberAnswers.atPipe at hend ⊢
        simp only
      · unfold MemberAnswers.atPipe at hend
        simp only
      · rw [← h]
        unfold MemberAnswers.atPipe at hend ⊢
        simp only
  · exact .idle rfl rfl rfl

theorem traffic_turn (a : MemberAnswers) : m.Traffic pipe (m.turn pipe a) := by
  have hpolled := a.steady_polled m.worker
  cases m.course_turn pipe a with
  | idle hmember hpipe hacts =>
    refine .steady ?_ (.inl hpipe)
    rw [hmember, hacts]
    exact .refl _
  | ended _ edge e hmember hpipe hacts =>
    refine .steady ?_ (.inr hpipe)
    rw [hmember, hacts]
    exact ⟨rfl, rfl, rfl⟩
  | worked hmember hpipe hacts =>
    rcases a.readFrom_cases pipe m.worker with ⟨hreads, b, rest, hpending, hread⟩ | ⟨hkept, hno⟩
    -- a byte was there, and the worker heeds it
    · have hbyte : (a.atPipe pipe m.worker).control = .byte b := congrArg Prod.fst hread
      refine .read hpending (hpipe.trans (congrArg Prod.snd hread)) ?_
      rw [hmember, hacts]
      exact hpolled.heeds (Worker.heeds_act hreads hbyte)
    · have hno : _ ∨ ∀ b, (a.atPipe pipe m.worker).control ≠ .byte b := hno
      refine .steady ?_ (.inl (hpipe.trans hkept))
      rw [hmember, hacts]
      exact hpolled.trans (Worker.steady_act hno)

theorem traffic_leave : m.Traffic pipe (m.leave pipe) := by
  unfold leave
  split
  · exact .steady ⟨rfl, rfl, rfl⟩ (.inr rfl)
  · exact .steady (.refl _) (.inl rfl)

end Member

end LoadGenerator
