/-
What a worker goes through, as a row of small moves.

From outside a worker is given commands and turns. Inside, a turn is a row of moves, and each of
them does one thing: it dials, it serves one connection, or it only changes flags and queues.
Whatever every move preserves holds along every run.

* **`Worker.Operation`**, **`Worker.performAll`** — commands and turns, one after the other, and all
  that was done in their course;
* **`Worker.Move`** — one move, with what was done in it;
* **`Worker.Reaches`** — a row of moves;
* **`Worker.reaches_performAll`**, **`Worker.reaches_run`** — operations and runs are rows of moves.

The relation says what a move does to the roster, the table of connections and the counters. Which
move comes when is left open, so that an invariant is proved by one case for each of them.
-/
import LoadGenerator.Proofs.Connections
import LoadGenerator.Worker.Turn

namespace LoadGenerator

/-- A notice on the fate of a connection or of a connect: how often it is told is subject to
rules. -/
def Notice.isRationed : Notice → Bool
  | .connectFailed .. | .connectionClosedBy .. | .writeFailed .. => true
  | _ => false

/-- An act that leaves roster, connections and counters alone. -/
def Act.isQuiet : Act → Bool
  | .readControl _ => true
  | .told n => !n.isRationed
  | _ => false

/-- The dial was given up before a connect could fail, or after it went well. -/
def DialResult.isAbandoned : DialResult → Bool
  | .exhausted _ | .noSocket _ | .unregistered _ => true
  | .failed _ | .opened _ => false

/-- The connection with its connect confirmed. -/
def Connection.confirmed (c : Connection) : Connection := { c with state := .established }

namespace Worker

/-- What is done with a worker from outside: a command that it acts on, or a turn. -/
inductive Operation where
  | handle (command : Command) (answers : DialAnswers)
  | turn (answers : TurnAnswers)

/-- A worker and what it did up to now. -/
structure Outcome where
  worker : Worker
  acts : List Act

/-- A worker after an operation. -/
def perform (w : Worker) : Operation → Outcome
  | .handle c answers => ⟨(w.handle c answers).worker, (w.handle c answers).acts⟩
  | .turn answers => ⟨(w.turn answers).worker, (w.turn answers).acts⟩

/-- A worker after several operations. -/
def performAll (w : Worker) : List Operation → Outcome
  | [] => ⟨w, []⟩
  | o :: rest =>
    let first := w.perform o
    let last := first.worker.performAll rest
    ⟨last.worker, first.acts ++ last.acts⟩

/-- The entry that the next dial goes to. -/
def nextEntry (w : Worker) : Nat := w.roster.selectNext.1.val

/-- The address of that entry. -/
def nextAddress (w : Worker) : SocketAddress := w.roster.address w.roster.selectNext.1

/-- The worker once the next entry is picked and its attempt counted. -/
def attempt (w : Worker) : Worker :=
  { w with roster := w.roster.selectNext.2.updateStats w.nextEntry .recordAttempt }

/-- The worker with a new connection to the entry just picked. -/
def adopt (w : Worker) : Worker :=
  { w.attempt with
    nextToken := w.nextToken + 1
    connections := w.connections.add w.nextToken { remote := w.nextAddress, entry := w.nextEntry }
    openConnections := w.openConnections + 1 }

/-- The worker without a connection, whose bytes go to the total. -/
def fold (w : Worker) (t : Token) (c : Connection) : Worker :=
  { w with
    connections := w.connections.remove t
    totalTransmitted := w.totalTransmitted + c.transmitted
    openConnections := w.openConnections - 1 }

/-- The chunk at a connection's cursor is offered, with this result. -/
abbrev offered (w : Worker) (t : Token) (c : Connection) (result : Except SystemError Nat) : Act :=
  .wrote t c.entry (w.payload.rewind c.cursor) (w.payload.chunk (w.payload.rewind c.cursor)) result

/-- A failed write is told, if it is to be told, before it is counted. -/
def tellWriteFailure (w : Worker) (c : Connection) (e : SystemError) : Worker × List Act :=
  if e.kind = .brokenPipe then (w, [.told (.connectionClosedBy c.entry c.remote)])
  else if (w.roster.stats c.entry).writeFailureReported then (w, [])
  else (w.updateStats c.entry .claimWriteReport, [.told (.writeFailed c.entry c.remote e)])

section Fields

variable (w : Worker) (i : Nat) (f : RemoteStats → RemoteStats) (t : Token) (c : Connection)

@[simp] theorem roster_updateStats : (w.updateStats i f).roster = w.roster.updateStats i f := rfl

@[simp] theorem roster_countConnectFailure (address : SocketAddress) (e : SystemError) :
    (w.countConnectFailure i address e).1.roster = w.roster.updateStats i .recordFailure := rfl

@[simp] theorem roster_adopt : w.adopt.roster = w.attempt.roster := rfl

@[simp] theorem roster_fold : (w.fold t c).roster = w.roster := rfl

@[simp] theorem connections_fold : (w.fold t c).connections = w.connections.remove t := rfl

@[simp] theorem openConnections_fold : (w.fold t c).openConnections = w.openConnections - 1 := rfl

@[simp] theorem connections_setConnection :
    (w.setConnection t c).connections = w.connections.set t c := rfl

end Fields

/-- One move of a worker, and what is done in it. -/
inductive Move : Worker → List Act → Worker → Prop
  /-- Flags and queues change, and nothing else. -/
  | arranged {w : Worker} (controlRegistered controlReady terminating : Bool)
      (ready batch : List Token) :
      Move w [] { w with controlRegistered, controlReady, terminating, ready, batch }
  /-- A connection is marked as ready, or as not ready. -/
  | marked {w : Worker} {t : Token} {c : Connection} (h : w.connections.get? t = some c)
      (ready : Bool) : Move w [] (w.setConnection t { c with ready })
  /-- Something is done that changes nothing. -/
  | noted {w : Worker} {a : Act} (h : a.isQuiet = true) : Move w [a] w
  /-- A dial costs the attempt alone. -/
  | abandoned {w : Worker} {result : DialResult} (h : result.isAbandoned = true) (next : Token)
      (hnext : w.nextToken ≤ next) :
      Move w [.dialed w.nextEntry result] { w.attempt with nextToken := next }
  /-- The connect fails at once. -/
  | refused {w : Worker} (e : SystemError) :
      Move w
        (.dialed w.nextEntry (.failed e) ::
          (w.attempt.countConnectFailure w.nextEntry w.nextAddress e).2)
        (w.attempt.countConnectFailure w.nextEntry w.nextAddress e).1
  /-- A connection is on its way. -/
  | opened {w : Worker} : Move w [.dialed w.nextEntry (.opened w.nextToken)] w.adopt
  /-- A stopping worker closes a connection. -/
  | reaped {w : Worker} {t : Token} {c : Connection} (h : w.connections.get? t = some c) :
      Move w [.closed t c.entry c.transmitted .terminating] (w.fold t c)
  /-- The connect of a connection turns out to have failed. -/
  | failed {w : Worker} {t : Token} {c : Connection} (h : w.connections.get? t = some c)
      (e : SystemError) :
      Move w
        (.probed t c.entry (.error e) :: (w.countConnectFailure c.entry c.remote e).2 ++
          [.closed t c.entry c.transmitted (.connectFailed e)])
        ((w.countConnectFailure c.entry c.remote e).1.fold t c)
  /-- The connect of a connection still goes on. -/
  | waited {w : Worker} {t : Token} {c : Connection} (h : w.connections.get? t = some c) :
      Move w [.probed t c.entry (.ok false)] (w.setConnection t { c with ready := false })
  /-- A write takes so many bytes. -/
  | sent {w : Worker} {t : Token} {c : Connection} (h : w.connections.get? t = some c)
      (count : Nat) :
      Move w [.probed t c.entry (.ok true), w.offered t c (.ok count)]
        (w.setConnection t ((c.confirmed.seek w.payload).record count))
  /-- A write is put off. -/
  | held {w : Worker} {t : Token} {c : Connection} (h : w.connections.get? t = some c)
      {e : SystemError} (he : e.kind = .wouldBlock ∨ e.kind = .interrupted) (ready : Bool) :
      Move w [.probed t c.entry (.ok true), w.offered t c (.error e)]
        (w.setConnection t { c.confirmed.seek w.payload with ready })
  /-- A write fails for good. -/
  | broken {w : Worker} {t : Token} {c : Connection} (h : w.connections.get? t = some c)
      {e : SystemError} (he : ¬(e.kind = .wouldBlock ∨ e.kind = .interrupted)) :
      Move w
        (.probed t c.entry (.ok true) :: w.offered t c (.error e) ::
          (w.tellWriteFailure c e).2 ++ [.closed t c.entry c.transmitted (.writeFailed e)])
        (((w.tellWriteFailure c e).1.updateStats c.entry .recordFailure).fold t c)

/-- A row of moves, and all that is done in it. -/
inductive Reaches (w₀ : Worker) : List Act → Worker → Prop
  | refl : Reaches w₀ [] w₀
  | step {acts more : List Act} {w w' : Worker} (h : Reaches w₀ acts w) (m : Move w more w') :
      Reaches w₀ (acts ++ more) w'

namespace Reaches

variable {w₀ w w' : Worker} {acts more : List Act}

theorem of_move (m : Move w acts w') : w.Reaches acts w' := by
  simpa using refl.step m

theorem trans (h : w₀.Reaches acts w) (h' : w.Reaches more w') : w₀.Reaches (acts ++ more) w' := by
  induction h' with
  | refl => simpa using h
  | step _ m ih =>
    rw [← List.append_assoc]
    exact ih.step m

/-- A connection that joins the queue changes no more than the queue. -/
theorem keepReady (h : w₀.Reaches acts w) (t : Token) : w₀.Reaches acts (w.keepReady t) := by
  have hstep := h.step (.arranged w.controlRegistered w.controlReady w.terminating (w.ready ++ [t])
    w.batch)
  rwa [List.append_nil] at hstep

end Reaches

variable {w : Worker} {t : Token} {c : Connection}

/-! ### Telling -/

theorem told_of_countConnectFailure (w : Worker) (i : Nat) (address : SocketAddress)
    (e : SystemError) :
    ∃ notices : List Notice, (w.countConnectFailure i address e).2 = notices.map .told := by
  simp only [countConnectFailure]
  split
  · exact ⟨[.connectFailed i address e], rfl⟩
  · exact ⟨[], rfl⟩

theorem told_of_tellWriteFailure (w : Worker) (c : Connection) (e : SystemError) :
    ∃ notices : List Notice, (w.tellWriteFailure c e).2 = notices.map .told := by
  unfold tellWriteFailure
  split
  · exact ⟨[.connectionClosedBy c.entry c.remote], rfl⟩
  · split
    · exact ⟨[], rfl⟩
    · exact ⟨[.writeFailed c.entry c.remote e], rfl⟩

/-- A failed write changes no more than the history of its entry before it is counted. -/
theorem tellWriteFailure_cases (w : Worker) (c : Connection) (e : SystemError) :
    (w.tellWriteFailure c e).1 = w ∨
      (w.tellWriteFailure c e).1 = w.updateStats c.entry .claimWriteReport := by
  unfold tellWriteFailure
  split
  · exact .inl rfl
  · split
    · exact .inl rfl
    · exact .inr rfl

theorem tellWriteFailure_fst (w : Worker) (c : Connection) (e : SystemError) :
    ∃ r, (w.tellWriteFailure c e).1 = { w with roster := r } := by
  rcases tellWriteFailure_cases w c e with h | h
  · exact ⟨w.roster, h⟩
  · exact ⟨w.roster.updateStats c.entry .claimWriteReport, h⟩

/-! ### Dialing -/

theorem token_of_result {answers : DialAnswers} {s t : Token} (h : answers.result t = .opened s) :
    s = t := by
  unfold DialAnswers.result at h
  split at h
  · split at h <;> cases h
  · split at h
    · cases h
    · split at h
      · cases h
      · split at h
        · cases h
        · exact (DialResult.opened.inj h).symm

theorem reaches_dial (w : Worker) (answers : DialAnswers) :
    w.Reaches (w.dial answers).acts (w.dial answers).worker := by
  -- a dial without a connection keeps every token, or skips the one it took
  have habandoned : ∀ result : DialResult, result.isAbandoned = true → ∀ n,
      w.Reaches [.dialed w.nextEntry result] { w.attempt with nextToken := w.nextToken + n } :=
    fun result h n => .of_move (.abandoned h _ (Nat.le_add_right _ n))
  cases h : answers.result w.nextToken with
  | exhausted e =>
    simp only [dial, h]
    exact habandoned (.exhausted e) rfl 0
  | noSocket e =>
    simp only [dial, h]
    exact (habandoned (.noSocket e) rfl 0).step (.noted rfl)
  | failed e =>
    simp only [dial, h]
    exact .of_move (.refused (w := w) e)
  | unregistered e =>
    simp only [dial, h]
    exact (habandoned (.unregistered e) rfl 1).step (.noted rfl)
  | opened s =>
    obtain rfl := token_of_result h
    simp only [dial, h]
    exact .of_move (.opened (w := w))

theorem reaches_handle (w : Worker) (command : Command) (answers : DialAnswers) :
    w.Reaches (w.handle command answers).acts (w.handle command answers).worker := by
  cases command with
  | connect => exact reaches_dial w answers
  | terminate => exact .of_move (.arranged ..)
  | unknown b => exact .of_move (.noted rfl)

/-! ### Serving -/

theorem close_eq (h : w.connections.get? t = some c) (cause : CloseCause) :
    w.close t cause = (w.fold t c, [.closed t c.entry c.transmitted cause]) := by
  unfold close
  rw [h]
  rfl

theorem close_eq_self (h : w.connections.get? t = none) (cause : CloseCause) :
    w.close t cause = (w, []) := by
  unfold close
  rw [h]

/-- The three ways in which asking for a connect can go. -/
theorem finish_cases (c : Connection) (s : ConnectStatus) :
    c.finish s = (c.confirmed, .ok true) ∨ c.finish s = (c, .ok false) ∨
      ∃ e, c.finish s = (c, .error e) := by
  unfold Connection.finish
  cases hstate : c.state with
  | established =>
    left
    simp only [Connection.confirmed, ← hstate]
  | connecting =>
    cases s.pendingError with
    | some e => exact .inr (.inr ⟨e, rfl⟩)
    | none =>
      cases s.peer with
      | none => exact .inl rfl
      | some e =>
        by_cases he : e.kind = .notConnected ∨ e = .connectInProgress
        · exact .inr (.inl (by simp [he]))
        · exact .inr (.inr ⟨e, by simp [he]⟩)

theorem failWrite_eq (h : w.connections.get? t = some c) (d : Connection) (e : SystemError)
    (he : d.entry = c.entry) (hr : d.remote = c.remote) (ht : d.transmitted = c.transmitted) :
    (w.setConnection t d).failWrite t d e =
      (((w.tellWriteFailure c e).1.updateStats c.entry .recordFailure).fold t c,
        (w.tellWriteFailure c e).2 ++ [.closed t c.entry c.transmitted (.writeFailed e)]) := by
  have hget := Connections.get?_set_self h d
  unfold failWrite tellWriteFailure
  rw [he, hr]
  by_cases hp : e.kind = .brokenPipe
  · simp [hp, setConnection, updateStats, close, fold, hget, he, ht]
  · by_cases hw : (w.roster.stats c.entry).writeFailureReported = true
    · simp [hp, hw, setConnection, updateStats, close, fold, hget, he, ht]
    · simp [hp, hw, setConnection, updateStats, close, fold, hget, he, ht]

theorem reaches_writeChunk (h : w.connections.get? t = some c) (write : Except SystemError Nat) :
    w.Reaches (.probed t c.entry (.ok true) :: (w.writeChunk t c.confirmed write).2)
      (w.writeChunk t c.confirmed write).1 := by
  unfold writeChunk
  cases write with
  | ok count => exact (Reaches.of_move (.sent h count)).keepReady t
  | error e =>
    by_cases hb : e.kind = .wouldBlock
    · simp only [hb, if_true]
      exact .of_move (.held h (.inl hb) false)
    · by_cases hi : e.kind = .interrupted
      · simp only [hi, reduceCtorEq, if_false, if_true]
        exact (Reaches.of_move (.held h (.inr hi) c.ready)).keepReady t
      · simp only [hb, hi, if_false]
        rw [failWrite_eq h (c.confirmed.seek w.payload) e rfl rfl rfl]
        exact .of_move (.broken h (not_or.mpr ⟨hb, hi⟩))

theorem reaches_close (w : Worker) (t : Token) :
    w.Reaches (w.close t .terminating).2 (w.close t .terminating).1 := by
  cases h : w.connections.get? t with
  | none =>
    rw [close_eq_self h]
    exact .refl
  | some c =>
    rw [close_eq h]
    exact .of_move (.reaped h)

theorem reaches_serve (w : Worker) (t : Token) (answer : SocketAnswer) :
    w.Reaches (w.serve t answer).2 (w.serve t answer).1 := by
  unfold serve
  split
  · exact reaches_close w t
  · cases h : w.connections.get? t with
    | none => exact .refl
    | some c =>
      simp only
      -- the connect is through, still goes on, or has failed
      rcases finish_cases c answer.status with hf | hf | ⟨e, hf⟩
      · rw [hf]
        exact reaches_writeChunk h answer.write
      · rw [hf]
        exact .of_move (.waited h)
      · rw [hf]
        have hget : (w.countConnectFailure c.entry c.remote e).1.connections.get? t = some c := h
        simp only [close_eq hget]
        exact .of_move (.failed h e)

theorem reaches_serveEach (answers : Token → SocketAnswer) (ts : List Token) (w : Worker) :
    w.Reaches (serveEach answers ts w).2 (serveEach answers ts w).1 := by
  induction ts generalizing w with
  | nil => exact .refl
  | cons t rest ih =>
    have htaken : w.Reaches [] { w with batch := rest } := .of_move (.arranged ..)
    -- the token leaves the batch before its connection is served
    have hserved := htaken.trans (reaches_serve _ t (answers t))
    exact hserved.trans (ih _)

theorem reaches_serveReady (w : Worker) (answers : Token → SocketAnswer) :
    w.Reaches (w.serveReady answers).2 (w.serveReady answers).1 := by
  have hswapped : w.Reaches [] { w with ready := w.batch, batch := w.ready } :=
    .of_move (.arranged ..)
  exact hswapped.trans (reaches_serveEach answers w.ready _)

/-! ### Turns and runs -/

theorem reaches_observe (w : Worker) (t : Token) : w.Reaches [] (w.observe t) := by
  unfold observe
  split
  · exact .of_move (.arranged ..)
  · unfold markReady
    split
    · exact .refl
    · next c h =>
      split
      · exact .refl
      · exact (Reaches.of_move (.marked h true)).keepReady t

theorem reaches_observeAll (w : Worker) (events : List Token) :
    w.Reaches [] (w.observeAll events) := by
  induction events generalizing w with
  | nil => exact .refl
  | cons t events ih => exact (reaches_observe w t).trans (ih _)

theorem reaches_readControl (w : Worker) (read : ControlRead) (dial : DialAnswers) :
    w.Reaches (w.readControl read dial).acts (w.readControl read dial).worker := by
  unfold readControl
  split
  · exact .refl
  · have hread : w.Reaches [.readControl read] w := .of_move (.noted rfl)
    cases read with
    | closed => exact (hread.step (.arranged ..)).step (.noted rfl)
    | byte b => exact hread.trans (reaches_handle w _ dial)
    | failed e =>
      simp only
      split
      · exact hread.step (.arranged ..)
      · split
        · exact hread
        · exact (hread.step (.arranged ..)).step (.noted rfl)

theorem reaches_act (w : Worker) (answers : TurnAnswers) :
    w.Reaches (w.act answers).acts (w.act answers).worker := by
  have hread := reaches_readControl w answers.control answers.dial
  unfold act
  simp only
  split
  · exact hread
  · exact hread.trans (reaches_serveReady _ answers.sockets)

theorem reaches_turn (w : Worker) (answers : TurnAnswers) :
    w.Reaches (w.turn answers).acts (w.turn answers).worker := by
  unfold turn
  split
  · next events _ => exact (reaches_observeAll w events).trans (reaches_act _ answers)
  · split
    · exact reaches_act w answers
    · exact .refl

theorem reaches_perform (w : Worker) (o : Operation) :
    w.Reaches (w.perform o).acts (w.perform o).worker := by
  cases o with
  | handle c answers => exact reaches_handle w c answers
  | turn answers => exact reaches_turn w answers

/-- **Operations are rows of moves.** -/
theorem reaches_performAll (w : Worker) (os : List Operation) :
    w.Reaches (w.performAll os).acts (w.performAll os).worker := by
  induction os generalizing w with
  | nil => exact .refl
  | cons o rest ih => exact (reaches_perform w o).trans (ih _)

/-- **Runs are rows of moves.** -/
theorem reaches_run (w : Worker) (answers : List TurnAnswers) :
    w.Reaches (w.run answers).acts (w.run answers).worker := by
  have hbye : ∀ w : Worker, w.Reaches [w.farewell] w := fun w => .of_move (.noted rfl)
  induction answers generalizing w with
  | nil =>
    unfold run
    split
    · exact hbye w
    · exact .refl
  | cons a rest ih =>
    unfold run
    split
    · exact hbye w
    · have hturn := reaches_turn w a
      simp only
      split
      · exact hturn.trans (ih _)
      · next e _ =>
        -- the failed poll is told, and then the farewell
        have htold := hturn.step (.noted (a := .told (.pollFailed w.index e)) rfl)
        simpa using htold.trans (hbye _)
      · exact hturn

end Worker

end LoadGenerator
