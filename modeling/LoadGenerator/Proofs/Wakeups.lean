/-
No byte of the pipe waits for a worker that sleeps.

The poll reports a change of the pipe and not what is in it, to every worker once; the bytes are
shared, and a worker reads one in a turn. So a worker has to remember that there may be more, until
a read tells it that the pipe is empty, and by then others may have taken what it was told of.

* **`ControlPipe.Truthful`** — how a read of the pipe may fail;
* **`Worker.Listens`** — what a read does to the flags of a worker;
* **`Member.Alert`** — a worker knows of what is on its way, or is going to hear of it;
* **`Engine.Alert.apply`** — so it is after every action, if it was before;
* **`Engine.no_wakeup_lost`** — and all through the life of an engine.
-/
import LoadGenerator.Proofs.ReadyQueue
import LoadGenerator.Proofs.Supervision

namespace LoadGenerator

/-- A read fails only with an interruption, or with the remark that one would have to wait, and with
that only while nothing is on its way. -/
def ControlPipe.Truthful (pipe : ControlPipe) (a : MemberAnswers) : Prop :=
  ∀ e, a.readFailure = some e →
    e.kind = .interrupted ∨ e.kind = .wouldBlock ∧ pipe.pending = []

/-! ### The flags of a worker -/

namespace Worker

variable {w w' w'' : Worker} {read : ControlRead}

theorem controls_eq_iff {registered ready terminating : Bool} :
    w.controls = (registered, ready, terminating) ↔ w.controlRegistered = registered ∧
      w.controlReady = ready ∧ w.terminating = terminating := by
  rw [controls, Prod.mk.injEq, Prod.mk.injEq]

theorem controls_observe (w : Worker) (t : Token) :
    (w.observe t).controls = if t = controlToken
      then (w.controlRegistered, w.controlRegistered, w.terminating) else w.controls := by
  unfold observe
  split
  · rfl
  · rcases w.markReady_cases t with ⟨-, heq⟩ | ⟨c, -, -, heq⟩
    · rw [heq]
    · rw [heq]
      rfl

theorem controls_observeAll (w : Worker) (events : List Token) :
    (w.observeAll events).controls = if events.contains controlToken
      then (w.controlRegistered, w.controlRegistered, w.terminating) else w.controls := by
  induction events generalizing w with
  | nil => rfl
  | cons t events ih =>
    have hfirst := w.controls_observe t
    have hrest := ih (w.observe t)
    rw [show w.observeAll (t :: events) = (w.observe t).observeAll events from rfl, hrest,
      List.contains_cons]
    by_cases ht : t = controlToken
    · -- another event of the pipe adds nothing
      rw [if_pos ht] at hfirst
      obtain ⟨hregistered, -, hterminating⟩ := controls_eq_iff.mp hfirst
      have hone : (controlToken == t) = true := by simp [ht]
      rw [hone, Bool.true_or, hfirst, hregistered, hterminating]
      exact ite_self _
    · rw [if_neg ht] at hfirst
      obtain ⟨hregistered, -, hterminating⟩ := controls_eq_iff.mp hfirst
      have hne : (controlToken == t) = false := by simpa using fun h => ht h.symm
      rw [hne, Bool.false_or, hfirst, hregistered, hterminating]

/-- What a read of the pipe does to the flags. -/
inductive Listens (w : Worker) (read : ControlRead) (w' : Worker) : Prop
  | kept (h : w'.controls = w.controls)
  | stopped (h : w'.controls = (false, false, true))
  /-- The read gave no byte, and the worker looks no further. -/
  | silenced (h : w'.controls = (w.controlRegistered, false, w.terminating))
      (hreads : w.readsControl = true)
      (hread : read = .closed ∨ ∃ e, read = .failed e ∧ e.kind ≠ .interrupted)

theorem Listens.of_controls (h : w.Listens read w') (heq : w''.controls = w'.controls) :
    w.Listens read w'' := by
  cases h with
  | kept h => exact .kept (heq.trans h)
  | stopped h => exact .stopped (heq.trans h)
  | silenced h hreads hread => exact .silenced (heq.trans h) hreads hread

theorem listens_handle (w : Worker) (command : Command) (answers : DialAnswers) :
    w.Listens read (w.handle command answers).worker := by
  cases command with
  | connect => exact .kept (undisturbed_dial w answers).controls
  | terminate => exact .stopped rfl
  | unknown b => exact .kept rfl

theorem listens_readControl (w : Worker) (read : ControlRead) (dial : DialAnswers) :
    w.Listens read (w.readControl read dial).worker := by
  unfold readControl
  split
  · exact .kept rfl
  · next hreads =>
    have hreads : w.readsControl = true := by simpa using hreads
    cases read with
    | byte b => exact listens_handle w (Command.ofByte b) dial
    | closed => exact .silenced rfl hreads (.inl rfl)
    | failed e =>
      simp only
      split
      · next hblock => exact .silenced rfl hreads (.inr ⟨e, rfl, by simp [hblock]⟩)
      · split
        · exact .kept rfl
        · next hother => exact .silenced rfl hreads (.inr ⟨e, rfl, hother⟩)

theorem listens_act (w : Worker) (answers : TurnAnswers) :
    w.Listens answers.control (w.act answers).worker := by
  have hread := w.listens_readControl answers.control answers.dial
  unfold act
  simp only
  split
  · exact hread
  · -- serving the queue leaves the flags alone
    exact hread.of_controls (controls_serveReady _ _).1

/-- Who has the pipe registered as long as nobody tells it to stop, goes on like that. -/
theorem Listens.registered (h : w.Listens read w') (hw : w.controlRegistered = !w.terminating) :
    w'.controlRegistered = !w'.terminating := by
  cases h with
  | kept h =>
    obtain ⟨hregistered, -, hterminating⟩ := controls_eq_iff.mp h
    rw [hregistered, hterminating, hw]
  | stopped h =>
    obtain ⟨hregistered, -, hterminating⟩ := controls_eq_iff.mp h
    rw [hregistered, hterminating]
    rfl
  | silenced h _ _ =>
    obtain ⟨hregistered, -, hterminating⟩ := controls_eq_iff.mp h
    rw [hregistered, hterminating, hw]

/-- A worker that goes on still knows of the pipe, unless a read tells it to look no further. -/
theorem Listens.ready (h : w.Listens read w') (hgoes : w'.terminating = false) :
    w.terminating = false ∧ (w'.controlReady = w.controlReady ∨ w.readsControl = true ∧
      (read = .closed ∨ ∃ e, read = .failed e ∧ e.kind ≠ .interrupted)) := by
  cases h with
  | kept h =>
    obtain ⟨-, hready, hterminating⟩ := controls_eq_iff.mp h
    exact ⟨hterminating ▸ hgoes, .inl hready⟩
  | stopped h =>
    obtain ⟨-, -, hterminating⟩ := controls_eq_iff.mp h
    rw [hterminating] at hgoes
    cases hgoes
  | silenced h hreads hread =>
    obtain ⟨-, -, hterminating⟩ := controls_eq_iff.mp h
    exact ⟨hterminating ▸ hgoes, .inr ⟨hreads, hread⟩⟩

end Worker

namespace MemberAnswers

variable (a : MemberAnswers) (pipe : ControlPipe) (w : Worker)

/-- After the poll a worker knows what it knew before, and of the event that was delivered. -/
theorem flags_polled :
    (a.polled w).controlRegistered = w.controlRegistered ∧
      (a.polled w).controlReady =
        (if a.deliversEdge then w.controlRegistered else w.controlReady) ∧
      (a.polled w).terminating = w.terminating := by
  unfold polled deliversEdge
  cases a.poll with
  | error e => exact ⟨rfl, rfl, rfl⟩
  | ok events =>
    refine Worker.controls_eq_iff.mp ((w.controls_observeAll events).trans ?_)
    simp only
    split <;> rfl

/-- A read that gives no byte and was not interrupted has found the pipe empty. -/
theorem pending_of_readFrom (htrue : pipe.Truthful a) (hreads : (a.polled w).readsControl = true)
    (hread : (a.readFrom pipe w).1 = .closed ∨
      ∃ e, (a.readFrom pipe w).1 = .failed e ∧ e.kind ≠ .interrupted) : pipe.pending = [] := by
  unfold readFrom at hread
  cases hfailure : a.readFailure with
  | some e =>
    rw [hfailure] at hread
    rcases hread with hread | ⟨e', hread, hkind⟩
    · cases hread
    · obtain rfl := ControlRead.failed.inj hread
      rcases htrue e hfailure with hinterrupted | ⟨-, hempty⟩
      · exact absurd hinterrupted hkind
      · exact hempty
  | none =>
    rw [hfailure] at hread
    simp only [hreads, if_true] at hread
    cases hpending : pipe.pending with
    | nil => rfl
    | cons b rest => simp [ControlPipe.read, hpending] at hread

end MemberAnswers

/-! ### Alert members -/

namespace Member

variable {m : Member} {pending pending' : List UInt8}

/-- A worker has the pipe registered until it is told to stop. As long as it goes on and something
is on its way, it knows that the pipe may be read, or has an event of the pipe to come. -/
structure Alert (m : Member) (pending : List UInt8) : Prop where
  registered : m.worker.controlRegistered = !m.worker.terminating
  awake : pending ≠ [] → m.isRunning = true → m.worker.terminating = false →
    m.worker.controlReady = true ∨ m.edge = true

theorem Alert.of_pending (h : m.Alert pending) (hless : pending' ≠ [] → pending ≠ []) :
    m.Alert pending' :=
  ⟨h.registered, fun hne => h.awake (hless hne)⟩

/-- A change of the pipe is an event to come, whatever the pipe holds by then. -/
theorem Alert.notify (h : m.Alert pending) (pending' : List UInt8) : m.notify.Alert pending' := by
  refine ⟨?_, fun _ hrun hgoes => .inr ?_⟩
  · rw [worker_notify]
    exact h.registered
  · rw [isRunning_notify] at hrun
    rw [worker_notify] at hgoes
    have hregistered := h.registered
    rw [hgoes] at hregistered
    simp [Member.notify, hrun, hregistered]

/-- Nothing comes onto its way in a member's turn. -/
theorem Traffic.pending_ne_nil {pipe : ControlPipe} {t : MemberTurn} (h : m.Traffic pipe t)
    (hne : t.pipe.pending ≠ []) : pipe.pending ≠ [] := by
  intro hempty
  cases h with
  | steady _ hpipe =>
    rcases hpipe with hpipe | hpipe
    · exact hne (by rw [hpipe, hempty])
    · refine hne ?_
      rw [hpipe, ControlPipe.closeReader, hempty]
      exact ite_self _
  | read hpending _ _ =>
    rw [hempty] at hpending
    cases hpending

/-- **A turn leaves a member alert.** Its flag is set when the event is delivered, and cleared when
a read has found the pipe empty. -/
theorem Alert.turn {pipe : ControlPipe} (h : m.Alert pipe.pending) {a : MemberAnswers}
    (htrue : pipe.Truthful a) : (m.turn pipe a).member.Alert (m.turn pipe a).pipe.pending := by
  have hless := (m.traffic_turn pipe a).pending_ne_nil
  cases m.course_turn pipe a with
  | idle hmember hpipe _ =>
    rw [hmember, hpipe]
    exact h
  | ended _ _ _ hmember _ _ =>
    rw [hmember]
    exact ⟨h.registered, fun _ hrun => by cases hrun⟩
  | worked hmember _ _ =>
    rw [hmember]
    obtain ⟨hregistered, hready, hterminating⟩ := a.flags_polled m.worker
    have hlistens := (a.polled m.worker).listens_act (a.atPipe pipe m.worker)
    refine ⟨hlistens.registered ?_, fun hne hrun hgoes => ?_⟩
    · rw [hregistered, hterminating, h.registered]
    · obtain ⟨hgoes, hkept⟩ := hlistens.ready hgoes
      rw [hterminating] at hgoes
      rcases hkept with hkept | ⟨hreads, hread⟩
      · rw [hkept, hready]
        -- an event that was to come has set the flag, or is still to come
        cases hdelivers : a.deliversEdge with
        | true =>
          rw [if_pos rfl, h.registered, hgoes]
          exact .inl rfl
        | false =>
          rw [Bool.not_false, Bool.and_true]
          exact h.awake (hless hne) hrun hgoes
      · -- a read that says to look no further has found nothing
        exact absurd (a.pending_of_readFrom pipe m.worker htrue hreads hread) (hless hne)

theorem Alert.leave {pipe : ControlPipe} (h : m.Alert pipe.pending) :
    (m.leave pipe).member.Alert (m.leave pipe).pipe.pending := by
  have hless := (m.traffic_leave pipe).pending_ne_nil
  unfold Member.leave at hless ⊢
  split
  · exact ⟨h.registered, fun _ hrun => by cases hrun⟩
  · exact h

end Member

/-! ### Alert crews -/

namespace Engine

variable {e e' : Engine} {written : List UInt8} {took : List (Nat × UInt8)} {stage : Stage}

/-- All workers are alert. -/
def Alert (e : Engine) : Prop := ∀ m ∈ e.crew, m.Alert e.pipe.pending

theorem Alert.afterTurn (h : e.Alert) {i : Nat} {t : MemberTurn}
    (hless : t.pipe.pending ≠ [] → e.pipe.pending ≠ []) (ht : t.member.Alert t.pipe.pending) :
    (e.afterTurn i t).Alert := by
  intro m hm
  rcases List.mem_or_eq_of_mem_set hm with hm | rfl
  · exact (h m hm).of_pending hless
  · exact ht

theorem Alert.notified (h : e.Alert) (pipe : ControlPipe) :
    Alert { e with pipe, crew := e.crew.map Member.notify } := by
  intro m hm
  obtain ⟨n, hn, rfl⟩ := List.mem_map.mp hm
  exact (h n hn).notify pipe.pending

theorem Alert.apply (h : e.Alert) (a : Action)
    (htrue : ∀ i answers, a = .turn i answers → e.pipe.Truthful answers) : (e.apply a).1.Alert := by
  have houtcome := outcome_apply e a
  generalize (e.apply a).1 = e' at houtcome ⊢
  cases houtcome with
  | quiet => exact h
  | notified _ pipe _ => exact h.notified pipe
  | turned hm answers =>
    exact h.afterTurn (Member.traffic_turn _ _ answers).pending_ne_nil
      ((h _ (List.mem_of_getElem? hm)).turn (htrue _ answers rfl))
  | left hm =>
    exact h.afterTurn (Member.traffic_leave _ _).pending_ne_nil
      (h _ (List.mem_of_getElem? hm)).leave

theorem Alert.requestStop (h : e.Alert) (hstop : e.requestStop = .ok e') : e'.Alert := by
  obtain ⟨rfl, -⟩ := requestStop_eq hstop
  have hwritten := h.apply (.write e.owed) (by intro i answers hturn; cases hturn)
  exact fun m hm => hwritten m hm

theorem Alert.releaseReader (h : e.Alert) : e.releaseReader.Alert := by
  intro m hm
  refine (h m hm).of_pending fun hne hempty => hne ?_
  show (if e.pipe.readers ≤ 1 then [] else e.pipe.pending) = []
  rw [hempty]
  exact ite_self _

theorem Alert.hire (h : e.Alert) (hempty : e.pipe.pending = []) {setup : WorkerSetup}
    {core : Option Nat} {answers : HireAnswers} {acts : List Act}
    (hhire : e.hire setup core answers = .ok (e', acts)) : e'.Alert := by
  obtain ⟨m, hcreate, rfl⟩ := hire_cases hhire
  -- nothing was written yet that a new worker could miss
  have hnone : ∀ n : Member, n.worker.controlRegistered = !n.worker.terminating →
      n.Alert e.pipe.pending := fun n hregistered => ⟨hregistered, fun hne => absurd hempty hne⟩
  intro n hn
  rcases List.mem_append.mp hn with hn | hn
  · exact h n hn
  · obtain rfl := List.mem_singleton.mp hn
    obtain ⟨r, -, hworker⟩ := Worker.create_cases hcreate
    refine hnone n ?_
    rw [hworker]
    rfl

/-- **All through its life the workers of an engine are alert.** -/
theorem Supervised.alert (h : Supervised ControlPipe.Truthful stage written took e) : e.Alert := by
  induction h with
  | new => exact fun m hm => by cases hm
  | hired h hhire ih =>
    -- nothing was written so far, so nothing is on its way
    obtain ⟨lost, hwritten, -⟩ := h.provided.shared.flow
    rw [h.provided.calm rfl] at hwritten
    obtain ⟨htaken, -⟩ := List.append_eq_nil_iff.mp hwritten.symm
    exact ih.hire (List.append_eq_nil_iff.mp htaken).2 hhire
  | acted _ a _ htrue ih => exact ih.apply a htrue
  | started _ ih => exact ih.releaseReader
  | failed _ hstop ih => exact ih.requestStop hstop
  | released _ ih => exact ih.releaseReader
  | stopped _ _ hstop ih => exact ih.requestStop hstop

theorem length_bytesRead_turn (e : Engine) (i : Nat) (answers : MemberAnswers) :
    (bytesRead (e.apply (.turn i answers)).2).length ≤ 1 := by
  cases hm : e.crew[i]? with
  | none =>
    rw [apply_turn_of_none hm]
    exact Nat.zero_le _
  | some m =>
    rw [apply_turn_of_some hm]
    cases m.traffic_turn e.pipe answers with
    | steady h _ =>
      simp only [h.reads]
      exact Nat.zero_le _
    | read _ _ h =>
      simp only [h.reads]
      exact Nat.le_refl _

/-- **No wake-up is lost.** Whatever is written and however the workers take their turns, as long as
reads of the pipe fail only by an interruption or because it is empty: while a byte is on its way,
each worker that was not told to stop knows that the pipe may be read, or has an event of it to
come. So none of them waits in its poll for longer than that event. And that although no turn reads
more than one byte, so that the others may take what a worker was told of. -/
theorem no_wakeup_lost (h : Supervised ControlPipe.Truthful stage written took e) :
    (∀ m ∈ e.crew, m.isRunning = true → m.worker.terminating = false → e.pipe.pending ≠ [] →
      (m.worker.controlReady = true ∨ m.edge = true) ∧
      (m.worker.pollMayWait = true → m.edge = true)) ∧
    ∀ i answers, (bytesRead (e.apply (.turn i answers)).2).length ≤ 1 := by
  refine ⟨fun m hm hrun hgoes hne => ?_, e.length_bytesRead_turn⟩
  have hawake := (h.alert m hm).awake hne hrun hgoes
  refine ⟨hawake, fun hwait => hawake.resolve_left ?_⟩
  -- a worker that may wait does not know of the pipe
  simp only [Worker.pollMayWait, Bool.and_eq_true, Bool.not_eq_true'] at hwait
  rw [hwait.2]
  exact Bool.false_ne_true

end Engine

namespace Sample

/-- The first of two workers is told of two bytes and reads one; both of them read the other, the
second one first. Then another byte is written. -/
def stolen : List Action :=
  [.write [Command.connectByte, Command.connectByte], turnOf 0 [controlToken] (.ok 0),
    turnOf 1 [controlToken] (.ok 0), turnOf 0 [] (.ok 0), .write [Command.terminateByte]]

end Sample

/-- A worker was told of bytes that the other has taken, and has found the pipe empty. The next byte
is an event to come. -/
theorem Engine.no_wakeup_lost_stolen :
    let e := (Sample.engine.applyAll Sample.stolen).1
    Engine.start Sample.setup.addresses Sample.setup.payload Sample.options {} =
        ⟨Sample.engine, none, [.told (.usingCpus 2)]⟩ ∧
      e.pipe.pending = [Command.terminateByte] ∧
      ∃ m, e.crew[0]? = some m ∧ m.isRunning = true ∧ m.worker.terminating = false ∧
        m.worker.pollMayWait = true ∧ m.edge = true ∧
        ∀ answers, (bytesRead (e.apply (.turn 0 answers)).2).length ≤ 1 := by
  intro e
  have hstarted : Supervised ControlPipe.Truthful .started [] [] Sample.engine :=
    (supervised_of_start Sample.start_engine).1 rfl
  have hlife := hstarted.applyAll nofun Sample.stolen fun i answers hturn pipe err hfailure => by
    -- no read of theirs fails
    simp only [Sample.stolen, Sample.turnOf, List.mem_cons, List.not_mem_nil] at hturn
    rcases hturn with h | h | h | h | h | h <;> cases h <;> cases hfailure
  have hmember : ∃ m, e.crew[0]? = some m ∧ m.isRunning = true ∧ m.worker.terminating = false ∧
      m.worker.pollMayWait = true := ⟨_, rfl, rfl, rfl, rfl⟩
  have hpending : e.pipe.pending = [Command.terminateByte] := rfl
  obtain ⟨m, hm, hrun, hgoes, hwait⟩ := hmember
  obtain ⟨hwoken, hone⟩ := no_wakeup_lost hlife
  have hedge := (hwoken m (List.mem_of_getElem? hm) hrun hgoes (by rw [hpending]; nofun)).2 hwait
  exact ⟨Sample.start_engine, hpending, m, hm, hrun, hgoes, hwait, hedge, hone 0⟩

end LoadGenerator
