/-
What is left to do for a worker that was told to stop.

The word to stop is read in the middle of a turn, when events were taken note of already and
connections wait in the queue. From there on the worker closes the connections that it would have
served, one turn after the other, and does nothing else until none is left.

* **`Worker.Attuned`** — as long as a worker goes on it has the pipe registered, and afterwards it
  knows nothing of it;
* **`Worker.Reaps`** — a stretch in which connections are closed, and nothing else is done;
* **`Worker.Drops`** — some connections are gone, and all others are as they were;
* **`Worker.reaps_turn`**, **`Worker.reaps_turns`** — every turn of such a worker, and all of them;
* **`Worker.stop_is_quiet_and_final`** — the same for all that can come before and after.
-/
import LoadGenerator.Proofs.Conservation
import LoadGenerator.Proofs.Wakeups

namespace LoadGenerator

/-- A connection is closed because the worker stops. -/
def Act.isReaping : Act → Bool
  | closed _ _ _ cause => cause.isReaping
  | _ => false

theorem Act.exists_of_isReaping {a : Act} (h : a.isReaping = true) :
    ∃ t i bytes, a = .closed t i bytes .terminating := by
  cases a with
  | closed t i bytes cause =>
    cases cause with
    | terminating => exact ⟨t, i, bytes, rfl⟩
    | connectFailed e => cases h
    | writeFailed e => cases h
  | _ => cases h

namespace Worker

variable {w w' w'' : Worker} {t : Token} {a : TurnAnswers} {acts more : List Act}

/-! ### The pipe -/

/-- A worker has the pipe registered until it is told to stop, and knows nothing of it from then
on. -/
structure Attuned (w : Worker) : Prop where
  registered : w.controlRegistered = !w.terminating
  deaf : w.terminating = true → w.controlReady = false

theorem Attuned.controls (h : w.Attuned) (hstops : w.terminating = true) :
    w.controls = (false, false, true) := by
  have hregistered := h.registered
  rw [hstops] at hregistered
  exact controls_eq_iff.mpr ⟨hregistered, h.deaf hstops, hstops⟩

theorem Attuned.listens {read : ControlRead} (h : w.Attuned) (hw : w.Listens read w') :
    w'.Attuned := by
  refine ⟨hw.registered h.registered, fun hstops => ?_⟩
  cases hw with
  | kept hkept =>
    obtain ⟨-, hready, hterminating⟩ := controls_eq_iff.mp hkept
    rw [hready]
    exact h.deaf (hterminating ▸ hstops)
  | stopped hstopped => exact (controls_eq_iff.mp hstopped).2.1
  | silenced hsilenced _ _ => exact (controls_eq_iff.mp hsilenced).2.1

theorem Attuned.observeAll (h : w.Attuned) (events : List Token) :
    (w.observeAll events).Attuned := by
  have hcontrols := w.controls_observeAll events
  split at hcontrols
  · obtain ⟨hregistered, hready, hterminating⟩ := controls_eq_iff.mp hcontrols
    constructor
    · rw [hregistered, hterminating, h.registered]
    · -- the event of the pipe is nothing to a worker that has it registered no more
      intro hstops
      rw [hready, h.registered, ← hterminating, hstops]
      rfl
  · have hkept : w.Listens .closed (w.observeAll events) := .kept hcontrols
    exact h.listens hkept

theorem Attuned.turn (h : w.Attuned) (a : TurnAnswers) : (w.turn a).worker.Attuned := by
  rcases w.turn_cases a with ⟨e, -, heq⟩ | heq
  · rw [heq]
    exact h
  · rw [heq]
    exact (h.observeAll a.events).listens (listens_act _ a)

theorem Attuned.performAll (h : w.Attuned) (os : List Operation) :
    (w.performAll os).worker.Attuned := by
  induction os generalizing w with
  | nil => exact h
  | cons o rest ih =>
    refine ih ?_
    cases o with
    | handle command answers =>
      -- a command that is given directly was read from nowhere
      have hlistens : w.Listens .closed (w.handle command answers).worker :=
        listens_handle w command answers
      exact h.listens hlistens
    | turn a => exact h.turn a

theorem attuned_of_create {setup : WorkerSetup} {creation : CreationAnswers}
    (h : Worker.create setup creation = .ok w) : w.Attuned := by
  obtain ⟨r, -, rfl⟩ := create_cases h
  exact ⟨rfl, nofun⟩

/-! ### Closing and nothing else -/

/-- Connections are closed because the worker stops, and nothing else is done. -/
structure Reaps (w : Worker) (acts : List Act) (w' : Worker) : Prop where
  controls : w'.controls = (false, false, true)
  roster : w'.roster = w.roster
  nextToken : w'.nextToken = w.nextToken
  closes : ∀ a ∈ acts, a.isReaping = true

theorem Reaps.refl (h : w.controls = (false, false, true)) : Reaps w [] w :=
  ⟨h, rfl, rfl, by simp⟩

theorem Reaps.trans (h : Reaps w acts w') (h' : Reaps w' more w'') :
    Reaps w (acts ++ more) w'' where
  controls := h'.controls
  roster := h'.roster.trans h.roster
  nextToken := h'.nextToken.trans h.nextToken
  closes := List.forall_mem_append.mpr ⟨h.closes, h'.closes⟩

theorem Reaps.terminating (h : Reaps w acts w') : w'.terminating = true :=
  (controls_eq_iff.mp h.controls).2.2

theorem reaps_close (h : w.controls = (false, false, true)) (t : Token) :
    Reaps w (w.close t .terminating).2 (w.close t .terminating).1 := by
  cases hget : w.connections.get? t with
  | none =>
    rw [close_eq_self hget]
    exact .refl h
  | some c =>
    rw [close_eq hget]
    exact ⟨h, rfl, rfl, by simp [Act.isReaping, CloseCause.isReaping]⟩

theorem reaps_serveEach (answers : Token → SocketAnswer) (ts : List Token)
    (h : w.controls = (false, false, true)) :
    Reaps w (serveEach answers ts w).2 (serveEach answers ts w).1 := by
  induction ts generalizing w with
  | nil => exact .refl h
  | cons t rest ih =>
    have htaken : Reaps w [] { w with batch := rest } := ⟨h, rfl, rfl, by simp⟩
    have hserve : ({ w with batch := rest } : Worker).serve t (answers t) =
        ({ w with batch := rest } : Worker).close t .terminating := by
      rw [serve, if_pos htaken.terminating]
    have hclosed := htaken.trans (reaps_close htaken.controls t)
    rw [← hserve] at hclosed
    exact hclosed.trans (ih hclosed.controls)

theorem reaps_serveReady (h : w.controls = (false, false, true)) (answers : Token → SocketAnswer) :
    Reaps w (w.serveReady answers).2 (w.serveReady answers).1 := by
  have hswapped : Reaps w [] { w with ready := w.batch, batch := w.ready } :=
    ⟨h, rfl, rfl, by simp⟩
  exact hswapped.trans (reaps_serveEach answers w.ready hswapped.controls)

theorem books_observe (w : Worker) (t : Token) :
    (w.observe t).roster = w.roster ∧ (w.observe t).nextToken = w.nextToken := by
  unfold observe
  split
  · exact ⟨rfl, rfl⟩
  · rcases w.markReady_cases t with ⟨-, heq⟩ | ⟨c, -, -, heq⟩
    · rw [heq]
      exact ⟨rfl, rfl⟩
    · rw [heq]
      exact ⟨rfl, rfl⟩

theorem books_observeAll (w : Worker) (events : List Token) :
    (w.observeAll events).roster = w.roster ∧ (w.observeAll events).nextToken = w.nextToken := by
  induction events generalizing w with
  | nil => exact ⟨rfl, rfl⟩
  | cons t events ih =>
    obtain ⟨hroster, hnext⟩ := w.books_observe t
    obtain ⟨hroster', hnext'⟩ := ih (w.observe t)
    exact ⟨hroster'.trans hroster, hnext'.trans hnext⟩

theorem reaps_observeAll (h : w.controls = (false, false, true)) (events : List Token) :
    Reaps w [] (w.observeAll events) := by
  obtain ⟨hregistered, -, hterminating⟩ := controls_eq_iff.mp h
  obtain ⟨hroster, hnext⟩ := w.books_observeAll events
  refine ⟨?_, hroster, hnext, by simp⟩
  -- an event of the pipe is lost on a worker that has it registered no more
  rw [controls_observeAll, hregistered, hterminating, h, ite_self]

/-- Once a worker knows nothing of the pipe, all that follows the poll is to serve the queue. -/
theorem act_of_controls (h : w.controls = (false, false, true)) (a : TurnAnswers) :
    w.act a = ⟨(w.serveReady a.sockets).1, (w.serveReady a.sockets).2, .done⟩ := by
  have hreads : w.readsControl = false := by
    rw [readsControl, (controls_eq_iff.mp h).2.1]
    rfl
  simp [act, readControl, hreads]

theorem reaps_turn (h : w.controls = (false, false, true)) (a : TurnAnswers) :
    Reaps w (w.turn a).acts (w.turn a).worker := by
  rcases w.turn_cases a with ⟨e, -, heq⟩ | heq
  · rw [heq]
    exact .refl h
  · have hwoken := reaps_observeAll h a.events
    rw [heq, act_of_controls hwoken.controls]
    exact hwoken.trans (reaps_serveReady hwoken.controls a.sockets)

/-- **All that a worker does once it was told to stop is to close connections.** -/
theorem reaps_turns (h : w.controls = (false, false, true)) (turns : List TurnAnswers) :
    Reaps w (w.performAll (turns.map .turn)).acts (w.performAll (turns.map .turn)).worker := by
  induction turns generalizing w with
  | nil => exact .refl h
  | cons a rest ih =>
    have hfirst := reaps_turn h a
    exact hfirst.trans (ih hfirst.controls)

/-- The turn that reads the word to stop acts on it before it serves the queue. -/
theorem act_terminate (h : w.readsControl = true)
    (hbyte : a.control = .byte Command.terminateByte) :
    w.act a =
      ⟨(w.beginTerminating.serveReady a.sockets).1,
        .readControl (.byte Command.terminateByte) ::
          (w.beginTerminating.serveReady a.sockets).2, .done⟩ := by
  have hcommand : Command.ofByte Command.terminateByte = .terminate := by decide
  simp [act, readControl, h, hbyte, hcommand, handle]

theorem turn_of_mem_bytesRead (h : Command.terminateByte ∈ bytesRead (w.turn a).acts) :
    (w.observeAll a.events).readsControl = true ∧ a.control = .byte Command.terminateByte ∧
      w.turn a = (w.observeAll a.events).act a := by
  rcases w.turn_cases a with ⟨e, -, heq⟩ | heq
  · rw [heq] at h
    cases h
  · rw [heq] at h
    -- whatever was read, it was the byte that the pipe gave
    have hquiet : ¬((w.observeAll a.events).readsControl = false ∨ ∀ b, a.control ≠ .byte b) := by
      intro hno
      rw [(steady_act hno).reads] at h
      cases h
    obtain ⟨hreads, hsome⟩ := not_or.mp hquiet
    obtain ⟨b, hb⟩ := Classical.not_forall_not.mp hsome
    have hreads : (w.observeAll a.events).readsControl = true := by simpa using hreads
    rw [(heeds_act hreads hb).reads, List.mem_singleton] at h
    exact ⟨hreads, h ▸ hb, heq⟩

/-! ### What is left -/

/-- Acts that send nothing leave the bytes sent so far as they are. -/
theorem sentSoFar_of_reaches (hs : w.Sound) (h : w.Reaches acts w')
    (hacts : ∀ a ∈ acts, a.sent = 0) : w'.sentSoFar = w.sentSoFar := by
  rw [(conserves_of_reaches hs h).sent, tally, total_map_eq_zero hacts, Nat.add_zero]

theorem sent_of_isReaping {a : Act} (h : a.isReaping = true) : a.sent = 0 := by
  obtain ⟨t, i, bytes, rfl⟩ := Act.exists_of_isReaping h
  rfl

theorem fate_of_isReaping {a : Act} (h : a.isReaping = true) :
    a.opens? = none ∧ a.keeps? = none ∧ a.refuses? = none := by
  obtain ⟨t, i, bytes, rfl⟩ := Act.exists_of_isReaping h
  exact ⟨rfl, rfl, rfl⟩

theorem Reaps.isFinished (h : Reaps w acts w') (hs : w.Sound) (hreach : w.Reaches acts w')
    (hfinished : w.isFinished = true) : w'.isFinished = true := by
  simp only [Worker.isFinished, Bool.and_eq_true, List.isEmpty_iff] at hfinished ⊢
  -- nothing is opened, so an empty table stays empty
  have hnone : acts.countP Act.isOpening = 0 := by
    refine List.countP_eq_zero.mpr fun a ha => ?_
    obtain ⟨t, i, bytes, rfl⟩ := Act.exists_of_isReaping (h.closes a ha)
    simp [Act.isOpening]
  have hlength := (conserves_of_reaches hs hreach).connections
  rw [hfinished.2, hnone, List.length_nil] at hlength
  exact ⟨h.terminating, List.length_eq_zero_iff.mp (by omega)⟩

/-- These connections are gone, and all others are as they were. -/
structure Drops (w : Worker) (ts : List Token) (w' : Worker) : Prop where
  live : ∀ t ∈ ts, ∃ c, w.connections.get? t = some c
  gone : ∀ t ∈ ts, w'.connections.get? t = none
  others : ∀ t, t ∉ ts → w'.connections.get? t = w.connections.get? t

/-- A turn in which nothing is opened, and no connection is found that goes on or waits, has dropped
those that were due. -/
theorem drops_turn (hs : w.Sound) (hq : w.Queued) (hdone : (w.turn a).ending = .done)
    (hacts : ∀ b ∈ (w.turn a).acts, b.opens? = none ∧ b.keeps? = none ∧ b.refuses? = none) :
    w.Drops (w.due a.events) (w.turn a).worker := by
  have hwoken := hq.observeAll a.events
  have hdue := ready_observeAll hs a.events
  have hcourse := w.course_turn a
  generalize w.turn a = turn at hcourse hdone hacts ⊢
  cases hcourse with
  | failed e _ => cases hdone
  | exhausted e _ => cases hdone
  | done h =>
    rename_i heard w₁
    have hserved := (hwoken.heard h).served a.sockets
    rw [h.ready, hdue] at hserved
    obtain ⟨hheard, hlast⟩ := List.forall_mem_append.mp hacts
    refine ⟨fun t => exists_of_mem_due hq, fun t ht => ?_, fun t ht => ?_⟩
    · -- a connection that was served and is still there can go on, or has to wait
      rcases hserved.fate t ht with ⟨hkept, -⟩ | ⟨-, hfate⟩
      · obtain ⟨b, hb, hkeeps⟩ := List.mem_filterMap.mp hkept
        rw [(hlast b hb).2.1] at hkeeps
        cases hkeeps
      · cases hget : (w₁.serveReady a.sockets).1.connections.get? t with
        | none => rfl
        | some c =>
          obtain ⟨b, hb, hrefuses⟩ := List.mem_filterMap.mp (hfate c hget).2
          rw [(hlast b hb).2.2] at hrefuses
          cases hrefuses
    · have hawake := get?_observeAll hs a.events (sleeps_of_notMem_due ht)
      rw [hserved.others t ht]
      rcases h.live t with hsame | ⟨-, hopened, -⟩
      · exact hsame.trans hawake
      · obtain ⟨b, hb, hopens⟩ := List.mem_filterMap.mp hopened
        rw [(hheard b hb).1] at hopens
        cases hopens

theorem performAll_append (w : Worker) (os more : List Operation) :
    (w.performAll (os ++ more)).worker = ((w.performAll os).worker.performAll more).worker := by
  induction os generalizing w with
  | nil => rfl
  | cons o rest ih => exact ih _

/-- **A stop is final, and quiet.** Between any two operations of a new worker it stops exactly if
it has the pipe registered no more. A turn that reads the word to stop closes the connections that
are due in it, and does nothing else after that. So do all turns that follow, however many there are
and whatever the poll and the pipe have to say: no byte of the pipe is read, nothing is dialed,
probed or written, no address has anything new on record, and each turn drops the connections that
are due in it and no others. A worker that is finished stays so. -/
theorem stop_is_quiet_and_final {setup : WorkerSetup} {creation : CreationAnswers} {w₀ : Worker}
    (hcreate : Worker.create setup creation = .ok w₀) (os : List Operation) :
    let w := (w₀.performAll os).worker
    (w.terminating = !w.controlRegistered) ∧
    (∀ a : TurnAnswers, Command.terminateByte ∈ bytesRead (w.turn a).acts →
      ∃ closes,
        (w.turn a).acts = .readControl (.byte Command.terminateByte) :: closes ∧
        w.Reaps closes (w.turn a).worker ∧
        (w.turn a).worker.sentSoFar = w.sentSoFar ∧
        w.Drops (w.due a.events) (w.turn a).worker) ∧
    (w.terminating = true → ∀ turns : List TurnAnswers,
      let later := w.performAll (turns.map .turn)
      w.Reaps later.acts later.worker ∧
      later.worker.sentSoFar = w.sentSoFar ∧
      (∀ a : TurnAnswers, (∀ e, (later.worker.turn a).ending ≠ .pollFailed e) →
        later.worker.Drops (later.worker.due a.events) (later.worker.turn a).worker) ∧
      (w.isFinished = true → later.worker.isFinished = true)) := by
  intro w
  have hs : w.Sound := (fresh_of_create hcreate).sound.reaches (reaches_performAll w₀ os)
  have hq : w.Queued := (queued_of_create hcreate).performAll os
  have htuned : w.Attuned := (attuned_of_create hcreate).performAll os
  refine ⟨?_, ?_, ?_⟩
  · rw [htuned.registered, Bool.not_not]
  · intro a hread
    obtain ⟨hreads, hbyte, heq⟩ := turn_of_mem_bytesRead hread
    have hact := act_terminate hreads hbyte
    -- from the stop on, the rest of the turn is that of a worker that was told before
    have hstopped : w.Reaps [] (w.observeAll a.events).beginTerminating := by
      refine ⟨rfl, ?_, ?_, by simp⟩
      · show (w.observeAll a.events).roster = w.roster
        exact (w.books_observeAll a.events).1
      · show (w.observeAll a.events).nextToken = w.nextToken
        exact (w.books_observeAll a.events).2
    have hreaps := hstopped.trans (reaps_serveReady hstopped.controls a.sockets)
    have hturn : w.turn a = _ := heq.trans hact
    refine ⟨_, congrArg Turn.acts hturn, ?_, ?_, ?_⟩
    · rw [hturn]
      exact hreaps
    · refine sentSoFar_of_reaches hs (reaches_turn w a) ?_
      rw [hturn, List.forall_mem_cons]
      exact ⟨rfl, fun b hb => sent_of_isReaping (hreaps.closes b hb)⟩
    · refine drops_turn hs hq (congrArg Turn.ending hturn) ?_
      rw [hturn, List.forall_mem_cons]
      exact ⟨⟨rfl, rfl, rfl⟩, fun b hb => fate_of_isReaping (hreaps.closes b hb)⟩
  · intro hstops turns later
    have hcontrols := htuned.controls hstops
    have hreaps := reaps_turns hcontrols turns
    have hreach := reaches_performAll w (turns.map .turn)
    have hsent : later.worker.sentSoFar = w.sentSoFar :=
      sentSoFar_of_reaches hs hreach fun b hb => sent_of_isReaping (hreaps.closes b hb)
    refine ⟨hreaps, hsent, ?_, hreaps.isFinished hs hreach⟩
    intro a hpoll
    have hdone : (later.worker.turn a).ending = .done := by
      rcases later.worker.turn_cases a with ⟨e, -, heq⟩ | heq
      · exact absurd (congrArg Turn.ending heq) (hpoll e)
      · rw [heq, act_of_controls (reaps_observeAll hreaps.controls a.events).controls]
    exact drops_turn (hs.reaches hreach) (hq.performAll _) hdone fun b hb =>
      fate_of_isReaping ((reaps_turn hreaps.controls a).closes b hb)

/-- Of three connections one waits in the queue, and one is woken by the turn that reads the stop:
both are dropped in it. The third one is dropped by the turn that it is reported in, although there
is a connect to be read, and then the worker is finished for good. -/
theorem stop_is_quiet_and_final_three :
    let os : List Operation := [.handle .connect {}, .handle .connect {}, .handle .connect {},
      Sample.turn [1] 0 (.ok 2)]
    let stop : TurnAnswers :=
      { poll := .ok [controlToken, 2], control := .byte Command.terminateByte, dial := {},
        sockets := fun _ => Sample.socket (.ok 1) }
    let late : TurnAnswers :=
      { poll := .ok [controlToken, 3], control := .byte Command.connectByte, dial := {},
        sockets := fun _ => Sample.socket (.ok 1) }
    let w := (Sample.worker.performAll os).worker
    let stopped := (w.turn stop).worker
    let finished := (w.performAll [.turn stop, .turn late]).worker
    Worker.create Sample.setup {} = .ok Sample.worker ∧
      Command.terminateByte ∈ bytesRead (w.turn stop).acts ∧
      w.due stop.events = [1, 2] ∧ w.Drops [1, 2] stopped ∧ stopped.sentSoFar = 2 ∧
      stopped.terminating = true ∧ stopped.due late.events = [3] ∧
      stopped.Drops [3] (stopped.turn late).worker ∧
      finished.isFinished = true ∧
      ∀ turns : List TurnAnswers,
        (finished.performAll (turns.map .turn)).worker.isFinished = true := by
  intro os stop late w stopped finished
  have hread : Command.terminateByte ∈ bytesRead (w.turn stop).acts := by decide +kernel
  have hdue : w.due stop.events = [1, 2] := by decide +kernel
  have hsent : w.sentSoFar = 2 := by decide +kernel
  have hstopped : stopped.terminating = true := by decide +kernel
  have hlate : stopped.due late.events = [3] := by decide +kernel
  have hfinished : finished.isFinished = true := by decide +kernel
  have hterminating : finished.terminating = true := by decide +kernel
  have hdone : (stopped.turn late).ending = .done := by decide +kernel
  have hpoll : ∀ e, (stopped.turn late).ending ≠ .pollFailed e := by
    intro e
    rw [hdone]
    nofun
  have hw : (Sample.worker.performAll (os ++ [.turn stop])).worker = stopped :=
    performAll_append Sample.worker os [.turn stop]
  have hw' : (Sample.worker.performAll (os ++ [.turn stop, .turn late])).worker = finished :=
    performAll_append Sample.worker os [.turn stop, .turn late]
  obtain ⟨-, hstop, -⟩ := stop_is_quiet_and_final Sample.create_setup os
  obtain ⟨closes, -, -, hkept, hdrops⟩ := hstop stop hread
  obtain ⟨-, -, hlater⟩ := stop_is_quiet_and_final Sample.create_setup (os ++ [.turn stop])
  obtain ⟨-, -, hforever⟩ :=
    stop_is_quiet_and_final Sample.create_setup (os ++ [.turn stop, .turn late])
  rw [hw] at hlater
  rw [hw'] at hforever
  have hboth : w.Drops [1, 2] stopped := by
    rw [← hdue]
    exact hdrops
  have hkept : stopped.sentSoFar = 2 := by
    rw [← hsent]
    exact hkept
  have hlast : stopped.Drops [3] (stopped.turn late).worker := by
    rw [← hlate]
    exact (hlater hstopped []).2.2.1 late hpoll
  have hstays : ∀ turns : List TurnAnswers,
      (finished.performAll (turns.map .turn)).worker.isFinished = true := by
    intro turns
    exact (hforever hterminating turns).2.2.2 hfinished
  exact ⟨Sample.create_setup, hread, hdue, hboth, hkept, hstopped, hlate, hlast, hfinished, hstays⟩

end Worker

end LoadGenerator
