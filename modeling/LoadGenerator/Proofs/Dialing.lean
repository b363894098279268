/-
What a dial costs, and what it leaves alone.

A dial can end in six ways, and at each of them some of its steps are done already: the attempt is
counted, a token may be taken, a socket may be made. What is left behind can nevertheless be said in
two lines. The roster has one more pick and one more attempt, and one more failure if the connect
failed; the next token moves on if the connect did not fail. A dial that opens a connection adds
just this connection, and any other dial changes nothing else.

* **`DialAnswers.connectFails`**, **`DialAnswers.connectGoesOn`**, **`DialAnswers.succeeds`** — how
  far a dial comes under certain answers;
* **`Worker.worker_dial`**, **`Worker.acts_dial`**, **`Worker.fatal_dial`** — the worker after a
  dial, what it did, and when the dial ends the process;
* **`Worker.connection?_ne_next`** — the next token is not among the acts of any course;
* **`Worker.dial_disturbs_nothing_else`** — all of this for every worker, at any moment.
-/
import LoadGenerator.Proofs.Degrading
import LoadGenerator.Proofs.Lives
import LoadGenerator.Proofs.Rationing
import LoadGenerator.Proofs.Rotation

namespace LoadGenerator

/-! ### How far a dial comes -/

/-- The dial took a token. -/
def DialResult.takesToken : DialResult → Bool
  | .unregistered _ | .opened _ => true
  | _ => false

namespace DialAnswers

variable (a : DialAnswers)

/-- The connect is issued: the socket was made, and made non-blocking. -/
def triesConnect : Bool := a.socket.isNone && a.nonblocking.isNone

/-- The connect fails at once. -/
def connectFails : Bool := a.triesConnect && a.connectFailure?.isSome

/-- The connect is through, or goes on in the background. -/
def connectGoesOn : Bool := a.triesConnect && a.connectFailure?.isNone

/-- The connection is registered as well. -/
def succeeds : Bool := a.connectGoesOn && a.registration.isNone

/-- How far a dial comes can be read off its result. -/
theorem reads_result (t : Token) :
    a.connectFails = (a.result t).isFailed ∧ a.connectGoesOn = (a.result t).takesToken ∧
      a.succeeds = (a.result t).isOpened := by
  -- down the steps of a dial, each of which may be the last one
  unfold succeeds connectFails connectGoesOn triesConnect result
  cases a.socket with
  | some e => by_cases he : e.exhaustsDescriptors <;> simp [he, DialResult.isFailed,
      DialResult.takesToken, DialResult.isOpened]
  | none =>
    cases a.nonblocking with
    | some e => exact ⟨rfl, rfl, rfl⟩
    | none =>
      cases a.connectFailure? with
      | some e => exact ⟨rfl, rfl, rfl⟩
      | none => cases a.registration <;> exact ⟨rfl, rfl, rfl⟩

end DialAnswers

/-- One dial counts one attempt of the entry that is picked, and one failure if the connect
fails. -/
theorem Roster.stats_dial (r : Roster) (fails : Bool) (i : Nat) :
    (r.dial fails).2.stats i =
      { r.stats i with
        attempts := (r.stats i).attempts + if r.pick = i then 1 else 0
        failures := (r.stats i).failures + if r.pick = i ∧ fails = true then 1 else 0 } := by
  have hattempt := stats_updateStats r.selectNext.2 r.pick_lt i .recordAttempt
  -- the entry is still in the roster when the failure is counted
  have hlt : r.pick < (r.selectNext.2.updateStats r.pick .recordAttempt).size := by
    rw [size_updateStats]
    exact r.pick_lt
  have hfailure := stats_updateStats _ hlt i .recordFailure
  rw [hattempt] at hfailure
  cases fails with
  | false =>
    refine hattempt.trans ?_
    by_cases h : r.pick = i
    · rw [if_pos h, if_pos h, if_neg (by simp)]
      rfl
    · rw [if_neg h, if_neg h, if_neg (by simp)]
      rfl
  | true =>
    refine hfailure.trans ?_
    by_cases h : r.pick = i
    · rw [if_pos h, if_pos h, if_pos h, if_pos ⟨h, rfl⟩]
      rfl
    · rw [if_neg h, if_neg h, if_neg h, if_neg fun hboth => h hboth.1]
      rfl

/-- Picks and histories leave the addresses alone. -/
theorem Roster.Rotates.address?_eq {r₀ r : Roster} {rs : List Roster} (h : r₀.Rotates rs r)
    (i : Nat) : r.address? i = r₀.address? i := by
  induction h with
  | refl => rfl
  | pick _ ih => exact ih
  | change _ j f ih => rw [Roster.address?_updateStats, ih]

namespace Worker

variable {w₀ w w' : Worker} {t : Token} {acts more : List Act}

/-! ### One dial -/

/-- A dial puts a connection on its way, or costs no more than an attempt and perhaps a token. -/
theorem worker_dial (w : Worker) (a : DialAnswers) :
    (w.dial a).worker =
      if a.succeeds then
        { w with
          roster := (w.roster.dial a.connectFails).2
          nextToken := w.nextToken + 1
          connections :=
            w.connections.add w.nextToken { remote := w.nextAddress, entry := w.nextEntry }
          openConnections := w.openConnections + 1 }
      else
        { w with
          roster := (w.roster.dial a.connectFails).2
          nextToken := w.nextToken + if a.connectGoesOn then 1 else 0 } := by
  obtain ⟨hfails, hgoes, hopens⟩ := a.reads_result w.nextToken
  rw [hfails, hgoes, hopens]
  -- what a dial does is a matter of its result, and only one result adds a connection
  cases h : a.result w.nextToken with
  | opened s =>
    obtain rfl := token_of_result h
    simp only [dial, h]
    rfl
  | _ =>
    simp only [dial, h]
    rfl

/-- What is done in a dial: one entry is dialed, and something may be told. -/
theorem acts_dial (w : Worker) (a : DialAnswers) :
    ∃ notices : List Notice,
      (w.dial a).acts = .dialed w.nextEntry (a.result w.nextToken) :: notices.map .told := by
  cases h : a.result w.nextToken with
  | exhausted e =>
    simp only [dial, h]
    exact ⟨[], rfl⟩
  | noSocket e =>
    simp only [dial, h]
    exact ⟨[.socketFailed e], rfl⟩
  | failed e =>
    obtain ⟨notices, hn⟩ := w.attempt.told_of_countConnectFailure w.nextEntry w.nextAddress e
    simp only [dial, h]
    exact ⟨notices, congrArg (List.cons _) hn⟩
  | unregistered e =>
    simp only [dial, h]
    exact ⟨[.registerFailed w.nextEntry w.nextAddress e], rfl⟩
  | opened s =>
    simp only [dial, h]
    exact ⟨[], rfl⟩

/-- The process ends when no socket can be made for lack of descriptors. -/
theorem fatal_dial (w : Worker) (a : DialAnswers) :
    (w.dial a).fatal =
      (a.socket.filter SystemError.exhaustsDescriptors).map .descriptorsExhausted := by
  have hresult : (w.dial a).fatal = match a.result w.nextToken with
      | .exhausted e => some (.descriptorsExhausted e)
      | _ => none := by
    -- the other results let the process go on
    cases h : a.result w.nextToken with
    | _ => simp only [dial, h]
  rw [hresult]
  unfold DialAnswers.result
  cases a.socket with
  | some e => by_cases he : e.exhaustsDescriptors <;> simp [he, Option.filter]
  | none =>
    cases a.nonblocking with
    | some e => rfl
    | none =>
      cases a.connectFailure? with
      | some e => rfl
      | none => cases a.registration <;> rfl

theorem isSome_fatal_dial (w : Worker) (a : DialAnswers) :
    (w.dial a).fatal.isSome = true ↔
      a.socket = some .tooManyOpenFiles ∨ a.socket = some .systemTableFull := by
  rw [w.fatal_dial a, Option.isSome_map]
  cases a.socket with
  | none => simp
  | some e => simp [Option.filter, SystemError.exhaustsDescriptors]

theorem dialedEntry?_dial (w : Worker) (a : DialAnswers) :
    (w.dial a).acts.filterMap Act.dialedEntry? = [w.roster.pick] := by
  obtain ⟨notices, hacts⟩ := w.acts_dial a
  rw [hacts, ← List.append_nil (notices.map _), List.filterMap_cons,
    filterMap_told_append fun _ => rfl]
  rfl

theorem roster_dial (w : Worker) (a : DialAnswers) :
    (w.dial a).worker.roster = (w.roster.dial a.connectFails).2 := by
  rw [worker_dial]
  split <;> rfl

theorem nextToken_dial (w : Worker) (a : DialAnswers) :
    (w.dial a).worker.nextToken = w.nextToken + if a.connectGoesOn then 1 else 0 := by
  rw [worker_dial]
  split
  · next hopens =>
    have hgoes : a.connectGoesOn = true := by
      rw [DialAnswers.succeeds, Bool.and_eq_true] at hopens
      exact hopens.1
    rw [if_pos hgoes]
  · rfl

/-- A dial that opens no connection leaves all but roster and next token alone. -/
theorem dial_of_fails (w : Worker) {a : DialAnswers} (h : a.succeeds = false) :
    (w.dial a).worker =
      { w with
        roster := (w.dial a).worker.roster
        nextToken := (w.dial a).worker.nextToken } := by
  have hworker := w.worker_dial a
  rw [h] at hworker
  rw [w.roster_dial a, w.nextToken_dial a]
  exact hworker

/-- A dial that opens a connection adds it. -/
theorem dial_of_succeeds (w : Worker) {a : DialAnswers} (h : a.succeeds = true) :
    (w.dial a).worker =
      { w with
        roster := (w.dial a).worker.roster
        nextToken := (w.dial a).worker.nextToken
        connections := w.connections ++
          [(w.nextToken, { remote := w.nextAddress, entry := w.nextEntry })]
        openConnections := w.openConnections + 1 } := by
  have hworker := w.worker_dial a
  rw [h] at hworker
  rw [hworker]
  rfl

/-! ### New tokens -/

/-- A token that is still to be given out is about nothing that was done. -/
theorem connection?_ne_next (hw : w₀.Fresh) (h : w₀.Advances acts w) :
    ∀ a ∈ acts, a.connection? ≠ some w.nextToken := by
  obtain ⟨stage, hfollow, hat⟩ := hw.exists_stage h w.nextToken
  -- at every other stage the token was given out
  cases stage with
  | unopened => exact LifeStage.follow?_unopened hfollow
  | pending => exact absurd hat.1 (Nat.lt_irrefl _)
  | confirmed => exact absurd hat.1 (Nat.lt_irrefl _)
  | failing => exact hat.elim
  | ended => exact absurd hat.1 (Nat.lt_irrefl _)

/-- A dial that has taken a token has moved the next one on. -/
theorem nextToken_ne_of_dial {v : Worker} {d : DialAnswers} (hgoes : d.connectGoesOn = true)
    (h : (v.dial d).worker.Advances acts w) : v.nextToken ≠ w.nextToken := by
  have hle : (v.dial d).worker.nextToken ≤ w.nextToken := h.reaches.nextToken_le
  rw [v.nextToken_dial d, if_pos hgoes] at hle
  exact Nat.ne_of_lt hle

/-- The addresses of a worker are at all times those that it was made from. -/
theorem address?_of_advances {setup : WorkerSetup} {creation : CreationAnswers}
    (hcreate : Worker.create setup creation = .ok w₀) (h : w₀.Advances acts w) (i : Nat) :
    w.roster.address? i = setup.addresses[i]? := by
  obtain ⟨rs, hrotates, -⟩ := h.reaches.rotates
  rw [hrotates.address?_eq, address?_of_create hcreate]

/-! ### A dial at any moment -/

/-- **A dial that fails disturbs nothing else.** Take any moment in the course of a worker, and any
answers to the steps of a dial. Exactly one entry is picked and dialed; it has one more attempt, and
one more failure if and only if the connect failed, and no other history changes. The dial ends the
process if and only if the socket could not be made for lack of descriptors. A token is taken if and
only if the connect is through or goes on. If no connection is opened, the worker is otherwise as it
was. If one is, it is the only change: it leads to the address picked, is still connecting and has
sent nothing. Its token is not the one of the control pipe, no live connection has it, nothing that
was ever done is about it, and no earlier dial took it. -/
theorem dial_disturbs_nothing_else {setup : WorkerSetup} {creation : CreationAnswers}
    (hcreate : Worker.create setup creation = .ok w₀) (os : List Operation)
    (h : (w₀.performAll os).worker.Advances more w) (a : DialAnswers) :
    let acts := (w₀.performAll os).acts ++ more
    let step := w.handle .connect a
    let entry := w.roster.pick
    let next := w.nextToken
    step.acts.filterMap Act.dialedEntry? = [entry] ∧
    step.worker.roster.cursor = w.roster.selectNext.2.cursor ∧
    (∀ i, step.worker.roster.address? i = setup.addresses[i]?) ∧
    (∀ i, step.worker.roster.stats i =
      { w.roster.stats i with
        attempts := (w.roster.stats i).attempts + if entry = i then 1 else 0
        failures := (w.roster.stats i).failures +
          if entry = i ∧ a.connectFails = true then 1 else 0 }) ∧
    (step.fatal.isSome = true ↔
      a.socket = some .tooManyOpenFiles ∨ a.socket = some .systemTableFull) ∧
    step.worker.nextToken = next + (if a.connectGoesOn then 1 else 0) ∧
    (a.succeeds = false →
      step.worker =
        { w with roster := step.worker.roster, nextToken := step.worker.nextToken }) ∧
    (a.succeeds = true → ∃ remote, setup.addresses[entry]? = some remote ∧
      step.worker =
        { w with
          roster := step.worker.roster
          nextToken := step.worker.nextToken
          connections := w.connections ++
            [(next, { remote, entry, state := .connecting, cursor := 0, transmitted := 0,
                      ready := false })]
          openConnections := w.openConnections + 1 }) ∧
    next ≠ controlToken ∧ w.connections.get? next = none ∧
    (∀ b ∈ acts, b.connection? ≠ some next) ∧
    ∀ (v : Worker) (d : DialAnswers) later, (v.handle .connect d).worker.Advances later w →
      d.connectGoesOn = true → v.nextToken ≠ next := by
  intro acts step entry next
  have hadvances : w₀.Advances acts w := (advances_performAll w₀ os).trans h
  -- the invariants of a reachable worker; the dial itself is one equation for all its results
  have hfresh := fresh_of_create hcreate
  have hsound : w.Sound := hfresh.sound.reaches hadvances.reaches
  have haddress := address?_of_advances hcreate hadvances
  have hroster : step.worker.roster = (w.roster.dial a.connectFails).2 := w.roster_dial a
  refine ⟨w.dialedEntry?_dial a, ?_, fun i => ?_, fun i => ?_, w.isSome_fatal_dial a,
    w.nextToken_dial a, w.dial_of_fails, fun hopens => ?_, ?_, ?_,
    connection?_ne_next hfresh hadvances, fun v d later hlater hgoes => ?_⟩
  · rw [hroster, Roster.cursor_dial]
  · rw [hroster, (Roster.Rotates.refl.dial a.connectFails).address?_eq, haddress]
  · rw [hroster, Roster.stats_dial]
  · exact ⟨w.nextAddress, (haddress _).symm.trans w.address?_nextEntry, w.dial_of_succeeds hopens⟩
  -- the next token lies above all tokens that were issued, so no live connection has it
  · exact Nat.ne_of_gt hsound.first_le
  · rw [Connections.get?_eq_none_iff]
    exact fun hmem => absurd (hsound.issued _ hmem).2 (Nat.lt_irrefl _)
  · exact nextToken_ne_of_dial hgoes hlater

/-- A worker with one connection dials again. The socket cannot be registered, there is no
descriptor left, or the dial goes well; in the first case the token is skipped all the same. -/
theorem dial_disturbs_nothing_else_two :
    let w := (Sample.worker.performAll [.handle .connect {}]).worker
    let unregistered := w.handle .connect { registration := some .badDescriptor }
    let exhausted := w.handle .connect { socket := some .tooManyOpenFiles }
    let opened := w.handle .connect {}
    Worker.create Sample.setup {} = .ok Sample.worker ∧
      unregistered.worker.connections = w.connections ∧ unregistered.worker.nextToken = 3 ∧
      exhausted.worker.connections = w.connections ∧ exhausted.fatal.isSome = true ∧
      (opened.worker.roster.stats 0).attempts = 2 ∧ opened.worker.openConnections = 2 ∧
      opened.worker.connections.tokens = [1, 2] := by
  intro w unregistered exhausted opened
  have hdials := fun a =>
    dial_disturbs_nothing_else (w := w) Sample.create_setup [.handle .connect {}] .refl a
  obtain ⟨-, -, -, -, -, hnext, hkept, -⟩ := hdials { registration := some .badDescriptor }
  obtain ⟨-, -, -, -, hfatal, -, hkept', -⟩ := hdials { socket := some .tooManyOpenFiles }
  obtain ⟨-, -, -, hstats, -, -, -, hadded, -⟩ := hdials {}
  obtain ⟨remote, -, hopened⟩ := hadded rfl
  refine ⟨Sample.create_setup, ?_, hnext, ?_, hfatal.mpr (.inl rfl), ?_, ?_, ?_⟩
  · exact (congrArg connections (hkept rfl)).trans rfl
  · exact (congrArg connections (hkept' rfl)).trans rfl
  · exact (congrArg RemoteStats.attempts (hstats 0)).trans (by decide)
  · exact congrArg openConnections hopened
  · exact congrArg (fun w => w.connections.tokens) hopened

end Worker

end LoadGenerator
