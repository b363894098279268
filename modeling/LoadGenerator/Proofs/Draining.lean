/-
How a worker empties a pipe that it has to itself.

The poll tells of a change of the pipe once, and a turn reads one byte. A worker that was told keeps
this in mind from turn to turn, and so it reads on, byte by byte, although no further event tells it
to. It stops at the first word to stop and leaves alone whatever comes behind.

* **`ownPart`** — the part of the pipe that such a worker reads: up to the first word to stop, or
  all of it;
* **`Worker.drain`** — several turns of a worker at a pipe where nothing is written meanwhile;
* **`Worker.reads_turn`**, **`Worker.idle_turn`** — a turn reads the first byte, or reads nothing;
* **`Worker.Drains`** — what several turns come to, given the bytes that are read in them;
* **`Worker.drains_ownPart`** — the bytes are those of the own part, one for each turn;
* **`Worker.pipe_drained_byte_by_byte`** — the whole of it, for every worker and every pipe.
-/
import LoadGenerator.Proofs.Dialing
import LoadGenerator.Proofs.Reaping

namespace LoadGenerator

/-! ### The part up to the first word to stop -/

/-- The bytes up to the first word to stop, with it; all of them if there is none. -/
def ownPart : List UInt8 → List UInt8
  | [] => []
  | b :: s => if b = Command.terminateByte then [b] else b :: ownPart s

theorem isPrefix_ownPart (s : List UInt8) : ownPart s <+: s := by
  induction s with
  | nil => exact List.prefix_rfl
  | cons b s ih =>
    rw [ownPart]
    split
    · exact ⟨s, rfl⟩
    · exact (List.prefix_cons_inj b).mpr ih

theorem take_ownPart (s : List UInt8) (m : Nat) :
    s.take (min m (ownPart s).length) = (ownPart s).take m := by
  have hprefix := List.prefix_iff_eq_take.mp (isPrefix_ownPart s)
  calc s.take (min m (ownPart s).length)
      = (s.take (ownPart s).length).take m := List.take_take.symm
    _ = (ownPart s).take m := by rw [← hprefix]

/-! ### Turns at a pipe -/

/-- Nothing but dials and sockets fails in a turn: the poll gives its events or is interrupted, the
pipe can be read, and no dial ends for lack of descriptors. -/
structure MemberAnswers.Smooth (a : MemberAnswers) : Prop where
  polls : ∀ e, a.poll = .error e → e.kind = .interrupted
  reads : a.readFailure = none
  dials : ∀ e, a.dial.socket = some e → e.exhaustsDescriptors = false

namespace Worker

variable {w : Worker} {pipe : ControlPipe} {a : MemberAnswers} {answers : List MemberAnswers}
  {b : UInt8} {s taken : List UInt8}

/-- A worker and its pipe after several turns, what it did in them, and how they ended. -/
structure Drain where
  worker : Worker
  pipe : ControlPipe
  acts : List Act := []
  endings : List TurnEnd := []

/-- One turn for each of the answers, at a pipe that nobody else reads or writes. -/
def drain (w : Worker) (pipe : ControlPipe) : List MemberAnswers → Drain
  | [] => { worker := w, pipe }
  | a :: rest =>
    let turn := w.turn (a.atPipe pipe w)
    let last := turn.worker.drain (a.readFrom pipe w).2 rest
    { last with acts := turn.acts ++ last.acts, endings := turn.ending :: last.endings }

theorem length_endings_drain (w : Worker) (pipe : ControlPipe) (answers : List MemberAnswers) :
    (w.drain pipe answers).endings.length = answers.length := by
  induction answers generalizing w pipe with
  | nil => rfl
  | cons a rest ih => exact congrArg (· + 1) (ih ..)

theorem fatal_readControl {dial : DialAnswers}
    (h : ∀ e, dial.socket = some e → e.exhaustsDescriptors = false) (w : Worker)
    (read : ControlRead) : (w.readControl read dial).fatal = none := by
  -- nothing but a dial without descriptors is fatal, and the dials are smooth
  have hdial : (w.dial dial).fatal = none := by
    rw [fatal_dial, Option.map_eq_none_iff, Option.filter_eq_none_iff]
    exact fun e he => by simp [h e he]
  unfold readControl
  split
  · rfl
  · cases read with
    | closed => rfl
    | byte b =>
      show (w.handle (Command.ofByte b) dial).fatal = none
      cases Command.ofByte b with
      | connect => exact hdial
      | terminate => rfl
      | unknown b => rfl
    | failed e =>
      simp only
      split
      · rfl
      · split <;> rfl

/-- A turn without such a failure acts once the poll has been taken note of, and ends in good
order. -/
theorem turn_of_smooth (h : a.Smooth) (w : Worker) (pipe : ControlPipe) :
    w.turn (a.atPipe pipe w) = (a.polled w).act (a.atPipe pipe w) ∧
      (w.turn (a.atPipe pipe w)).ending = .done := by
  have hacts : w.turn (a.atPipe pipe w) = (a.polled w).act (a.atPipe pipe w) := by
    cases hpoll : a.poll with
    | ok events => simp only [turn, MemberAnswers.atPipe, MemberAnswers.polled, hpoll]
    | error e =>
      simp only [turn, MemberAnswers.atPipe, MemberAnswers.polled, hpoll, h.polls e hpoll, if_true]
  have hfatal := fatal_readControl h.dials (a.polled w) (a.readFrom pipe w).1
  refine ⟨hacts, ?_⟩
  rw [hacts]
  simp only [act, MemberAnswers.atPipe, hfatal]

/-- A turn reads the first byte of the pipe and does what it says, if the worker knows of the pipe
or is told. It still knows of the pipe after that, unless it stops. -/
theorem reads_turn (h : a.Smooth) (htuned : w.Attuned) (hgoes : w.terminating = false)
    (hnoticed : w.controlReady = true ∨ a.deliversEdge = true) (hpending : pipe.pending = b :: s) :
    w.Heeds b (w.turn (a.atPipe pipe w)).acts (w.turn (a.atPipe pipe w)).worker ∧
      (a.readFrom pipe w).2.pending = s ∧
      ((w.turn (a.atPipe pipe w)).worker.terminating = false →
        (w.turn (a.atPipe pipe w)).worker.controlReady = true) := by
  obtain ⟨-, hready, hterminating⟩ := a.flags_polled w
  -- the flag was up, or this poll has put it up
  have hknows : (a.polled w).controlReady = true := by
    rw [hready, htuned.registered, hgoes]
    rcases hnoticed with hknown | hedge
    · simp [hknown]
    · simp [hedge]
  have hreads : (a.polled w).readsControl = true := by
    rw [readsControl, hknows, hterminating, hgoes]
    rfl
  have hread : a.readFrom pipe w = (.byte b, { pipe with pending := s }) := by
    simp [MemberAnswers.readFrom, h.reads, hreads, ControlPipe.read, hpending]
  have hbyte : (a.atPipe pipe w).control = .byte b := congrArg Prod.fst hread
  rw [(turn_of_smooth h w pipe).1, hread]
  refine ⟨(MemberAnswers.steady_polled a w).heeds (heeds_act hreads hbyte), rfl, fun hgoes' => ?_⟩
  -- a read that gives a byte leaves the flag up
  have hlistens := listens_act (a.polled w) (a.atPipe pipe w)
  rw [hbyte] at hlistens
  rcases (hlistens.ready hgoes').2 with hkept | ⟨-, hno | ⟨e, hno, -⟩⟩
  · exact hkept.trans hknows
  · cases hno
  · cases hno

/-- A turn reads nothing once the worker was told to stop, or when the pipe is empty. -/
theorem idle_turn (h : a.Smooth) (hidle : w.terminating = true ∨ pipe.pending = []) :
    w.Steady (w.turn (a.atPipe pipe w)).acts (w.turn (a.atPipe pipe w)).worker ∧
      (a.readFrom pipe w).2 = pipe := by
  rw [(turn_of_smooth h w pipe).1]
  rcases a.readFrom_cases pipe w with ⟨hreads, b, rest, hpending, -⟩ | ⟨hpipe, hquiet⟩
  · rcases hidle with hstops | hempty
    · rw [readsControl, (a.flags_polled w).2.2, hstops, Bool.not_true, Bool.and_false] at hreads
      cases hreads
    · cases hempty.symm.trans hpending
  · exact ⟨(MemberAnswers.steady_polled a w).trans (steady_act hquiet), hpipe⟩

/-! ### Several turns -/

/-- Several turns in which some bytes were read: they were the next in the pipe, the worker did what
they say, and it still knows of the pipe as long as it has not stopped and there is more. -/
structure Drains (w : Worker) (pipe : ControlPipe) (taken : List UInt8) (d : Drain) : Prop where
  done : ∀ e ∈ d.endings, e = .done
  reads : bytesRead d.acts = taken
  left : pipe.pending = taken ++ d.pipe.pending
  attempts : d.worker.roster.attempts = w.roster.attempts + taken.count Command.connectByte
  stops : d.worker.terminating = true ↔ w.terminating = true ∨ Command.terminateByte ∈ taken
  alert : d.worker.terminating = false → d.pipe.pending ≠ [] → d.worker.controlReady = true

/-- One more turn before the others, which reads nothing. -/
theorem Drains.idle (h : a.Smooth) (hidle : w.terminating = true ∨ pipe.pending = [])
    (hrest : (w.turn (a.atPipe pipe w)).worker.Drains pipe taken
      ((w.turn (a.atPipe pipe w)).worker.drain pipe answers)) :
    w.Drains pipe taken (w.drain pipe (a :: answers)) := by
  obtain ⟨hsteady, hpipe⟩ := idle_turn h hidle
  rw [drain, hpipe]
  exact
    { done := List.forall_mem_cons.mpr ⟨(turn_of_smooth h w pipe).2, hrest.done⟩
      reads := by rw [bytesRead_append, hsteady.reads, hrest.reads, List.nil_append]
      left := hrest.left
      attempts := by rw [hrest.attempts, hsteady.attempts]
      stops := by rw [hrest.stops, hsteady.terminating]
      alert := hrest.alert }

/-- One more turn before the others, which reads a byte. -/
theorem Drains.read {rest : ControlPipe} (h : a.Smooth)
    (hheeds : w.Heeds b (w.turn (a.atPipe pipe w)).acts (w.turn (a.atPipe pipe w)).worker)
    (hpipe : (a.readFrom pipe w).2 = rest) (hpending : pipe.pending = b :: rest.pending)
    (hrest : (w.turn (a.atPipe pipe w)).worker.Drains rest taken
      ((w.turn (a.atPipe pipe w)).worker.drain rest answers)) :
    w.Drains pipe (b :: taken) (w.drain pipe (a :: answers)) := by
  rw [drain, hpipe]
  exact
    { done := List.forall_mem_cons.mpr ⟨(turn_of_smooth h w pipe).2, hrest.done⟩
      reads := by rw [bytesRead_append, hheeds.reads, hrest.reads]; rfl
      left := by rw [hpending, hrest.left]; rfl
      attempts := by
        rw [hrest.attempts, hheeds.attempts, List.count_cons]
        simp only [beq_iff_eq]
        omega
      stops := by
        rw [hrest.stops, hheeds.terminating, hheeds.unstopped]
        simp [eq_comm]
      alert := hrest.alert }

theorem drains_idle (hsmooth : ∀ a ∈ answers, a.Smooth)
    (hidle : w.terminating = true ∨ pipe.pending = []) :
    w.Drains pipe [] (w.drain pipe answers) := by
  -- the answers are used up one by one; a turn that reads nothing leaves pipe and worker alike
  induction answers generalizing w with
  | nil =>
    refine ⟨by simp [drain], rfl, rfl, rfl, by simp [drain], fun hgoes hmore => ?_⟩
    rcases hidle with hstops | hempty
    · exact absurd (hstops.symm.trans hgoes) nofun
    · exact absurd hempty hmore
  | cons a rest ih =>
    rw [List.forall_mem_cons] at hsmooth
    have hsteady := (idle_turn hsmooth.1 hidle).1
    exact .idle hsmooth.1 hidle (ih hsmooth.2 (hsteady.terminating ▸ hidle))

/-- **A worker that knows of its pipe reads its own part of it, one byte for each turn.** -/
theorem drains_ownPart (hsmooth : ∀ a ∈ answers, a.Smooth) (htuned : w.Attuned)
    (hgoes : w.terminating = false)
    (hnoticed : w.controlReady = true ∨ answers.head?.any MemberAnswers.deliversEdge = true) :
    w.Drains pipe ((ownPart pipe.pending).take answers.length) (w.drain pipe answers) := by
  -- induction on the turns, each of which hands the worker a pipe with one byte less
  induction answers generalizing w pipe with
  | nil =>
    have hready : w.controlReady = true := by simpa using hnoticed
    exact ⟨by simp [drain], rfl, rfl, rfl, by simp [drain], fun _ _ => hready⟩
  | cons a rest ih =>
    have hsmooth' := List.forall_mem_cons.mp hsmooth
    cases hpending : pipe.pending with
    | nil => exact drains_idle hsmooth (.inr hpending)
    | cons b s =>
      have hnoticed : w.controlReady = true ∨ a.deliversEdge = true := hnoticed
      -- the worker knows of the pipe or is told, so the first byte is its own
      obtain ⟨hheeds, hleft, hready⟩ := reads_turn hsmooth'.1 htuned hgoes hnoticed hpending
      have hpipe : pipe.pending = b :: (a.readFrom pipe w).2.pending := by rw [hleft, hpending]
      rw [ownPart]
      by_cases hb : b = Command.terminateByte
      · -- from here on the worker does not read any more
        have hstops : (w.turn (a.atPipe pipe w)).worker.terminating = true := by
          rw [hheeds.terminating, decide_eq_true hb]
        rw [if_pos hb, List.length_cons, List.take_succ_cons, List.take_nil]
        exact .read hsmooth'.1 hheeds rfl hpipe (drains_idle hsmooth'.2 (.inl hstops))
      · have hgoes' : (w.turn (a.atPipe pipe w)).worker.terminating = false := by
          rw [hheeds.terminating, decide_eq_false hb]
        have hrest : Drains _ (a.readFrom pipe w).2 _ _ :=
          ih hsmooth'.2 (htuned.turn _) hgoes' (.inl (hready hgoes'))
        rw [hleft] at hrest
        rw [if_neg hb, List.length_cons, List.take_succ_cons]
        exact .read hsmooth'.1 hheeds rfl hpipe hrest

/-- **A worker drains its pipe one byte per turn, up to its own word to stop.** Take a worker that
was not told to stop, between any two of its operations, and a pipe that it has to itself, with any
bytes in it. Let it take some turns, at least one, in which nothing but dials and sockets fails; it
knows of the pipe, or the first poll tells it. Then every turn ends in good order. As many bytes
were read as there were turns, but none behind the first word to stop, and they were the first ones
of the pipe, which holds the rest. There are as many new attempts as there were connect bytes among
them, and the worker stops if and only if the word to stop was. As long as it does not, and there is
more to read, its next poll does not wait. -/
theorem pipe_drained_byte_by_byte {setup : WorkerSetup} {creation : CreationAnswers} {w₀ : Worker}
    (hcreate : Worker.create setup creation = .ok w₀) (os : List Operation)
    (hgoes : (w₀.performAll os).worker.terminating = false) (pipe : ControlPipe)
    (first : MemberAnswers) (rest : List MemberAnswers) (hsmooth : ∀ a ∈ first :: rest, a.Smooth)
    (hnoticed : (w₀.performAll os).worker.controlReady = true ∨ first.deliversEdge = true) :
    let w := (w₀.performAll os).worker
    let m := (first :: rest).length
    let s := pipe.pending
    let k := min m (ownPart s).length
    let d := w.drain pipe (first :: rest)
    (∀ e ∈ d.endings, e = .done) ∧ d.endings.length = m ∧
    bytesRead d.acts = s.take k ∧ d.pipe.pending = s.drop k ∧
    d.worker.roster.attempts = w.roster.attempts + (s.take k).count Command.connectByte ∧
    (d.worker.terminating = true ↔ Command.terminateByte ∈ s.take k) ∧
    (d.worker.terminating = false → d.pipe.pending ≠ [] → d.worker.pollMayWait = false) := by
  intro w m s k d
  have htuned : w.Attuned := (attuned_of_create hcreate).performAll os
  have hdrains : w.Drains pipe ((ownPart s).take m) d :=
    drains_ownPart hsmooth htuned hgoes hnoticed
  rw [← take_ownPart] at hdrains
  refine ⟨hdrains.done, w.length_endings_drain pipe _, hdrains.reads, ?_, hdrains.attempts, ?_,
    fun hstays hmore => ?_⟩
  -- what was read and what is left make up the pipe
  · have hsplit : s.take k ++ s.drop k = s.take k ++ d.pipe.pending :=
      (List.take_append_drop k s).trans hdrains.left
    exact (List.append_cancel_left hsplit).symm
  · rw [hdrains.stops, or_iff_right]
    -- the worker went on before, so it stops for a byte among these
    exact fun hstops => absurd (hstops.symm.trans hgoes) nofun
  · rw [pollMayWait, hdrains.alert hstays hmore, Bool.not_true, Bool.and_false]

end Worker

namespace Sample

/-- The answers to a turn in which these events are delivered and nothing fails. -/
def quietly (events : List Token) : MemberAnswers :=
  { poll := .ok events, dial := {}, sockets := fun _ => socket (.ok 1) }

theorem smooth_quietly (events : List Token) : (quietly events).Smooth := ⟨nofun, rfl, nofun⟩

/-- Four bytes, of which the third is the word to stop. -/
def mixedPipe : ControlPipe :=
  { pending := [Command.connectByte, 122, Command.terminateByte, Command.connectByte] }

end Sample

/-- The poll tells of four bytes once. After two turns the worker goes on at once; after four the
last byte is still in the pipe. -/
theorem Worker.pipe_drained_byte_by_byte_four :
    let two := Sample.worker.drain Sample.mixedPipe
      [Sample.quietly [controlToken], Sample.quietly [1]]
    let four := Sample.worker.drain Sample.mixedPipe
      [Sample.quietly [controlToken], Sample.quietly [1], Sample.quietly [], Sample.quietly [1]]
    Worker.create Sample.setup {} = .ok Sample.worker ∧
      (Sample.quietly [controlToken]).deliversEdge = true ∧
      bytesRead two.acts = [Command.connectByte, 122] ∧ two.worker.pollMayWait = false ∧
      four.pipe.pending = [Command.connectByte] ∧ four.worker.terminating = true ∧
      four.worker.roster.attempts = 1 := by
  intro two four
  have hdrained := fun rest hrest => pipe_drained_byte_by_byte Sample.create_setup [] rfl
    Sample.mixedPipe (Sample.quietly [controlToken]) rest hrest (.inr rfl)
  obtain ⟨-, -, hreads, hleft, -, hstops, hwaits⟩ := hdrained [Sample.quietly [1]]
    (by simp [Sample.smooth_quietly])
  obtain ⟨-, -, -, hleft', hattempts, hstops', -⟩ := hdrained
    [Sample.quietly [1], Sample.quietly [], Sample.quietly [1]] (by simp [Sample.smooth_quietly])
  have hgoes : two.worker.terminating = false := by
    rw [← Bool.not_eq_true]
    intro h
    have hmem := hstops.mp h
    revert hmem
    decide
  have hmore : two.pipe.pending ≠ [] := by
    intro hempty
    have hnil := hleft.symm.trans hempty
    revert hnil
    decide
  refine ⟨Sample.create_setup, rfl, ?_, ?_, ?_, ?_, ?_⟩
  · exact hreads
  · exact hwaits hgoes hmore
  · exact hleft'
  · exact hstops'.mpr (by decide)
  · exact hattempts

end LoadGenerator
