/-
The way of the first signal to the load.

The main task starts the signal task before it has the load listen, and a word to stop reaches only
those who listen when it is sent. So it depends on the order of the steps whether the load hears of
the first signal: a signal that is handled after the load has begun to listen is kept until the load
looks for it, and one that is handled before is lost, although it counts as the first.

* **`Watch.InProgramOrder`** — the steps of the main task, with signals in between;
* **`Watch.step_cases`** — what a step can do to the channel and to the count of signals;
* **`Watch.stopIsReady_iff`** — the word to stop is ready if and only if the first signal was
  handled while the load listened;
* **`Steering.stop_of_stopIsReady`** — a word that is ready ends the load without any more waiting;
* **`Watch.stop_notMem_heard`** — a word that was lost is never heard, nor is any later one;
* **`Watch.first_signal_is_kept_iff`** — both cases, and what they mean for the load.
-/
import LoadGenerator.Proofs.Driving

namespace LoadGenerator

namespace Watch

variable {w : Watch} {steps : List WatchStep}

/-! ### Steps in order -/

/-- The main task has taken its steps in the order of the program, as far as it got. Signals come in
between. -/
def InProgramOrder (steps : List WatchStep) : Prop :=
  steps.filter (· ≠ .signal) <+: [.spawn, .listen, .finish]

/-- The two tasks after some steps. -/
def after (steps : List WatchStep) : Watch := (({} : Watch).steps steps).1

/-- The steps before the load listens. -/
def beforeListening (steps : List WatchStep) : List WatchStep := steps.takeWhile (· ≠ .listen)

theorem beforeListening_listen (steps : List WatchStep) :
    beforeListening (.listen :: steps) = [] := by
  simp [beforeListening]

theorem beforeListening_cons {s : WatchStep} (h : s ≠ .listen) (steps : List WatchStep) :
    beforeListening (s :: steps) = s :: beforeListening steps := by
  simp [beforeListening, h]

theorem InProgramOrder.count_listen_le (h : InProgramOrder steps) : steps.count .listen ≤ 1 := by
  rw [← List.count_filter (p := (· ≠ .signal)) (by decide)]
  exact h.sublist.count_le .listen

/-! ### Single steps -/

theorem steps_cons (w : Watch) (s : WatchStep) (rest : List WatchStep) :
    (w.steps (s :: rest)).1 = ((w.step s).1.steps rest).1 := rfl

theorem step_of_gone (h : w.gone = true) (s : WatchStep) : (w.step s).1 = w := by
  simp [step, h]

theorem steps_of_gone (h : w.gone = true) (steps : List WatchStep) : (w.steps steps).1 = w := by
  induction steps with
  | nil => rfl
  | cons s rest ih => rw [steps_cons, step_of_gone h, ih]

theorem step_listen (h : w.gone = false) :
    (w.step .listen).1 = { w with channel := w.channel.listen } := by
  simp [step, h]

/-- What a step other than listening can do: leave the channel and the count alone, handle the first
signal, or handle a later one. -/
theorem step_cases {s : WatchStep} (h : s ≠ .listen) (w : Watch) :
    let next := (w.step s).1
    (next.channel = w.channel ∧ next.received = w.received) ∨
      (w.received = 0 ∧ next.channel = w.channel.send ∧ next.received = 1) ∨
      (0 < w.received ∧ next.channel = w.channel ∧ next.received = w.received + 1) := by
  intro next
  by_cases hgone : w.gone = true
  · exact .inl (by simp [next, step_of_gone hgone])
  cases s with
  | spawn | finish => exact .inl (by simp [next, step, hgone])
  | listen => exact absurd rfl h
  | signal =>
    -- only a task that watches handles the signal, and the count says which one it is
    by_cases hwatching : w.watching = true
    · by_cases hfirst : w.received = 0
      · refine .inr (.inl ⟨hfirst, ?_⟩)
        simp [next, step, hgone, hwatching, handleSignal, SignalAction.ofCount, hfirst]
      · refine .inr (.inr ⟨Nat.pos_of_ne_zero hfirst, ?_⟩)
        simp [next, step, hgone, hwatching, handleSignal, SignalAction.ofCount, hfirst]
    · exact .inl (by simp [next, step, hgone, hwatching])

theorem received_le_step (w : Watch) (s : WatchStep) : w.received ≤ (w.step s).1.received := by
  by_cases hlisten : s = .listen
  · subst hlisten
    cases hgone : w.gone with
    | true => exact Nat.le_of_eq (by rw [step_of_gone hgone])
    | false => exact Nat.le_of_eq (by rw [step_listen hgone])
  · rcases step_cases hlisten w with ⟨-, h⟩ | ⟨hzero, -, -⟩ | ⟨-, -, h⟩ <;> omega

theorem received_le_steps (w : Watch) (steps : List WatchStep) :
    w.received ≤ (w.steps steps).1.received := by
  induction steps generalizing w with
  | nil => exact Nat.le_refl _
  | cons s rest ih => exact Nat.le_trans (received_le_step w s) (ih _)

/-! ### The word to stop -/

/-- While the load listens the word becomes ready with the first signal. -/
theorem stopIsReady_of_listening (hlistens : w.channel.listening = true)
    (hnone : .listen ∉ steps) :
    (w.steps steps).1.stopIsReady = true ↔
      w.stopIsReady = true ∨ w.received = 0 ∧ 0 < (w.steps steps).1.received := by
  -- the word and the count are those before the steps; no step in between listens anew
  induction steps generalizing w with
  | nil =>
    have hnever : ¬(w.received = 0 ∧ 0 < w.received) := by omega
    simp [Watch.steps, hnever]
  | cons s rest ih =>
    have hs : s ≠ .listen := fun heq => hnone (heq ▸ List.mem_cons_self)
    have hrest : .listen ∉ rest := fun hmem => hnone (List.mem_cons_of_mem s hmem)
    have hmore := received_le_steps (w.step s).1 rest
    rw [steps_cons]
    rcases step_cases hs w with ⟨hchannel, hcount⟩ | ⟨hzero, hchannel, hcount⟩ |
        ⟨hsome, hchannel, hcount⟩
    · rw [ih (hchannel ▸ hlistens) hrest, hcount, stopIsReady, stopIsReady, hchannel]
    -- the first signal: the word is ready, and it stays so while the load listens
    · have hready : (w.step s).1.stopIsReady = true := by
        rw [stopIsReady, hchannel, StopChannel.send, if_pos hlistens]
      rw [ih (by rw [hchannel, StopChannel.send, if_pos hlistens]; exact hlistens) hrest]
      exact iff_of_true (.inl hready) (.inr ⟨hzero, by omega⟩)
    · rw [ih (hchannel ▸ hlistens) hrest, stopIsReady, stopIsReady, hchannel]
      have hlater : ¬(w.step s).1.received = 0 := by omega
      have hnow : ¬w.received = 0 := by omega
      simp [hlater, hnow]

/-- A word that is sent while the load does not listen is lost: what counts are the signals that
were handled before it listens. -/
theorem stopIsReady_of_not_listening (hsilent : w.channel = {}) (hcount : steps.count .listen ≤ 1) :
    (w.steps steps).1.stopIsReady = true ↔
      (w.steps (beforeListening steps)).1.received = 0 ∧ 0 < (w.steps steps).1.received := by
  induction steps generalizing w with
  | nil =>
    have hnever : ¬(w.received = 0 ∧ 0 < w.received) := by omega
    simp [Watch.steps, beforeListening, stopIsReady, hsilent, hnever]
  | cons s rest ih =>
    by_cases hlisten : s = .listen
    · subst hlisten
      -- from here on the load listens, and its channel is fresh
      have hnone : .listen ∉ rest := List.count_eq_zero.mp (by simpa using hcount)
      rw [beforeListening_listen]
      cases hgone : w.gone with
      | true =>
        rw [steps_of_gone hgone]
        have hnever : ¬(w.received = 0 ∧ 0 < w.received) := by omega
        simp [Watch.steps, stopIsReady, hsilent, hnever]
      | false =>
        rw [steps_cons, step_listen hgone, stopIsReady_of_listening rfl hnone]
        simp [Watch.steps, stopIsReady, StopChannel.listen]
    · rw [steps_cons, beforeListening_cons hlisten, steps_cons]
      refine ih ?_ (by simpa [hlisten] using hcount)
      -- before that, whatever a step sends into the channel has nobody to hear it
      rcases step_cases hlisten w with ⟨h, -⟩ | ⟨-, h, -⟩ | ⟨-, h, -⟩
      · rw [h, hsilent]
      · rw [h, hsilent]
        rfl
      · rw [h, hsilent]

/-- **The word to stop is ready if and only if the first signal was handled while the load
listened.** -/
theorem stopIsReady_iff (h : InProgramOrder steps) :
    (after steps).stopIsReady = true ↔
      (after (beforeListening steps)).received = 0 ∧ 0 < (after steps).received :=
  stopIsReady_of_not_listening rfl h.count_listen_le

/-! ### A word that is ready -/

/-- Whatever the ramp does, a word that is ready stays ready until the ramp looks for it. -/
theorem heard_of_stopIsReady (h : w.stopIsReady = true) (events : List RampEvent) :
    w.heard (events.map .ramp) = events := by
  induction events with
  | nil => rfl
  | cons e rest ih => simp [heard, h, ih]

/-! ### A word that was lost -/

/-- A signal that is not the first one sends no word. -/
theorem stopIsReady_step_signal (h : 0 < w.received) :
    0 < (w.step .signal).1.received ∧ (w.step .signal).1.stopIsReady = w.stopIsReady := by
  have hmore := received_le_step w .signal
  refine ⟨by omega, ?_⟩
  have hsignal : WatchStep.signal ≠ .listen := by decide
  rcases step_cases hsignal w with ⟨hchannel, -⟩ | ⟨hzero, -, -⟩ | ⟨-, hchannel, -⟩
  · rw [stopIsReady, hchannel, stopIsReady]
  · omega
  · rw [stopIsReady, hchannel, stopIsReady]

/-- A word that was lost is never heard. -/
theorem stop_notMem_heard (hsome : 0 < w.received) (hlost : w.stopIsReady = false)
    (session : List SessionEvent) : .stop ∉ w.heard session := by
  induction session generalizing w with
  | nil => nofun
  | cons event rest ih =>
    cases event with
    | signal =>
      obtain ⟨hmore, hready⟩ := stopIsReady_step_signal hsome
      exact ih hmore (hready.trans hlost)
    | ramp e =>
      rw [heard]
      split
      · exact ih hsome hlost
      -- the event that is heard is no look at the word, since no word is ready
      · next hheard =>
        have he : .stop ≠ e := fun heq => hheard ⟨heq.symm, hlost⟩
        exact List.not_mem_cons_of_ne_of_not_mem he (ih hsome hlost)

theorem watching_handleSignal (w : Watch) : w.handleSignal.1.watching = w.watching := by
  unfold handleSignal
  simp only
  split <;> rfl

/-- Signals are handled only by a signal task that was started. -/
theorem watching_step (h : 0 < w.received → w.watching = true) (s : WatchStep) :
    0 < (w.step s).1.received → (w.step s).1.watching = true := by
  by_cases hgone : w.gone = true
  · rwa [step_of_gone hgone]
  cases s with
  | spawn => simp [step, hgone]
  | listen | finish => simpa [step, hgone] using h
  | signal =>
    by_cases hwatching : w.watching = true
    · simp [step, hgone, hwatching, watching_handleSignal]
    · simpa [step, hgone, hwatching] using h

theorem watching_steps (h : 0 < w.received → w.watching = true) (steps : List WatchStep) :
    0 < (w.steps steps).1.received → (w.steps steps).1.watching = true := by
  induction steps generalizing w with
  | nil => exact h
  | cons s rest ih => exact ih (watching_step h s)

/-- A signal that is not the first one ends the program at once. -/
theorem gone_step_signal (h : 0 < (after steps).received) :
    ((after steps).step .signal).1.gone = true := by
  have hwatching : (after steps).watching = true :=
    watching_steps (w := {}) (fun hnone => absurd hnone (Nat.lt_irrefl 0)) steps h
  cases hgone : (after steps).gone with
  | true => rw [step_of_gone hgone, hgone]
  | false =>
    have hlater : ¬(after steps).received = 0 := by omega
    simp [step, hgone, hwatching, handleSignal, SignalAction.ofCount, hlater]

end Watch

/-! ### The load -/

/-- **A word that is ready ends the load** at the next look, also while connections are still to be
asked for, without another connect and without any more waiting. -/
theorem Steering.stop_of_stopIsReady {s : Steering} (load : Load)
    (hready : s.watch.stopIsReady = true) (hstays : s.watch.gone = false)
    (hopen : s.ramp.phase ≠ .ended) :
    ∃ next notices, s.step load (.ramp .stop) = .ok (next, notices) ∧
      next.ramp.phase = .ended ∧ next.ramp.asked = s.ramp.asked ∧
      ∀ rest, (Drive.goOn load (.ramp .stop :: rest) s).outcome = .ok next.engine := by
  -- the step ends the ramp and asks for nothing, so nothing is written
  have hasked := Ramp.asked_step_stop load.connections s.ramp
  have hphase := Ramp.phase_step_stop load.connections s.ramp
  have hstep : s.step load (.ramp .stop) = s.advance (s.ramp.step load.connections .stop) :=
    if_neg (by simp [hready])
  obtain ⟨next, notices, hadvance, hramp, hwatch⟩ : ∃ next notices,
      s.advance (s.ramp.step load.connections .stop) = .ok (next, notices) ∧
        next.ramp = s.ramp.step load.connections .stop ∧ next.watch = s.watch := by
    have hwrite : s.engine.write [] = .ok s.engine := rfl
    simp [advance, hasked, hwrite]
  refine ⟨next, notices, hstep.trans hadvance, hramp ▸ hphase, hramp ▸ hasked, fun rest => ?_⟩
  -- an ended ramp ends the drive, whatever events would follow
  have hover : Drive.goOn load rest next = ⟨[], .ok next.engine⟩ := by
    rw [Drive.goOn.eq_def, if_neg (by simp [hwatch, hstays]), if_pos (by rw [hramp, hphase])]
  simp [Drive.goOn, hstays, hopen, hstep, hadvance, hover, Drive.precededBy]

namespace Engine

variable {load : Load} {e₀ e : Engine} {w : Watch} {session : List SessionEvent}

/-- Where the word was lost, a load ends only after everything was asked for and held for as long as
it should. -/
theorem driven_in_full (hsome : 0 < w.received) (hlost : w.stopIsReady = false)
    (h : (drive load e₀ w session).outcome = .ok e) :
    ∃ events ramp written acts, e₀.Driven load events ramp written acts e ∧
      written = List.replicate load.connections Command.connectByte ∧ .elapsed ∈ events := by
  obtain ⟨events, ramp, written, acts, hdriven, hended, hheard⟩ := exists_driven_of_drive h
  -- a ramp that is never told to stop ends only when all is asked for and held
  have hno : .stop ∉ events := fun hmem =>
    Watch.stop_notMem_heard hsome hlost session (hheard.subset hmem)
  obtain ⟨first, hfirst, rfl⟩ := hdriven.ramp_eq
  have hopen : first.phase ≠ .ended := by
    rcases Ramp.start?_cases hfirst with ⟨h, -⟩ | ⟨h, -⟩ <;> simp [h]
  obtain ⟨hasked, helapsed⟩ :=
    Ramp.asked_of_ended (Ramp.counts_of_start? hfirst) hopen hno hended
  exact ⟨events, _, written, acts, hdriven, hasked ▸ hdriven.written_eq, helapsed⟩

end Engine

namespace Watch

/-- **The first signal is kept if and only if it is handled while the load listens.** Let the main
task have taken its steps in the order of the program, with signals in between as they came, and let
at least one signal have been handled. The word to stop is ready if and only if no signal was
handled before the load began to listen. A word that is ready is heard however long the load goes on
before it looks, while it asks for connections as well as while it holds them; and then it is over,
without another connect and without any more waiting. A word that is not ready is never heard, and
the next signal ends the program without draining: a load that comes to its end all the same has
asked for everything, and was held for as long as it should. -/
theorem first_signal_is_kept_iff {steps : List WatchStep} (h : InProgramOrder steps)
    (hsome : 0 < (after steps).received) :
    let w := after steps
    (w.stopIsReady = true ↔ (after (beforeListening steps)).received = 0) ∧
      (w.stopIsReady = true →
        (∀ events : List RampEvent, w.heard (events.map .ramp) = events) ∧
        ∀ (load : Load) (s : Steering), s.watch = w → w.gone = false → s.ramp.phase ≠ .ended →
          ∃ next notices, s.step load (.ramp .stop) = .ok (next, notices) ∧
            next.ramp.phase = .ended ∧ next.ramp.asked = s.ramp.asked ∧
            ∀ rest, (Drive.goOn load (.ramp .stop :: rest) s).outcome = .ok next.engine) ∧
      (w.stopIsReady = false →
        (w.step .signal).1.gone = true ∧ (∀ session, .stop ∉ w.heard session) ∧
        ∀ load e₀ session e, (drive load e₀ w session).outcome = .ok e →
          ∃ events ramp written acts, e₀.Driven load events ramp written acts e ∧
            written = List.replicate load.connections Command.connectByte ∧
            .elapsed ∈ events) := by
  intro w
  refine ⟨?_, fun hready => ⟨heard_of_stopIsReady hready, ?_⟩, fun hlost => ?_⟩
  · rw [stopIsReady_iff h]
    exact and_iff_left hsome
  · intro load s hwatch hstays hopen
    exact Steering.stop_of_stopIsReady load (hwatch ▸ hready) (hwatch ▸ hstays) hopen
  · exact ⟨gone_step_signal hsome, stop_notMem_heard hsome hlost,
      fun load e₀ session e hdrive => Engine.driven_in_full hsome hlost hdrive⟩

/-- A signal between the two steps of the main task is lost: a load of three connections asks for
all of them, although it looks for the word after the first. Had it come after both steps, the load
would end at once. -/
theorem first_signal_is_kept_iff_two_orders :
    let lost := after [.spawn, .signal, .listen]
    let kept := after [.spawn, .listen, .signal]
    let session : List SessionEvent :=
      [.ramp .tick, .ramp .stop, .ramp .tick, .ramp .tick, .ramp .elapsed]
    lost.received = 1 ∧ lost.gone = false ∧ lost.stopIsReady = false ∧
      (∃ e events ramp written acts,
        (drive Sample.load Sample.engine lost session).outcome = .ok e ∧
        Sample.engine.Driven Sample.load events ramp written acts e ∧
        written = List.replicate 3 Command.connectByte ∧ .elapsed ∈ events) ∧
      kept.received = 1 ∧ kept.stopIsReady = true ∧
      ∃ next notices,
        Steering.step Sample.load ⟨{ phase := .pacing 3 }, Sample.engine, kept⟩ (.ramp .stop) =
          .ok (next, notices) ∧ next.ramp.phase = .ended ∧ next.ramp.asked = 0 := by
  intro lost kept session
  have hlostOrder : InProgramOrder [.spawn, .signal, .listen] := ⟨[.finish], rfl⟩
  have hkeptOrder : InProgramOrder [.spawn, .listen, .signal] := ⟨[.finish], rfl⟩
  obtain ⟨-, -, hlost⟩ := first_signal_is_kept_iff hlostOrder (by decide)
  obtain ⟨-, hkept, -⟩ := first_signal_is_kept_iff hkeptOrder (by decide)
  obtain ⟨-, -, hdrives⟩ := hlost rfl
  refine ⟨rfl, rfl, rfl, ?_, rfl, rfl, ?_⟩
  -- the lost word: the drive comes to its end, and the theorem says in what state
  · have hdone : (drive Sample.load Sample.engine lost session).outcome.isOk = true := by
      decide +kernel
    cases houtcome : (drive Sample.load Sample.engine lost session).outcome with
    | error _ =>
      rw [houtcome] at hdone
      cases hdone
    | ok e =>
      obtain ⟨events, ramp, written, acts, hdriven⟩ := hdrives _ _ _ e houtcome
      exact ⟨e, events, ramp, written, acts, rfl, hdriven⟩
  · obtain ⟨next, notices, hstep, hended, hasked, -⟩ :=
      (hkept rfl).2 Sample.load ⟨{ phase := .pacing 3 }, Sample.engine, kept⟩ rfl rfl nofun
    exact ⟨next, notices, hstep, hended, hasked⟩

end Watch

end LoadGenerator
