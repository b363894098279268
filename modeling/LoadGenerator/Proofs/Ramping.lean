/-
What a ramp asks for.

A ramp with a rate asks for one connection with each tick, until it has asked for all of them or is
told to stop; without a rate it asks for all of them as it starts. So what it asks for follows from
the ticks that come before the first stop.

* **`Load.due`** — the number of connections that a load asks for under a list of events;
* **`Ramp.AtRest`** — a ramp that asks for no more;
* **`Ramp.asked_run`** — what a ramp asks for is what is due;
* **`Ramp.phase_run_stop`**, **`Ramp.phase_ne_holding`** — a stop ends it, and skips the hold if it
  comes early;
* **`Ramp.asked_of_ended`** — without a stop it ends only after everything was asked for and held.
-/
import LoadGenerator.Ramp

namespace LoadGenerator

/-- The ticks that come before the first stop. -/
def ticksBeforeStop (events : List RampEvent) : Nat :=
  (events.takeWhile fun e => e ≠ .stop).count .tick

/-- The number of connections that a load asks for under these events. -/
def Load.due (l : Load) (events : List RampEvent) : Nat :=
  if l.connectRate = 0 then l.connections else min l.connections (ticksBeforeStop events)

@[simp] theorem ticksBeforeStop_nil : ticksBeforeStop [] = 0 := rfl

@[simp] theorem ticksBeforeStop_tick (events : List RampEvent) :
    ticksBeforeStop (.tick :: events) = ticksBeforeStop events + 1 := by
  simp [ticksBeforeStop]

@[simp] theorem ticksBeforeStop_stop (events : List RampEvent) :
    ticksBeforeStop (.stop :: events) = 0 := by
  simp [ticksBeforeStop]

@[simp] theorem ticksBeforeStop_elapsed (events : List RampEvent) :
    ticksBeforeStop (.elapsed :: events) = ticksBeforeStop events := by
  simp [ticksBeforeStop]

/-- What comes after a stop is not looked at. -/
theorem ticksBeforeStop_append_stop (before after : List RampEvent) :
    ticksBeforeStop (before ++ .stop :: after) = ticksBeforeStop before := by
  induction before with
  | nil => simp
  | cons e before ih => cases e <;> simp [ih]

theorem Load.due_append_stop (l : Load) (before after : List RampEvent) :
    l.due (before ++ .stop :: after) = l.due before := by
  unfold due
  rw [ticksBeforeStop_append_stop]

namespace Ramp

variable {r : Ramp} {n : Nat} {load : Load}

theorem run_cons (n : Nat) (r : Ramp) (e : RampEvent) (events : List RampEvent) :
    r.run n (e :: events) = (r.step n e).run n events := rfl

theorem run_append (n : Nat) (r : Ramp) (before after : List RampEvent) :
    r.run n (before ++ after) = (r.run n before).run n after :=
  List.foldl_append

/-! ### Asking -/

/-- All commands are issued, or are not to be issued any more. -/
def AtRest (r : Ramp) : Prop := r.phase = .holding ∨ r.phase = .ended

theorem AtRest.step (h : r.AtRest) (n : Nat) (e : RampEvent) :
    (r.step n e).AtRest ∧ (r.step n e).asked = r.asked := by
  rcases h with h | h <;> cases e <;> simp [Ramp.step, AtRest, h]

theorem AtRest.run (h : r.AtRest) (n : Nat) (events : List RampEvent) :
    (r.run n events).AtRest ∧ (r.run n events).asked = r.asked := by
  induction events generalizing r with
  | nil => exact ⟨h, rfl⟩
  | cons e events ih =>
    obtain ⟨hrest, hasked⟩ := h.step n e
    obtain ⟨hrest', hasked'⟩ := ih hrest
    exact ⟨hrest', hasked'.trans hasked⟩

/-- A ramp that has so many commands still to issue issues one with each tick. -/
theorem asked_run_of_pacing {remaining : Nat} (hr : r.phase = .pacing remaining)
    (hsome : remaining ≠ 0) (n : Nat) (events : List RampEvent) :
    (r.run n events).asked = r.asked + min remaining (ticksBeforeStop events) := by
  -- induction on the events, for every number of commands that may be left
  induction events generalizing r remaining with
  | nil => simp [run]
  | cons e events ih =>
    rw [run_cons]
    obtain ⟨left, rfl⟩ := Nat.exists_eq_succ_of_ne_zero hsome
    cases e with
    | tick =>
      rw [ticksBeforeStop_tick]
      by_cases hleft : left = 0
      · -- that was the last command
        have hstep : (r.step n .tick).phase = .holding ∧ (r.step n .tick).asked = r.asked + 1 := by
          simp [step, hr, hleft, beginHolding]
        rw [(AtRest.run (.inl hstep.1) n events).2, hstep.2]
        omega
      · have hstep : (r.step n .tick).phase = .pacing left ∧
            (r.step n .tick).asked = r.asked + 1 := by
          simp [step, hr, hleft]
        rw [ih hstep.1 hleft, hstep.2]
        omega
    | stop =>
      have hstep : (r.step n .stop).phase = .ended ∧ (r.step n .stop).asked = r.asked := by
        simp [step, hr]
      rw [(AtRest.run (.inr hstep.1) n events).2, hstep.2, ticksBeforeStop_stop]
      omega
    | elapsed =>
      -- nothing is held yet, so the end of the hold changes nothing
      have hstep : r.step n .elapsed = r := by simp [step, hr]
      rw [hstep, ih hr hsome, ticksBeforeStop_elapsed]

theorem asked_le_step (n : Nat) (r : Ramp) (e : RampEvent) : r.asked ≤ (r.step n e).asked := by
  unfold step
  split
  · simp only
    split
    · exact Nat.le_succ _
    · exact Nat.le_succ _
  all_goals exact Nat.le_refl _

/-- A ramp begins by asking for everything, or has everything still to ask for. -/
theorem start?_cases {r : Ramp} (h : start? load = some r) :
    r.phase = .holding ∧ r.asked = load.connections ∧
        (load.connectRate = 0 ∨ load.connections = 0) ∨
      r.phase = .pacing load.connections ∧ r.asked = 0 ∧ load.connectRate ≠ 0 ∧
        load.connections ≠ 0 := by
  unfold start? at h
  split at h
  · next hrate =>
    obtain rfl := Option.some.inj h
    exact .inl ⟨rfl, rfl, .inl hrate⟩
  · next hrate =>
    split at h
    · cases h
    · split at h
      · next hnone =>
        obtain rfl := Option.some.inj h
        exact .inl ⟨rfl, hnone.symm, .inr hnone⟩
      · next hsome =>
        obtain rfl := Option.some.inj h
        exact .inr ⟨rfl, rfl, hrate, hsome⟩

theorem exists_start? (h : load.connectRate = 0 ∨ period load.connectRate ≠ 0) :
    ∃ r, start? load = some r := by
  unfold start?
  split
  · exact ⟨_, rfl⟩
  · next hrate =>
    rw [if_neg (h.resolve_left hrate)]
    split
    · exact ⟨_, rfl⟩
    · exact ⟨_, rfl⟩

/-- **What a ramp asks for is what is due.** -/
theorem asked_run (h : start? load = some r) (n : Nat) (events : List RampEvent) :
    (r.run n events).asked = load.due events := by
  unfold Load.due
  rcases start?_cases h with ⟨hphase, hasked, hall⟩ | ⟨hphase, hasked, hrate, hsome⟩
  · rw [(AtRest.run (.inl hphase) n events).2, hasked]
    split
    · rfl
    · next hrate =>
      rw [hall.resolve_left hrate]
      exact (Nat.zero_min _).symm
  · rw [asked_run_of_pacing hphase hsome, hasked, if_neg hrate]
    exact Nat.zero_add _

/-- Once a ramp asks for no more, nothing more is due. -/
theorem due_append_of_atRest (h : start? load = some r) {events : List RampEvent}
    (hrest : (r.run load.connections events).AtRest) (more : List RampEvent) :
    load.due (events ++ more) = load.due events := by
  rw [← asked_run h load.connections, run_append, (hrest.run load.connections more).2, asked_run h]

/-! ### Stopping -/

theorem phase_step_stop (n : Nat) (r : Ramp) : (r.step n .stop).phase = .ended := by
  cases h : r.phase <;> simp [step, h]

theorem asked_step_stop (n : Nat) (r : Ramp) : (r.step n .stop).asked = r.asked := by
  cases h : r.phase <;> simp [step, h]

theorem phase_run_of_ended (h : r.phase = .ended) (n : Nat) (events : List RampEvent) :
    (r.run n events).phase = .ended := by
  induction events generalizing r with
  | nil => exact h
  | cons e events ih =>
    rw [run_cons]
    refine ih ?_
    cases e <;> simp [step, h]

/-- After a stop the ramp is over. -/
theorem phase_run_stop (n : Nat) (r : Ramp) (before after : List RampEvent) :
    (r.run n (before ++ .stop :: after)).phase = .ended := by
  rw [run_append, run_cons]
  exact phase_run_of_ended (phase_step_stop n _) n after

/-- A ramp holds only what it has asked for in full. -/
structure Counts (n : Nat) (r : Ramp) : Prop where
  pacing : ∀ left, r.phase = .pacing left → r.asked + left = n
  holding : r.phase = .holding → r.asked = n

theorem Counts.step (h : r.Counts n) (e : RampEvent) : (r.step n e).Counts n := by
  cases hphase : r.phase with
  | pacing left =>
    have hsum := h.pacing left hphase
    cases e with
    | tick =>
      cases left with
      | zero => simpa [Ramp.step, hphase] using h
      | succ left =>
        by_cases hleft : left = 0
        · constructor <;> simp [Ramp.step, hphase, hleft, beginHolding]
          omega
        · constructor <;> simp [Ramp.step, hphase, hleft]
          omega
    | stop => constructor <;> simp [Ramp.step, hphase]
    | elapsed => simpa [Ramp.step, hphase] using h
  | holding =>
    cases e with
    | tick => simpa [Ramp.step, hphase] using h
    | stop => constructor <;> simp [Ramp.step, hphase]
    | elapsed => constructor <;> simp [Ramp.step, hphase]
  | ended => cases e <;> simpa [Ramp.step, hphase] using h

theorem Counts.run (h : r.Counts n) (events : List RampEvent) : (r.run n events).Counts n := by
  induction events generalizing r with
  | nil => exact h
  | cons e events ih => exact ih (h.step e)

theorem counts_of_start? (h : start? load = some r) : r.Counts load.connections := by
  rcases start?_cases h with ⟨hphase, hasked, -⟩ | ⟨hphase, hasked, -, -⟩
  · refine ⟨fun left hleft => ?_, fun _ => hasked⟩
    -- nothing is left to pace when the ramp begins by holding
    rw [hphase] at hleft
    cases hleft
  · refine ⟨fun left hleft => ?_, fun hholding => ?_⟩
    · rw [hphase] at hleft
      obtain rfl := RampPhase.pacing.inj hleft
      rw [hasked]
      exact Nat.zero_add _
    · rw [hphase] at hholding
      cases hholding

/-- A ramp that is not stopped ends when it was held for long enough. -/
theorem holding_of_step_ended {e : RampEvent} (hopen : r.phase ≠ .ended) (hstop : e ≠ .stop)
    (hended : (r.step n e).phase = .ended) : r.phase = .holding ∧ e = .elapsed := by
  cases hphase : r.phase with
  | pacing left =>
    cases e with
    | tick =>
      cases left with
      | zero => simp [Ramp.step, hphase] at hended
      | succ left =>
        by_cases hleft : left = 0 <;> simp [Ramp.step, hphase, hleft, beginHolding] at hended
    | stop => exact absurd rfl hstop
    | elapsed => simp [Ramp.step, hphase] at hended
  | holding =>
    cases e with
    | tick => simp [Ramp.step, hphase] at hended
    | stop => exact absurd rfl hstop
    | elapsed => exact ⟨rfl, rfl⟩
  | ended => exact absurd hphase hopen

/-- So without a stop it has asked for everything when it ends. -/
theorem asked_of_ended (h : r.Counts n) (hopen : r.phase ≠ .ended) {events : List RampEvent}
    (hno : .stop ∉ events) (hended : (r.run n events).phase = .ended) :
    (r.run n events).asked = n ∧ .elapsed ∈ events := by
  induction events generalizing r with
  | nil => exact absurd hended hopen
  | cons e rest ih =>
    have hstop : e ≠ .stop := fun heq => hno (heq ▸ List.mem_cons_self)
    have hrest : .stop ∉ rest := fun hmem => hno (List.mem_cons_of_mem e hmem)
    rw [run_cons] at hended ⊢
    -- either this event ends the ramp, or a later one does
    by_cases hlast : (r.step n e).phase = .ended
    · obtain ⟨hholding, rfl⟩ := holding_of_step_ended hopen hstop hlast
      have hstep := (AtRest.step (.inl hholding) n .elapsed).2
      have hmore := (AtRest.run (.inr hlast) n rest).2
      exact ⟨hmore.trans (hstep.trans (h.holding hholding)), List.mem_cons_self⟩
    · obtain ⟨hasked, helapsed⟩ := ih (h.step e) hlast hrest hended
      exact ⟨hasked, List.mem_cons_of_mem e helapsed⟩

/-- **A stop that comes early skips the hold.** -/
theorem phase_ne_holding (h : start? load = some r) {before after p : List RampEvent}
    (hearly : load.due before < load.connections) (hp : p <+: before ++ .stop :: after) :
    (r.run load.connections p).phase ≠ .holding := by
  have hbefore : ∀ p, p <+: before → (r.run load.connections p).phase ≠ .holding := by
    rintro p ⟨rest, rfl⟩ hholding
    -- whatever holds has asked for everything, and asks for no more
    have hall := ((counts_of_start? h).run p).holding hholding
    have hlast := (AtRest.run (.inl hholding) load.connections rest).2
    rw [← run_append, asked_run h] at hlast
    omega
  -- before the stop the ramp paces, and from the stop on it is over
  rcases List.prefix_or_prefix_of_prefix hp (List.prefix_append before _) with hle | ⟨rest, rfl⟩
  · exact hbefore p hle
  · rw [List.prefix_append_right_inj] at hp
    cases rest with
    | nil => exact hbefore _ (by simp)
    | cons e rest =>
      obtain rfl : e = .stop := (List.cons_prefix_cons.mp hp).1
      rw [phase_run_stop]
      nofun

end Ramp

end LoadGenerator
