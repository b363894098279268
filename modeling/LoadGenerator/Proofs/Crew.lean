/-
What happens to an engine, seen from its crew.

Whatever happens, at most one member does something, and what it does is a row of moves of its
worker. So what holds along the moves of a worker can be added up over the crew.

* **`Member.Step`** — a member stays as it is, works on, or comes to an end;
* **`Engine.Step`** — the pipe changes and the crew is notified of it, or one member takes a step;
* **`Engine.step_apply`**, **`Engine.step_requestStop`** — every action is such a step, and so is
  the request to stop;
* **`Engine.crew_of_start`** — a started engine has an empty pipe and fresh workers.
-/
import LoadGenerator.Engine.Supervisor
import LoadGenerator.Proofs.Tokens

namespace LoadGenerator

/-! ### Members -/

namespace Member

variable {m m' : Member} {acts : List Act}

@[simp] theorem worker_notify (m : Member) : m.notify.worker = m.worker := by
  unfold notify
  split <;> rfl

@[simp] theorem status_notify (m : Member) : m.notify.status = m.status := by
  unfold notify
  split <;> rfl

/-- What a turn or the end of its thread is to a member. -/
inductive Step (m : Member) : List Act → Member → Prop
  /-- The member stays as it is. -/
  | idle : Step m [] m
  /-- Its worker does something, and may go on. -/
  | worked {acts : List Act} {w : Worker} (edge : Bool) (hrun : m.status = .running)
      (h : m.worker.Reaches acts w) : Step m acts { worker := w, edge, status := m.status }
  /-- Its worker does something, and leaves its report since it is finished or its poll has
  failed. -/
  | ended {acts : List Act} {w : Worker} (edge : Bool) (h : m.worker.Reaches acts w)
      (hend : w.isFinished = true ∨ ∃ i e, .told (.pollFailed i e) ∈ acts) :
      Step m acts { worker := w, edge, status := .exited w.report }

theorem Step.reaches (h : m.Step acts m') : m.worker.Reaches acts m'.worker := by
  cases h with
  | idle => exact .refl
  | worked _ _ h => exact h
  | ended _ h _ => exact h

theorem step_turn (m : Member) (pipe : ControlPipe) (answers : MemberAnswers) :
    m.Step (m.turn pipe answers).acts (m.turn pipe answers).member := by
  unfold turn
  split
  · next hbusy =>
    rw [Bool.and_eq_true] at hbusy
    have hturn := m.worker.reaches_turn
      { poll := answers.poll, control := (answers.readFrom pipe m.worker).1,
        dial := answers.dial, sockets := answers.sockets }
    simp only
    split
    · next e _ =>
      -- the failed poll is told, and then the farewell
      refine .ended _ ?_ (.inr ⟨_, e, List.mem_append_right _ List.mem_cons_self⟩)
      rw [List.append_cons]
      exact (hturn.step (.noted rfl)).step (.noted rfl)
    · exact .worked _ (of_decide_eq_true hbusy.1) hturn
  · exact .idle

theorem step_leave (m : Member) (pipe : ControlPipe) :
    m.Step (m.leave pipe).acts (m.leave pipe).member := by
  unfold leave
  split
  · next h =>
    rw [Bool.and_eq_true] at h
    exact .ended m.edge (.of_move (.noted rfl)) (.inl h.2)
  · exact .idle

end Member

/-! ### Crews -/

namespace Engine

variable {e e' : Engine} {acts : List Act}

/-- What happens to an engine, as its crew sees it. -/
inductive Step (e : Engine) : List Act → Engine → Prop
  /-- The crew stays as it is. -/
  | quiet {e' : Engine} (h : e'.crew = e.crew) : Step e [] e'
  /-- The pipe has changed, and the crew is notified. -/
  | notified {e' : Engine} (h : e'.crew = e.crew.map Member.notify) : Step e [] e'
  /-- A member takes a step. -/
  | moved {i : Nat} {m m' : Member} {acts : List Act} {e' : Engine} (hm : e.crew[i]? = some m)
      (h : m.Step acts m') (hcrew : e'.crew = e.crew.set i m') : Step e acts e'

theorem step_write {bytes : List UInt8} (h : e.write bytes = .ok e') : e.Step [] e' := by
  unfold write at h
  split at h
  · cases h
  · split at h
    · exact .quiet (by rw [← Except.ok.inj h])
    · exact .notified (by rw [← Except.ok.inj h])

theorem step_closeWriter (e : Engine) : e.Step [] e.closeWriter := by
  unfold closeWriter
  split
  · exact .notified rfl
  · exact .quiet rfl

theorem apply_turn_of_some {i : Nat} {m : Member} (hm : e.crew[i]? = some m)
    (answers : MemberAnswers) :
    e.apply (.turn i answers) =
      (e.afterTurn i (m.turn e.pipe answers), (m.turn e.pipe answers).acts) := by
  simp only [apply, turn, hm]

theorem apply_turn_of_none {i : Nat} (hm : e.crew[i]? = none) (answers : MemberAnswers) :
    e.apply (.turn i answers) = (e, []) := by
  simp only [apply, turn, hm]

theorem apply_leave_of_some {i : Nat} {m : Member} (hm : e.crew[i]? = some m) :
    e.apply (.leave i) = (e.afterTurn i (m.leave e.pipe), (m.leave e.pipe).acts) := by
  simp only [apply, leave, hm]

theorem apply_leave_of_none {i : Nat} (hm : e.crew[i]? = none) : e.apply (.leave i) = (e, []) := by
  simp only [apply, leave, hm]

/-- **Every action is a step.** -/
theorem step_apply (e : Engine) (a : Action) : e.Step (e.apply a).2 (e.apply a).1 := by
  cases a with
  | write bytes =>
    cases h : e.write bytes with
    | ok e' =>
      simp only [apply, h]
      exact step_write h
    | error _ =>
      simp only [apply, h]
      exact .quiet rfl
  | closeWriter => exact step_closeWriter e
  | turn i answers =>
    cases hm : e.crew[i]? with
    | none =>
      rw [apply_turn_of_none hm]
      exact .quiet rfl
    | some m =>
      rw [apply_turn_of_some hm]
      exact .moved hm (m.step_turn e.pipe answers) rfl
  | leave i =>
    cases hm : e.crew[i]? with
    | none =>
      rw [apply_leave_of_none hm]
      exact .quiet rfl
    | some m =>
      rw [apply_leave_of_some hm]
      exact .moved hm (m.step_leave e.pipe) rfl

/-- The request to stop is a write. -/
theorem step_requestStop (h : e.requestStop = .ok e') : e.Step [] e' := by
  unfold requestStop at h
  split at h
  · next e₁ hwrite =>
    obtain rfl := Except.ok.inj h
    cases step_write hwrite with
    | quiet hcrew => exact .quiet hcrew
    | notified hcrew => exact .notified hcrew
    | moved hm hstep hcrew => exact .moved hm hstep hcrew
  · cases h

/-! ### New engines -/

/-- An engine on whose pipe nothing is on its way and whose workers are fresh. -/
structure Fresh (e : Engine) : Prop where
  pending : e.pipe.pending = []
  workers : ∀ m ∈ e.crew, m.worker.Fresh
  statuses : ∀ m ∈ e.crew, m.report? = none

theorem Fresh.hire (h : e.Fresh) {setup : WorkerSetup} {core : Option Nat} {answers : HireAnswers}
    (heq : e.hire setup core answers = .ok (e', acts)) :
    e'.Fresh ∧ e'.crew.length = e.crew.length + 1 := by
  unfold Engine.hire at heq
  split at heq
  · cases heq
  · next w hcreate =>
    have hw := Worker.fresh_of_create hcreate
    have hcrew : ∀ m : Member, m.worker = w → m.report? = none →
        (∀ n ∈ e.crew ++ [m], n.worker.Fresh) ∧ ∀ n ∈ e.crew ++ [m], n.report? = none := by
      rintro m rfl hm
      rw [List.forall_mem_append, List.forall_mem_append]
      exact ⟨⟨h.workers, by simpa using hw⟩, ⟨h.statuses, by simpa using hm⟩⟩
    split at heq
    · cases heq
    · simp only at heq
      split at heq
      · obtain ⟨rfl, -⟩ := Prod.mk.inj (Except.ok.inj heq)
        exact ⟨⟨h.pending, (hcrew { worker := w } rfl rfl).1, (hcrew { worker := w } rfl rfl).2⟩,
          by simp⟩
      · -- a worker that panics as it starts never leaves a report either
        obtain ⟨rfl, -⟩ := Prod.mk.inj (Except.ok.inj heq)
        exact ⟨⟨h.pending, (hcrew ⟨w, false, .panicked⟩ rfl rfl).1,
          (hcrew ⟨w, false, .panicked⟩ rfl rfl).2⟩, by simp⟩

theorem Fresh.hireEach {setup : Nat → WorkerSetup} {core : Nat → Option Nat}
    {answers : Nat → HireAnswers} (h : e.Fresh) (count first : Nat)
    (hfailure : (hireEach setup core answers count first e).failure = none) :
    (Engine.hireEach setup core answers count first e).engine.Fresh ∧
      (Engine.hireEach setup core answers count first e).engine.crew.length =
        e.crew.length + count := by
  induction count generalizing e first with
  | zero => exact ⟨h, rfl⟩
  | succ count ih =>
    unfold Engine.hireEach at hfailure ⊢
    split at hfailure
    · cases hfailure
    · next e₁ acts hhire =>
      obtain ⟨hfresh, hlength⟩ := h.hire hhire
      obtain ⟨hlast, htotal⟩ := ih hfresh (first + 1) hfailure
      refine ⟨hlast, ?_⟩
      rw [htotal, hlength]
      omega

/-- **A started engine is fresh**, and has as many workers as were asked for. -/
theorem crew_of_start {addresses : Array SocketAddress} {payload : Payload}
    {options : EngineOptions} {answers : StartAnswers} {told : List Act}
    (h : Engine.start addresses payload options answers = ⟨e, none, told⟩) :
    e.Fresh ∧ e.crew.length = options.workerCount answers.processors := by
  unfold start at h
  split at h
  · cases h
  · split at h
    · cases h
    · obtain ⟨hengine, hfailure, -⟩ := Start.mk.inj h
      have hempty : Fresh {} := ⟨rfl, by simp, by simp⟩
      obtain ⟨hfresh, hlength⟩ := hempty.hireEach _ 0 hfailure
      simp only [hfailure] at hengine
      subst hengine
      refine ⟨⟨?_, hfresh.workers, hfresh.statuses⟩, by simpa [releaseReader] using hlength⟩
      -- nothing was written yet that the supervisor's handle could take with it
      simp [releaseReader, ControlPipe.closeReader, hfresh.pending]

end Engine

/-! ### A sample -/

namespace Sample

/-- Two workers. -/
def options : EngineOptions := { workers := some 2, maxEvents := 1 }

/-- The second of them, whose picks start one address further on. -/
def coworker : Worker := { worker with index := 1, roster := { worker.roster with cursor := 1 } }

/-- The engine that is started with them. -/
def engine : Engine :=
  { pipe := { readers := 2 }, crew := [{ worker }, { worker := coworker }], unstopped := 2 }

theorem start_engine :
    Engine.start setup.addresses setup.payload options {} =
      ⟨engine, none, [.told (.usingCpus 2)]⟩ := by
  have hroom : canHoldEvents 1 = true := by decide
  simp [Engine.start, Engine.hireEach, Engine.hire, Engine.pinActs, Engine.releaseReader,
    EngineOptions.workerCount, EngineOptions.core?, Worker.create, Roster.ofAddresses?,
    ControlPipe.addReader, ControlPipe.closeReader, hroom, options, engine, setup, coworker,
    worker, address]

/-- A member's turn with these events and such a write. -/
def turnOf (i : Nat) (events : List Token) (write : Except SystemError Nat) : Action :=
  .turn i { poll := .ok events, dial := {}, sockets := fun _ => socket write }

end Sample

end LoadGenerator
