/-
What a shutdown hands back, and when it hands back nothing.

A shutdown writes a byte for every worker and then waits for all threads. Workers may have been
stopped before, and each thread that has ended took a handle of the read end with it. As long as one
is left the write goes through, and the shutdown ends with a report of every worker. With the last
of them the pipe is broken, and the shutdown fails before it has looked at a report, although all of
them are there.

* **`Engine.Staffed`** — no worker has panicked, and each knows its place in the crew;
* **`Engine.Accounts`** — a report of every worker, in order, and no connection left open;
* **`Engine.Orderly`** — an engine in the course of its life, with its books and its crew in order;
* **`Engine.Orderly.readers_eq_zero_iff`**, **`Engine.Orderly.length_le_count`** — when there is
  nobody left to write to, and what has been written by then;
* **`Engine.shutdown_reports_unless_all_left`** — the two courses that a shutdown can take.
-/
import LoadGenerator.Proofs.Shutdown
import LoadGenerator.Proofs.Stopping

namespace LoadGenerator

namespace Worker

variable {w w' : Worker} {acts : List Act}

theorem Move.index_eq (m : Move w acts w') : w'.index = w.index := by
  cases m with
  | broken =>
    rename_i t c _ e _
    obtain ⟨r, hr⟩ := tellWriteFailure_fst w c e
    rw [hr]
    rfl
  | _ => rfl

theorem Reaches.index_eq (h : w.Reaches acts w') : w'.index = w.index := by
  induction h with
  | refl => rfl
  | step _ m ih => exact m.index_eq.trans ih

end Worker

/-- A thread that ends leaves a report, and does not panic. -/
theorem Member.Step.calm {m m' : Member} {acts : List Act} (h : m.Step acts m')
    (hm : m.status ≠ .panicked) : m'.status ≠ .panicked := by
  cases h with
  | idle => exact hm
  | worked => exact hm
  | ended => nofun

namespace Engine

variable {e e' : Engine} {acts : List Act} {written : List UInt8} {took : List (Nat × UInt8)}
  {reports : List WorkerReport} {stage : Stage}

/-! ### The crew -/

/-- No worker has panicked, and each knows its place in the crew. -/
structure Staffed (e : Engine) : Prop where
  calm : ∀ m ∈ e.crew, m.status ≠ .panicked
  placed : ∀ (i : Nat) (m : Member), e.crew[i]? = some m → m.worker.index = i

theorem Staffed.step (h : e.Staffed) (hstep : e.Step acts e') : e'.Staffed := by
  -- only a move changes a member, and it leaves the number of its worker
  cases hstep with
  | quiet hcrew => exact ⟨hcrew ▸ h.calm, hcrew ▸ h.placed⟩
  | notified hcrew =>
    constructor
    · rw [hcrew, List.forall_mem_map]
      simpa using h.calm
    · intro i m hm
      rw [hcrew, List.getElem?_map, Option.map_eq_some_iff] at hm
      obtain ⟨n, hn, rfl⟩ := hm
      rw [Member.worker_notify]
      exact h.placed i n hn
  | moved hm hmember hcrew =>
    rename_i j m m'
    constructor
    · intro n hn
      rcases List.mem_or_eq_of_mem_set (hcrew ▸ hn) with hn | rfl
      · exact h.calm n hn
      · exact hmember.calm (h.calm m (List.mem_of_getElem? hm))
    · intro i n hn
      rw [hcrew, List.getElem?_set] at hn
      split at hn
      · next hij =>
        split at hn
        · obtain rfl := Option.some.inj hn
          rw [hmember.reaches.index_eq, h.placed j m hm, hij]
        · cases hn
      · exact h.placed i n hn

theorem Staffed.applyAll (h : e.Staffed) (actions : List Action) :
    (e.applyAll actions).1.Staffed := by
  induction actions generalizing e with
  | nil => exact h
  | cons a rest ih => exact ih (h.step (step_apply e a))

theorem placed_hireEach {setup : Nat → WorkerSetup} (hsetup : ∀ i, (setup i).index = i)
    (core : Nat → Option Nat) (answers : Nat → HireAnswers) (count : Nat)
    (h : ∀ (i : Nat) (m : Member), e.crew[i]? = some m → m.worker.index = i) (i : Nat) (m : Member)
    (hm : (hireEach setup core answers count e.crew.length e).engine.crew[i]? = some m) :
    m.worker.index = i := by
  -- the crew may have members already, as many as the next number says
  induction count generalizing e with
  | zero => exact h i m hm
  | succ count ih =>
    unfold hireEach at hm
    split at hm
    · exact h i m hm
    · next hhire =>
      obtain ⟨n, hcreate, rfl⟩ := hire_cases hhire
      obtain ⟨r, -, hn⟩ := Worker.create_cases hcreate
      have hlength : e.crew.length + 1 = (e.crew ++ [n]).length := by simp
      rw [hlength] at hm
      refine ih (e := ⟨_, e.crew ++ [n], _⟩) ?_ hm
      intro i m hm
      have hm : (e.crew ++ [n])[i]? = some m := hm
      by_cases hi : i < e.crew.length
      · exact h i m (by rwa [List.getElem?_append_left hi] at hm)
      · -- the worker just hired is the last one
        have hlast : i = e.crew.length := by
          have hbound := (List.getElem?_eq_some_iff.mp hm).choose
          omega
        subst hlast
        have hm : n = m := by simpa using hm
        rw [← hm, hn]
        exact hsetup _

/-- The workers of a started engine stand in the order of their numbers. -/
theorem placed_of_start {addresses : Array SocketAddress} {payload : Payload}
    {options : EngineOptions} {answers : StartAnswers} {told : List Act}
    (h : Engine.start addresses payload options answers = ⟨e, none, told⟩) (i : Nat) (m : Member)
    (hm : e.crew[i]? = some m) : m.worker.index = i := by
  unfold start at h
  split at h
  · cases h
  · split at h
    · cases h
    · obtain ⟨hengine, hfailure, -⟩ := Start.mk.inj h
      simp only [hfailure] at hengine
      subst hengine
      exact placed_hireEach (e := {}) (fun _ => rfl) _ _ _ (by simp) i m hm

/-! ### Reports -/

/-- A report of every worker, in order, and no connection left open. -/
structure Accounts (e : Engine) (reports : List WorkerReport) : Prop where
  length : reports.length = e.crew.length
  own : ∀ (i : Nat) (m : Member), e.crew[i]? = some m → reports[i]? = some m.worker.report
  placed : ∀ (i : Nat) (r : WorkerReport), reports[i]? = some r → r.worker = i
  closed : ∀ r ∈ reports, r.openConnections = 0

/-- Where nobody has panicked a shutdown that is through with waiting hands back reports. -/
theorem exists_reports_of_collectFrom {k : Nat} {crew : List Member}
    (hcalm : ∀ m ∈ crew, m.status ≠ .panicked) {result : Except EngineError (List WorkerReport)}
    (h : collectFrom k crew = some result) : ∃ reports, result = .ok reports := by
  -- down the crew: nobody has panicked, so the wait ends with a report or goes on
  induction crew generalizing k result with
  | nil => exact ⟨[], (Option.some.inj h).symm⟩
  | cons m rest ih =>
    obtain ⟨hm, hrest⟩ := List.forall_mem_cons.mp hcalm
    unfold collectFrom at h
    split at h
    · cases h
    · next hpanicked => exact absurd hpanicked hm
    · next report _ =>
      split at h
      · next reports _ => exact ⟨report :: reports, (Option.some.inj h).symm⟩
      · exact ih hrest h

theorem exists_collectFrom_of_exited {crew : List Member}
    (h : ∀ m ∈ crew, ∃ r, m.status = .exited r) (k : Nat) :
    ∃ reports, collectFrom k crew = some (.ok reports) := by
  induction crew generalizing k with
  | nil => exact ⟨[], rfl⟩
  | cons m rest ih =>
    obtain ⟨⟨r, hr⟩, hrest⟩ := List.forall_mem_cons.mp h
    obtain ⟨reports, hreports⟩ := ih hrest (k + 1)
    exact ⟨r :: reports, by simp only [collectFrom, hr, hreports]⟩

theorem exited_of_isRunning_eq_false {m : Member} (hcalm : m.status ≠ .panicked)
    (h : m.isRunning = false) : ∃ r, m.status = .exited r := by
  have hstopped : m.status ≠ .running := of_decide_eq_false h
  cases hstatus : m.status with
  | running => exact absurd hstatus hstopped
  | exited r => exact ⟨r, rfl⟩
  | panicked => exact absurd hstatus hcalm

/-! ### Engines in good order -/

theorem length_crew_applyAll (e : Engine) (actions : List Action) :
    (e.applyAll actions).1.crew.length = e.crew.length := by
  simpa [duties] using length_duties_applyAll e actions

/-- An engine in the course of its life. Its books are balanced, no worker has panicked, and no poll
has failed. -/
structure Orderly (stage : Stage) (written : List UInt8) (took : List (Nat × UInt8))
    (acts : List Act) (e : Engine) : Prop where
  life : Supervised (fun _ _ => True) stage written took e
  books : Balanced acts e
  staff : e.Staffed
  polls : ∀ a ∈ acts, a.isPollFailure = false

theorem polls_of_all (h : acts.all (fun a => !a.isPollFailure) = true) :
    ∀ a ∈ acts, a.isPollFailure = false := by
  simpa using h

theorem orderly_of_start {addresses : Array SocketAddress} {payload : Payload}
    {options : EngineOptions} {answers : StartAnswers} {told : List Act}
    (hstart : Engine.start addresses payload options answers = ⟨e, none, told⟩)
    (hcalm : ∀ m ∈ e.crew, m.status ≠ .panicked) : Orderly .started [] [] [] e where
  life := (supervised_of_start hstart).1 rfl
  books := (crew_of_start hstart).1.balanced
  staff := ⟨hcalm, placed_of_start hstart⟩
  polls := by simp

theorem Orderly.applyAll (h : Orderly stage written took acts e) (hstage : stage ≠ .hiring)
    (actions : List Action) (hpolls : ∀ a ∈ (e.applyAll actions).2, a.isPollFailure = false) :
    Orderly stage (written ++ e.writtenIn actions) (took ++ e.readsIn actions)
      (acts ++ (e.applyAll actions).2) (e.applyAll actions).1 where
  life := h.life.applyAll hstage actions fun _ _ _ _ => trivial
  books := h.books.applyAll actions
  staff := h.staff.applyAll actions
  polls := List.forall_mem_append.mpr ⟨h.polls, hpolls⟩

theorem Orderly.requestStop (h : Orderly .started written took acts e)
    (hstop : e.requestStop = .ok e') : Orderly .stopping (written ++ e.owed) took acts e' where
  life := h.life.stopped (.inl rfl) hstop
  books := by
    have hbooks := h.books.step (step_requestStop hstop)
    rwa [List.append_nil] at hbooks
  staff := h.staff.step (step_requestStop hstop)
  polls := h.polls

theorem Orderly.accounts (h : Orderly stage written took acts e)
    (hcollect : e.collect = some (.ok reports)) : e.Accounts reports := by
  obtain ⟨hclosed, -⟩ := h.books.settled hcollect h.polls
  obtain rfl := h.books.reports_of_collect hcollect
  refine ⟨List.length_map _, ?_, ?_, hclosed⟩
  · intro i m hm
    rw [List.getElem?_map, hm]
    rfl
  · intro i r hr
    rw [List.getElem?_map, Option.map_eq_some_iff] at hr
    obtain ⟨m, hm, rfl⟩ := hr
    exact h.staff.placed i m hm

/-- A thread that has ended was told to stop. -/
theorem Orderly.terminating (h : Orderly stage written took acts e) {m : Member} (hm : m ∈ e.crew)
    {r : WorkerReport} (hr : m.status = .exited r) : m.worker.terminating = true := by
  rcases (h.books.reported m hm r hr).2 with hfinished | ⟨a, ha, hfail⟩
  · rw [Worker.isFinished, Bool.and_eq_true] at hfinished
    exact hfinished.1
  · rw [h.polls a ha] at hfail
    cases hfail

/-- Once all threads have ended, each worker has read a byte that told it to stop. -/
theorem Orderly.count_terminate (h : Orderly stage written took acts e)
    (hexited : ∀ m ∈ e.crew, ∃ r, m.status = .exited r) :
    (took.map Prod.snd).count Command.terminateByte = e.crew.length := by
  rw [h.life.provided.shared.count_terminate]
  refine List.countP_eq_length.mpr fun m hm => ?_
  obtain ⟨r, hr⟩ := hexited m hm
  exact h.terminating hm hr

theorem Orderly.exited (h : Orderly stage written took acts e)
    (hgone : ∀ m ∈ e.crew, m.isRunning = false) : ∀ m ∈ e.crew, ∃ r, m.status = .exited r :=
  fun m hm => exited_of_isRunning_eq_false (h.staff.calm m hm) (hgone m hm)

/-- No handle is left exactly when no thread is. -/
theorem Orderly.readers_eq_zero_iff (h : Orderly .started written took acts e) :
    e.pipe.readers = 0 ↔ ∀ m ∈ e.crew, m.isRunning = false := by
  constructor
  · exact fun hnone m hm => h.life.provided.isRunning_eq_false hnone hm
  · intro hgone
    rw [h.life.readers_eq]
    refine total_map_eq_zero fun m hm => ?_
    rw [hgone m hm]
    rfl

/-- When no thread is left, a byte to stop was written for each worker. -/
theorem Orderly.length_le_count (h : Orderly stage written took acts e)
    (hgone : ∀ m ∈ e.crew, m.isRunning = false) :
    e.crew.length ≤ written.count Command.terminateByte := by
  rw [← h.count_terminate (h.exited hgone)]
  exact h.life.provided.shared.consumed_prefix.sublist.count_le _

theorem Orderly.requestStop_eq_error_iff (h : Orderly .started written took acts e)
    {err : EngineError} :
    e.requestStop = .error err ↔
      0 < e.crew.length ∧ (∀ m ∈ e.crew, m.isRunning = false) ∧
        err = .controlChannel .brokenPipe := by
  have howing : e.unstopped = e.crew.length := h.life.provided.owing
  rw [Engine.requestStop_eq_error_iff, h.readers_eq_zero_iff, howing, Nat.pos_iff_ne_zero]

/-- **A shutdown hands back a report of every worker, unless all of them have left before it.** The
workers have not panicked, no poll fails, and whatever else happens before the shutdown and in its
course, it is refused exactly when there are workers and no thread is left. To that end at least as
many bytes that stop a worker were written before as there are workers; all reports are there by
then, and none is handed back. In any other case, once the shutdown is through with waiting it hands
back a report of each worker, in order, and none of them has left a connection open. -/
theorem shutdown_reports_unless_all_left {addresses : Array SocketAddress} {payload : Payload}
    {options : EngineOptions} {answers : StartAnswers} {told : List Act}
    (hstart : Engine.start addresses payload options answers = ⟨e, none, told⟩)
    (hcalm : ∀ m ∈ e.crew, m.status ≠ .panicked) (before : List Action)
    (horderly : ∀ a ∈ (e.applyAll before).2, a.isPollFailure = false) :
    let count := options.workerCount answers.processors
    let e₁ := (e.applyAll before).1
    (∀ err, e₁.requestStop = .error err ↔
      0 < count ∧ (∀ m ∈ e₁.crew, m.isRunning = false) ∧ err = .controlChannel .brokenPipe) ∧
    ((∀ m ∈ e₁.crew, m.isRunning = false) →
      count ≤ (e.writtenIn before).count Command.terminateByte ∧
      ∃ reports, e₁.collect = some (.ok reports) ∧ reports.length = count ∧
        e₁.Accounts reports) ∧
    (∀ e₂, e₁.requestStop = .ok e₂ → ∀ after : List Action,
      (∀ a ∈ (e₂.applyAll after).2, a.isPollFailure = false) →
      ∀ result, (e₂.applyAll after).1.collect = some result →
        ∃ reports, result = .ok reports ∧ reports.length = count ∧
          (e₂.applyAll after).1.Accounts reports) := by
  intro count e₁
  -- good order holds at the start, and so it does at the shutdown
  have hcount := (crew_of_start hstart).2
  have hcount₁ : e₁.crew.length = count := (length_crew_applyAll e before).trans hcount
  have h := (orderly_of_start hstart hcalm).applyAll nofun before horderly
  rw [List.nil_append, List.nil_append, List.nil_append] at h
  refine ⟨?_, ?_, ?_⟩
  · intro err
    rw [h.requestStop_eq_error_iff, hcount₁]
  -- all have left: each has read a stop, and each has its report ready
  · intro hgone
    constructor
    · rw [← hcount₁]
      exact h.length_le_count hgone
    · obtain ⟨reports, hreports⟩ := exists_collectFrom_of_exited (h.exited hgone) 0
      have haccounts := h.accounts hreports
      exact ⟨reports, hreports, haccounts.length.trans hcount₁, haccounts⟩
  -- the stops were queued: good order goes on from there, with all of them in the pipe
  · intro e₂ hstop after hpolls result hresult
    have h₂ := (h.requestStop hstop).applyAll nofun after hpolls
    obtain ⟨reports, rfl⟩ := exists_reports_of_collectFrom h₂.staff.calm hresult
    have haccounts := h₂.accounts hresult
    have hcount₂ : (e₂.applyAll after).1.crew.length = count := by
      rw [length_crew_applyAll, length_crew_requestStop hstop, hcount₁]
    exact ⟨reports, rfl, haccounts.length.trans hcount₂, haccounts⟩

end Engine

namespace Sample

theorem calm_engine : ∀ m ∈ engine.crew, m.status ≠ .panicked := by
  have hall : engine.crew.all (fun m => m.status ≠ .panicked) = true := rfl
  simpa using hall

/-- Both workers are stopped and leave. -/
def bothLeave : List Action :=
  [.write [Command.terminateByte, Command.terminateByte], turnOf 0 [controlToken] (.ok 0),
    turnOf 1 [controlToken] (.ok 0), .leave 0, .leave 1]

/-- Only one of them does. -/
def oneLeaves : List Action :=
  [.write [Command.terminateByte], turnOf 0 [controlToken] (.ok 0), .leave 0]

/-- The engine with the other one, when a stop was asked for. -/
def lastWorker : Engine :=
  match (engine.applyAll oneLeaves).1.requestStop with
  | .ok e => e
  | .error _ => engine

/-- The other one stops as well. -/
def lastLeaves : List Action := [turnOf 1 [controlToken] (.ok 0), .leave 1]

end Sample

/-- Where both workers were stopped early the shutdown fails, and two reports are lost. Where one of
them was, it hands back two. -/
theorem Engine.shutdown_reports_unless_all_left_two_workers :
    let e₁ := (Sample.engine.applyAll Sample.bothLeave).1
    let e₂ := (Sample.lastWorker.applyAll Sample.lastLeaves).1
    Engine.start Sample.setup.addresses Sample.setup.payload Sample.options {} =
        ⟨Sample.engine, none, [.told (.usingCpus 2)]⟩ ∧
      e₁.requestStop = .error (.controlChannel .brokenPipe) ∧
      (∃ reports, e₁.collect = some (.ok reports) ∧ reports.length = 2 ∧ e₁.Accounts reports) ∧
      (Sample.engine.applyAll Sample.oneLeaves).1.requestStop = .ok Sample.lastWorker ∧
      ∃ reports, e₂.collect = some (.ok reports) ∧ reports.length = 2 ∧ e₂.Accounts reports := by
  intro e₁ e₂
  obtain ⟨hrefused, hreports, -⟩ := shutdown_reports_unless_all_left Sample.start_engine
    Sample.calm_engine Sample.bothLeave (polls_of_all rfl)
  obtain ⟨-, -, hpassed⟩ := shutdown_reports_unless_all_left Sample.start_engine
    Sample.calm_engine Sample.oneLeaves (polls_of_all rfl)
  have hgone : ∀ m ∈ e₁.crew, m.isRunning = false := by
    have hall : e₁.crew.all (fun m => !m.isRunning) = true := rfl
    simpa using hall
  have hasked : (Sample.engine.applyAll Sample.oneLeaves).1.requestStop = .ok Sample.lastWorker :=
    rfl
  -- both workers have exited by then, so the wait is over
  have hresult : ∃ result, e₂.collect = some result := ⟨_, rfl⟩
  obtain ⟨result, hresult⟩ := hresult
  obtain ⟨reports, rfl, htwo, haccounts⟩ :=
    hpassed Sample.lastWorker hasked Sample.lastLeaves (polls_of_all rfl) result hresult
  exact ⟨Sample.start_engine, (hrefused _).mpr ⟨by decide, hgone, rfl⟩, (hreports hgone).2, hasked,
    reports, hresult, htwo, haccounts⟩

end LoadGenerator
