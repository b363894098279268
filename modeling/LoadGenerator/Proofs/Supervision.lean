/-
What a supervisor does in the life of an engine.

It hires workers, and holds a handle of the pipe's read end meanwhile. Then it lets go of the
handle, and the engine is started; or a worker cannot be had, and those already there are told to
stop before the handle is let go. A started engine is told to stop by its shutdown or when it is
dropped. All the while the workers take turns.

* **`Stage`** — how far the supervisor has come;
* **`Engine.Outcome`** — what an action makes of an engine;
* **`Engine.Supervised`** — an engine in the course of its life, with what was written and read;
* **`Engine.Provided`**, **`Engine.Supervised.provided`** — all along each thread has a handle of
  the read end, and for each worker the supervisor owes a terminate byte or has written one;
* **`Engine.supervised_of_start`** — every start is the beginning of such a life.
-/
import LoadGenerator.Proofs.Distribution

namespace LoadGenerator

/-- How far a supervisor has come. -/
inductive Stage where
  | hiring
  | started
  /-- A worker could not be had, and the others were told to stop. -/
  | failing
  /-- All workers were told to stop, and the supervisor has no handle of the read end any more. -/
  | stopping
  deriving DecidableEq, Repr

namespace Stage

/-- The workers were told to stop. -/
def told : Stage → Bool
  | failing | stopping => true
  | hiring | started => false

/-- The handles of the read end that the supervisor holds. -/
def handles : Stage → Nat
  | hiring | failing => 1
  | started | stopping => 0

end Stage

/-! ### Handles of the read end -/

theorem MemberAnswers.readers_readFrom (a : MemberAnswers) (pipe : ControlPipe) (w : Worker) :
    (a.readFrom pipe w).2.readers = pipe.readers := by
  rcases a.readFrom_cases pipe w with ⟨-, b, rest, -, hread⟩ | ⟨hpipe, -⟩
  · rw [hread]
  · rw [hpipe]

namespace Member

variable (m : Member) (pipe : ControlPipe)

@[simp] theorem isRunning_notify : m.notify.isRunning = m.isRunning :=
  congrArg (fun s => decide (s = MemberStatus.running)) m.status_notify

theorem readers_closeReader (h : true.toNat ≤ pipe.readers) :
    pipe.closeReader.readers + true.toNat = pipe.readers + false.toNat := by
  show pipe.readers - 1 + 1 = pipe.readers
  exact Nat.sub_add_cancel h

/-- A turn closes a handle exactly if it ends the thread. -/
theorem readers_turn (a : MemberAnswers) (h : m.isRunning.toNat ≤ pipe.readers) :
    (m.turn pipe a).pipe.readers + m.isRunning.toNat =
      pipe.readers + (m.turn pipe a).member.isRunning.toNat := by
  cases m.course_turn pipe a with
  | idle hmember hpipe _ => rw [hmember, hpipe]
  | ended hrun _ _ hmember hpipe _ =>
    rw [hmember, hpipe, hrun]
    exact readers_closeReader pipe (hrun ▸ h)
  | worked hmember hpipe _ =>
    rw [hmember, hpipe, a.readers_readFrom]
    rfl

theorem readers_leave (h : m.isRunning.toNat ≤ pipe.readers) :
    (m.leave pipe).pipe.readers + m.isRunning.toNat =
      pipe.readers + (m.leave pipe).member.isRunning.toNat := by
  unfold leave
  split
  · next hleaves =>
    rw [Bool.and_eq_true] at hleaves
    rw [hleaves.1] at h ⊢
    exact readers_closeReader pipe h
  · rfl

end Member

namespace Engine

variable {e e' : Engine} {written : List UInt8} {took : List (Nat × UInt8)} {acts : List Act}

/-- The number of threads that are still there. -/
def threads (e : Engine) : Nat := total (e.crew.map fun m => m.isRunning.toNat)

theorem threads_of_notified (h : e'.crew = e.crew.map Member.notify) : e'.threads = e.threads := by
  unfold threads
  rw [h, List.map_map]
  congr 1
  exact List.map_congr_left fun m _ => congrArg Bool.toNat m.isRunning_notify

theorem threads_append (e : Engine) (m : Member) (pipe : ControlPipe) (unstopped : Nat) :
    threads ⟨pipe, e.crew ++ [m], unstopped⟩ = e.threads + m.isRunning.toNat := by
  unfold threads
  rw [List.map_append, total_append]
  rfl

/-- A write that is not refused adds to the pipe and notifies the crew, unless there is nothing to
write. -/
theorem write_cases {bytes : List UInt8} (h : e.write bytes = .ok e') :
    bytes = [] ∧ e' = e ∨ bytes ≠ [] ∧ e.pipe.readers ≠ 0 ∧
      e' = { e with
        pipe := { e.pipe with pending := e.pipe.pending ++ bytes }
        crew := e.crew.map Member.notify } := by
  by_cases hempty : bytes = []
  · subst hempty
    exact .inl ⟨rfl, (Except.ok.inj h).symm⟩
  · right
    by_cases hnone : e.pipe.readers = 0
    · simp [write, ControlPipe.write, hempty, hnone] at h
    · refine ⟨hempty, hnone, ?_⟩
      simpa [write, ControlPipe.write, hempty, hnone] using h.symm

/-- What an action makes of an engine. -/
inductive Outcome (e : Engine) : Action → Engine → Prop
  | quiet (a : Action) : Outcome e a e
  /-- The pipe has changed, and the crew is notified. -/
  | notified (a : Action) (pipe : ControlPipe) (hreaders : pipe.readers = e.pipe.readers) :
      Outcome e a { e with pipe, crew := e.crew.map Member.notify }
  | turned {i : Nat} {m : Member} (hm : e.crew[i]? = some m) (answers : MemberAnswers) :
      Outcome e (.turn i answers) (e.afterTurn i (m.turn e.pipe answers))
  | left {i : Nat} {m : Member} (hm : e.crew[i]? = some m) :
      Outcome e (.leave i) (e.afterTurn i (m.leave e.pipe))

theorem outcome_apply (e : Engine) (a : Action) : e.Outcome a (e.apply a).1 := by
  cases a with
  | write bytes =>
    cases h : e.write bytes with
    | error _ =>
      simp only [apply, h]
      exact .quiet _
    | ok e' =>
      simp only [apply, h]
      rcases write_cases h with ⟨-, rfl⟩ | ⟨-, -, rfl⟩
      · exact .quiet _
      · exact .notified _ _ rfl
  | closeWriter =>
    show e.Outcome _ e.closeWriter
    unfold closeWriter
    split
    · exact .notified _ _ rfl
    · exact .quiet _
  | turn i answers =>
    cases hm : e.crew[i]? with
    | none =>
      rw [apply_turn_of_none hm]
      exact .quiet _
    | some m =>
      rw [apply_turn_of_some hm]
      exact .turned hm answers
  | leave i =>
    cases hm : e.crew[i]? with
    | none =>
      rw [apply_leave_of_none hm]
      exact .quiet _
    | some m =>
      rw [apply_leave_of_some hm]
      exact .left hm

theorem readers_afterTurn {i : Nat} {m : Member} (hm : e.crew[i]? = some m) {t : MemberTurn}
    (h : t.pipe.readers + m.isRunning.toNat = e.pipe.readers + t.member.isRunning.toNat) :
    (e.afterTurn i t).pipe.readers + e.threads = e.pipe.readers + (e.afterTurn i t).threads := by
  -- the sum over the crew changes by the part of this member
  have htotal : (e.afterTurn i t).threads + m.isRunning.toNat =
      e.threads + t.member.isRunning.toNat :=
    total_map_set hm t.member fun m => m.isRunning.toNat
  have hpipe : (e.afterTurn i t).pipe.readers = t.pipe.readers := rfl
  omega

/-- Handles are closed by threads that end, and by nothing else. -/
theorem readers_apply (e : Engine) (a : Action) (h : e.threads ≤ e.pipe.readers) :
    (e.apply a).1.pipe.readers + e.threads = e.pipe.readers + (e.apply a).1.threads := by
  have houtcome := outcome_apply e a
  generalize (e.apply a).1 = e' at houtcome ⊢
  cases houtcome with
  | quiet => rfl
  | notified _ pipe hreaders =>
    have hthreads : threads { e with pipe, crew := e.crew.map Member.notify } = e.threads :=
      threads_of_notified rfl
    rw [hthreads, hreaders]
  | turned hm answers =>
    -- a running member has a handle of its own, which is the one it may close
    have hone := le_total_map (List.mem_of_getElem? hm) fun m => m.isRunning.toNat
    exact readers_afterTurn hm (Member.readers_turn _ _ answers (Nat.le_trans hone h))
  | left hm =>
    have hone := le_total_map (List.mem_of_getElem? hm) fun m => m.isRunning.toNat
    exact readers_afterTurn hm (Member.readers_leave _ _ (Nat.le_trans hone h))

theorem unstopped_apply (e : Engine) (a : Action) : (e.apply a).1.unstopped = e.unstopped := by
  have h := outcome_apply e a
  generalize (e.apply a).1 = e' at h ⊢
  cases h <;> rfl

theorem length_crew_apply (e : Engine) (a : Action) :
    (e.apply a).1.crew.length = e.crew.length := by
  have hlength := (traffic_apply e a).length_duties
  simpa only [duties, List.length_map] using hlength

/-! ### Telling all workers to stop -/

/-- The bytes that the supervisor still owes. -/
def owed (e : Engine) : List UInt8 := List.replicate e.unstopped Command.terminateByte

/-- To ask for a stop is to write what is owed, and to owe it no longer. -/
theorem requestStop_eq (h : e.requestStop = .ok e') :
    e' = { (e.apply (.write e.owed)).1 with unstopped := 0 } ∧
      e.written (.write e.owed) = e.owed := by
  unfold requestStop at h
  split at h
  · next e₁ hwrite =>
    obtain rfl := Except.ok.inj h
    have hwrite : e.write e.owed = .ok e₁ := hwrite
    simp only [apply, written, hwrite]
    exact ⟨trivial, trivial⟩
  · cases h

/-- To ask for a stop closes no handle. -/
theorem readers_eq_of_requestStop (h : e.requestStop = .ok e') (hle : e.threads ≤ e.pipe.readers) :
    e'.pipe.readers + e.threads = e.pipe.readers + e'.threads := by
  obtain ⟨rfl, -⟩ := requestStop_eq h
  exact readers_apply e (.write e.owed) hle

theorem write_eq_error_iff {bytes : List UInt8} {err : SystemError} :
    e.write bytes = .error err ↔ bytes ≠ [] ∧ e.pipe.readers = 0 ∧ err = .brokenPipe := by
  rw [← ControlPipe.write_eq_error_iff]
  unfold write
  cases e.pipe.write bytes with
  | error _ => simp
  | ok pipe =>
    simp only [reduceCtorEq, iff_false]
    split <;> nofun

/-- To ask for a stop is refused exactly when somebody is to be told and no handle is left. -/
theorem requestStop_eq_error_iff {err : EngineError} :
    e.requestStop = .error err ↔
      e.unstopped ≠ 0 ∧ e.pipe.readers = 0 ∧ err = .controlChannel .brokenPipe := by
  have howed : e.owed ≠ [] ↔ e.unstopped ≠ 0 := by simp [owed]
  rw [← howed]
  unfold requestStop
  rw [show List.replicate e.unstopped Command.terminateByte = e.owed from rfl]
  -- a write is refused for want of readers, if it has bytes at all
  cases hwrite : e.write e.owed with
  | error failure =>
    obtain ⟨hne, hnone, rfl⟩ := write_eq_error_iff.mp hwrite
    simp [hne, hnone, eq_comm]
  | ok e₁ =>
    have hpassed : ¬(e.owed ≠ [] ∧ e.pipe.readers = 0) := by
      intro h
      rw [write_eq_error_iff.mpr ⟨h.1, h.2, rfl⟩] at hwrite
      cases hwrite
    simp only [reduceCtorEq, false_iff]
    exact fun h => hpassed ⟨h.1, h.2.1⟩

theorem readers_of_requestStop {err : EngineError} (h : e.requestStop = .error err) :
    e.pipe.readers = 0 :=
  (requestStop_eq_error_iff.mp h).2.1

theorem requestStop_of_unstopped (h : e.unstopped = 0) : e.requestStop = .ok e := by
  have hwrite : e.write (List.replicate e.unstopped Command.terminateByte) = .ok e := by
    rw [h]
    rfl
  simp only [requestStop, hwrite]
  rw [← h]

/-- A supervisor that is gone has asked for a stop and closed the pipe. -/
theorem abandon_of_requestStop (h : e.requestStop = .ok e') : e.abandon = e'.closeWriter := by
  unfold requestStop at h
  split at h
  · next e₁ hwrite =>
    obtain rfl := Except.ok.inj h
    simp only [abandon, queueTerminates, hwrite]
    unfold closeWriter
    simp only
    split <;> rfl
  · cases h

/-! ### The life of an engine -/

/-- An engine in the course of its life, with what was written to its pipe and who has read what.
The system answers the turns of the workers as it may. -/
inductive Supervised (system : ControlPipe → MemberAnswers → Prop) :
    Stage → List UInt8 → List (Nat × UInt8) → Engine → Prop
  | new : Supervised system .hiring [] [] {}
  | hired {written : List UInt8} {took : List (Nat × UInt8)} {e e' : Engine} {acts : List Act}
      {setup : WorkerSetup} {core : Option Nat} {answers : HireAnswers}
      (h : Supervised system .hiring written took e)
      (hhire : e.hire setup core answers = .ok (e', acts)) :
      Supervised system .hiring written took e'
  /-- Something happens. Before the engine is started nobody has its pipe to write to. -/
  | acted {stage : Stage} {written : List UInt8} {took : List (Nat × UInt8)} {e : Engine}
      (h : Supervised system stage written took e) (a : Action)
      (hwriter : stage = .hiring → e.written a = [])
      (hanswers : ∀ i answers, a = .turn i answers → system e.pipe answers) :
      Supervised system stage (written ++ e.written a) (took ++ e.reads a) (e.apply a).1
  | started {written : List UInt8} {took : List (Nat × UInt8)} {e : Engine}
      (h : Supervised system .hiring written took e) :
      Supervised system .started written took e.releaseReader
  | failed {written : List UInt8} {took : List (Nat × UInt8)} {e e' : Engine}
      (h : Supervised system .hiring written took e) (hstop : e.requestStop = .ok e') :
      Supervised system .failing (written ++ e.owed) took e'
  | released {written : List UInt8} {took : List (Nat × UInt8)} {e : Engine}
      (h : Supervised system .failing written took e) :
      Supervised system .stopping written took e.releaseReader
  /-- A shutdown asks for a stop, and so does a drop, which may come after a shutdown. -/
  | stopped {stage : Stage} {written : List UInt8} {took : List (Nat × UInt8)} {e e' : Engine}
      (h : Supervised system stage written took e) (hstage : stage = .started ∨ stage = .stopping)
      (hstop : e.requestStop = .ok e') :
      Supervised system .stopping (written ++ e.owed) took e'

variable {system : ControlPipe → MemberAnswers → Prop} {stage : Stage}

/-- Who is hired is new, and its thread has a handle unless it has panicked at once. -/
theorem hire_cases {setup : WorkerSetup} {core : Option Nat} {answers : HireAnswers}
    (h : e.hire setup core answers = .ok (e', acts)) :
    ∃ m : Member, Worker.create setup answers.creation = .ok m.worker ∧
      e' = { pipe := { e.pipe with readers := e.pipe.readers + m.isRunning.toNat }
             crew := e.crew ++ [m]
             unstopped := e.unstopped + 1 } := by
  unfold hire at h
  split at h
  · cases h
  · next w hcreate =>
    split at h
    · cases h
    · simp only at h
      -- a thread that panics at once has no handle, but its worker counts all the same
      split at h
      · obtain ⟨rfl, -⟩ := Prod.mk.inj (Except.ok.inj h)
        exact ⟨{ worker := w }, hcreate, rfl⟩
      · obtain ⟨rfl, -⟩ := Prod.mk.inj (Except.ok.inj h)
        exact ⟨{ worker := w, status := .panicked }, hcreate, rfl⟩

theorem Distributed.hire (h : Distributed written took e) (hreaders : e.pipe.readers ≠ 0)
    {setup : WorkerSetup} {core : Option Nat} {answers : HireAnswers}
    (hhire : e.hire setup core answers = .ok (e', acts)) : Distributed written took e' := by
  obtain ⟨m, hcreate, rfl⟩ := hire_cases hhire
  have hfresh := Worker.fresh_of_create hcreate
  have hduty : m.duty = (false, 0) := by rw [Member.duty, hfresh.terminating, hfresh.attempts]
  have hduties : ∀ pipe unstopped, duties ⟨pipe, e.crew ++ [m], unstopped⟩ =
      e.duties ++ [(false, 0)] := by
    intro pipe unstopped
    rw [duties, List.map_append, List.map_singleton, hduty]
    rfl
  obtain ⟨lost, hwritten, hlost⟩ := h.flow
  -- while a handle is left nothing was lost
  have hnone : lost = [] := Decidable.by_contra fun hne => hreaders (hlost hne).2
  refine ⟨⟨lost, hwritten, fun hne => absurd hnone hne⟩, ?_, ?_, ?_, ?_, ?_⟩
  · intro p hp
    have howned := h.owned p hp
    rw [hduties, List.length_append]
    omega
  · intro i stops n hi
    rw [hduties] at hi
    by_cases hnew : i < e.duties.length
    · rw [List.getElem?_append_left hnew] at hi
      exact h.asked i stops n hi
    · -- whoever has read something was there before
      obtain ⟨rfl, rfl⟩ : stops = false ∧ n = 0 := by
        rw [List.getElem?_append_right (Nat.le_of_not_lt hnew)] at hi
        simpa using List.mem_of_getElem? hi
      have hothers : ∀ b, took.count (i, b) = 0 := fun b =>
        List.count_eq_zero.mpr fun hmem => hnew (h.owned _ hmem)
      exact ⟨hothers _, hothers _⟩
  · rw [hduties, List.map_append, total_append, h.attempts]
    rfl
  · rw [hduties, List.map_append, total_append, h.stopped]
    rfl
  · rcases h.last with hnothing | hstop | ⟨d, hd, hgoes⟩
    · exact .inl hnothing
    · exact .inr (.inl hstop)
    · refine .inr (.inr ⟨d, ?_, hgoes⟩)
      rw [hduties]
      exact List.mem_append_left _ hd

/-- Every thread has a handle of the read end, and for every worker a terminate byte is owed or was
written. -/
structure Provided (stage : Stage) (written : List UInt8) (took : List (Nat × UInt8)) (e : Engine) :
    Prop where
  shared : Distributed written took e
  handles : e.threads + stage.handles ≤ e.pipe.readers
  owing : e.unstopped = if stage.told then 0 else e.crew.length
  supplied : stage.told = true → e.crew.length ≤ written.count Command.terminateByte
  calm : stage = .hiring → written = []

theorem Provided.hire (h : Provided .hiring written took e) {setup : WorkerSetup}
    {core : Option Nat} {answers : HireAnswers}
    (hhire : e.hire setup core answers = .ok (e', acts)) : Provided .hiring written took e' := by
  have hheld : e.threads + 1 ≤ e.pipe.readers := h.handles
  have hshared := h.shared.hire (by omega) hhire
  have howing : e.unstopped = e.crew.length := h.owing
  obtain ⟨m, -, rfl⟩ := hire_cases hhire
  refine ⟨hshared, ?_, ?_, nofun, h.calm⟩
  · rw [threads_append]
    show e.threads + m.isRunning.toNat + 1 ≤ e.pipe.readers + m.isRunning.toNat
    omega
  · show e.unstopped + 1 = (e.crew ++ [m]).length
    rw [howing, List.length_append, List.length_singleton]

theorem Provided.apply (h : Provided stage written took e) (a : Action)
    (hwriter : stage = .hiring → e.written a = []) :
    Provided stage (written ++ e.written a) (took ++ e.reads a) (e.apply a).1 where
  shared := h.shared.traffic (traffic_apply e a)
  handles := by
    have hbefore := h.handles
    have hchange := readers_apply e a (by omega)
    omega
  owing := by rw [unstopped_apply, length_crew_apply, h.owing]
  supplied := fun htold => by
    rw [length_crew_apply, List.count_append]
    exact Nat.le_add_right_of_le (h.supplied htold)
  calm := fun hhiring => by rw [h.calm hhiring, hwriter hhiring, List.append_nil]

theorem Provided.release {next : Stage} (h : Provided stage written took e)
    (hheld : stage.handles = 1) (hnext : next.handles = 0) (htold : next.told = stage.told) :
    Provided next written took e.releaseReader where
  shared := by
    have hleft : e.Traffic [] [] e.releaseReader := .left rfl rfl
    simpa using h.shared.traffic hleft
  handles := by
    have hbefore := h.handles
    have hthreads : e.releaseReader.threads = e.threads := rfl
    have hreaders : e.releaseReader.pipe.readers = e.pipe.readers - 1 := rfl
    omega
  owing := by
    rw [htold]
    exact h.owing
  supplied := by
    rw [htold]
    exact h.supplied
  calm := fun hhiring => by
    rw [hhiring] at hnext
    cases hnext

/-- The workers are told to stop. Whatever was on its way before, there is a byte for each. -/
theorem Provided.stop {next : Stage} (h : Provided stage written took e)
    (hheld : next.handles = stage.handles) (hnext : next.told = true)
    (hstop : e.requestStop = .ok e') : Provided next (written ++ e.owed) took e' := by
  -- the bytes are queued first, and then nobody is owed a stop any more
  obtain ⟨rfl, hwritten⟩ := requestStop_eq hstop
  have hdone := h.shared.traffic (traffic_apply e (.write e.owed))
  rw [hwritten, show e.reads (.write e.owed) = [] from rfl, List.append_nil] at hdone
  have hbefore := h.handles
  have hchange := readers_apply e (.write e.owed) (by omega)
  have hlength := length_crew_apply e (.write e.owed)
  generalize (e.apply (.write e.owed)).1 = e₁ at hdone hchange hlength ⊢
  have hthreads : ({ e₁ with unstopped := 0 } : Engine).threads = e₁.threads := rfl
  refine ⟨⟨hdone.flow, hdone.owned, hdone.asked, hdone.attempts, hdone.stopped, hdone.last⟩,
    ?_, ?_, fun _ => ?_, ?_⟩
  · rw [hheld, hthreads]
    show e₁.threads + stage.handles ≤ e₁.pipe.readers
    omega
  · rw [hnext]
    rfl
  · show e₁.crew.length ≤ _
    rw [hlength, List.count_append, owed, List.count_replicate_self, h.owing]
    -- who was told before is owed nothing, and the bytes written then are enough
    cases htold : stage.told with
    | false => exact Nat.le_add_left _ _
    | true => exact Nat.le_add_right_of_le (h.supplied htold)
  · rintro rfl
    cases hnext

/-- **Everybody is provided for, all through the life of an engine.** -/
theorem Supervised.provided (h : Supervised system stage written took e) :
    Provided stage written took e := by
  induction h with
  | new =>
    have hempty : Fresh {} := ⟨rfl, by simp, by simp⟩
    exact ⟨hempty.distributed, Nat.le_refl _, rfl, nofun, fun _ => rfl⟩
  | hired _ hhire ih => exact ih.hire hhire
  | acted _ a hwriter _ ih => exact ih.apply a hwriter
  | started _ ih => exact ih.release rfl rfl rfl
  | failed _ hstop ih => exact ih.stop rfl rfl hstop
  | released _ ih => exact ih.release rfl rfl rfl
  | stopped _ hstage hstop ih =>
    rcases hstage with rfl | rfl
    · exact ih.stop rfl rfl hstop
    · exact ih.stop rfl rfl hstop

/-- Every handle of the read end is that of a thread, or the supervisor's own. -/
theorem Supervised.readers_eq (h : Supervised system stage written took e) :
    e.pipe.readers = e.threads + stage.handles := by
  -- induction on the life: each step moves handles and threads by the same amount
  induction h with
  | new => rfl
  | hired _ hhire ih =>
    obtain ⟨m, -, rfl⟩ := hire_cases hhire
    rw [threads_append]
    show _ + m.isRunning.toNat = _
    rw [ih]
    exact Nat.add_right_comm ..
  | acted h a _ _ ih =>
    rename_i e _ _
    have hchange := readers_apply e a (by omega)
    omega
  | started _ ih => exact congrArg (· - 1) ih
  | failed _ hstop ih =>
    have hchange := readers_eq_of_requestStop hstop (by omega)
    have hkept : Stage.failing.handles = Stage.hiring.handles := rfl
    omega
  | released _ ih => exact congrArg (· - 1) ih
  | stopped _ hstage hstop ih =>
    have hchange := readers_eq_of_requestStop hstop (by omega)
    rcases hstage with rfl | rfl
    · have hkept : Stage.stopping.handles = Stage.started.handles := rfl
      omega
    · omega

/-! ### Starts -/

theorem Supervised.hireEach (h : Supervised system .hiring written took e)
    (setup : Nat → WorkerSetup) (core : Nat → Option Nat) (answers : Nat → HireAnswers)
    (count first : Nat) :
    Supervised system .hiring written took (hireEach setup core answers count first e).engine := by
  induction count generalizing e first with
  | zero => exact h
  | succ count ih =>
    unfold Engine.hireEach
    split
    · exact h
    · next hhire => exact ih (h.hired hhire) (first + 1)

theorem Supervised.exists_requestStop (h : Supervised system .hiring written took e) :
    ∃ e', e.requestStop = .ok e' := by
  cases hstop : e.requestStop with
  | ok e' => exact ⟨e', rfl⟩
  | error err =>
    -- the supervisor itself still has a handle
    have hheld : e.threads + 1 ≤ e.pipe.readers := h.provided.handles
    rw [readers_of_requestStop hstop] at hheld
    omega

theorem length_crew_requestStop (h : e.requestStop = .ok e') : e'.crew.length = e.crew.length := by
  rw [(requestStop_eq h).1]
  exact length_crew_apply e _

theorem Supervised.closed (h : Supervised system stage written took e) :
    Supervised system stage written took e.closeWriter := by
  have hacted := h.acted .closeWriter (fun _ => rfl) (by intro i answers hturn; cases hturn)
  have happly : (e.apply .closeWriter).1 = e.closeWriter := rfl
  have hwritten : e.written .closeWriter = [] := rfl
  have hreads : e.reads .closeWriter = [] := rfl
  rwa [happly, hwritten, hreads, List.append_nil, List.append_nil] at hacted

theorem Supervised.applyAll (h : Supervised system stage written took e) (hstage : stage ≠ .hiring)
    (actions : List Action)
    (hanswers : ∀ i answers, .turn i answers ∈ actions → ∀ pipe, system pipe answers) :
    Supervised system stage (written ++ e.writtenIn actions) (took ++ e.readsIn actions)
      (e.applyAll actions).1 := by
  induction actions generalizing e written took with
  | nil => simpa [writtenIn, readsIn, Engine.applyAll] using h
  | cons a rest ih =>
    have hfirst := h.acted a (fun hhiring => absurd hhiring hstage) fun i answers ha =>
      hanswers i answers (ha ▸ List.mem_cons_self) e.pipe
    have hrest := ih hfirst fun i answers hmem => hanswers i answers (List.mem_cons_of_mem _ hmem)
    rwa [List.append_assoc, List.append_assoc] at hrest

/-- A start is given up: the workers are told to stop, the pipe is closed, and at last the
supervisor lets go of its handle. -/
theorem Supervised.giveUp (h : Supervised system .hiring [] [] e) :
    Supervised system .stopping
      (List.replicate e.abandon.releaseReader.crew.length Command.terminateByte) []
      e.abandon.releaseReader := by
  obtain ⟨e', hstop⟩ := h.exists_requestStop
  have hclosed := (h.failed hstop).closed.released
  rw [List.nil_append, owed] at hclosed
  have howing : e.unstopped = e.crew.length := h.provided.owing
  have hlength : e.crew.length = e.abandon.releaseReader.crew.length := by
    rw [abandon_of_requestStop hstop, ← length_crew_requestStop hstop]
    exact (length_crew_apply e' .closeWriter).symm
  rw [← hlength, ← howing, abandon_of_requestStop hstop]
  exact hclosed

/-- **A start is the beginning of such a life.** If it fails once there is a pipe, the workers that
were hired have been told to stop. -/
theorem supervised_of_start {addresses : Array SocketAddress} {payload : Payload}
    {options : EngineOptions} {answers : StartAnswers} {failure : Option EngineError}
    {told : List Act} (h : Engine.start addresses payload options answers = ⟨e, failure, told⟩) :
    (failure = none → Supervised system .started [] [] e) ∧
    (failure ≠ none → e.crew = [] ∨
      Supervised system .stopping (List.replicate e.crew.length Command.terminateByte) [] e) := by
  unfold start at h
  split at h
  · obtain ⟨rfl, rfl, -⟩ := Start.mk.inj h
    exact ⟨nofun, fun _ => .inl rfl⟩
  · split at h
    · obtain ⟨rfl, rfl, -⟩ := Start.mk.inj h
      exact ⟨nofun, fun _ => .inl rfl⟩
    · obtain ⟨hengine, rfl, -⟩ := Start.mk.inj h
      have hnew : Supervised system .hiring [] [] {} := .new
      -- the hiring is the same whether it succeeds or not; only its end differs
      have hhired := hnew.hireEach
        (fun index => { index, addresses, payload, maxEvents := options.maxEvents })
        (options.core? answers.processors) answers.hire (options.workerCount answers.processors) 0
      constructor
      · intro hnone
        simp only [hnone] at hengine
        exact hengine ▸ hhired.started
      · intro hsome
        obtain ⟨err, herr⟩ := Option.ne_none_iff_exists'.mp hsome
        simp only [herr] at hengine
        exact .inr (hengine ▸ hhired.giveUp)

end Engine

end LoadGenerator
