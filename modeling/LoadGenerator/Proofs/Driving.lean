/-
A load from its configuration to the reports.

While a load is driven its ramp writes one connect after the other, and the workers take turns at
them as they like. When it is over a byte for each worker follows, behind all that was asked for. A
worker stops where it reads such a byte, and there are no more of them than workers; so before the
last one of them has stopped, everything in front was read, and the attempts of all workers together
are what the ramp has asked for.

* **`Engine.Driven`** — an engine while a load is driven, with all that was written and done;
* **`Engine.exists_driven_of_drive`** — the driver of the program is one such course;
* **`Engine.Driven.orderly`** — what was written are the connects of the ramp, and nothing else;
* **`Engine.Orderly.attempts`** — what the reports say after connects and stops;
* **`Load.dials_what_is_due`** — the ramp, the pipe and the reports together.
-/
import LoadGenerator.Proofs.Ramping
import LoadGenerator.Proofs.Reports
import LoadGenerator.Session.Drive

namespace LoadGenerator

/-- What workers do of their own accord: a turn, or the end of a thread. -/
def Action.isWork : Action → Bool
  | .turn .. | .leave _ => true
  | .write _ | .closeWriter => false

/-- The events that a load hears. A word to stop that was not sent is not heard, and signals are
heard of in no other way. -/
def Watch.heard (w : Watch) : List SessionEvent → List RampEvent
  | [] => []
  | .signal :: rest => (w.step .signal).1.heard rest
  | .ramp e :: rest =>
    if e = .stop ∧ w.stopIsReady = false then w.heard rest else e :: w.heard rest

namespace Engine

variable {load : Load} {e₀ e e' : Engine} {events : List RampEvent} {ramp : Ramp}
  {written bytes : List UInt8} {took : List (Nat × UInt8)} {acts : List Act} {stage : Stage}
  {reports : List WorkerReport}

/-! ### Work -/

theorem written_of_isWork {a : Action} (h : a.isWork = true) : e.written a = [] := by
  cases a with
  | write bytes => cases h
  | closeWriter => cases h
  | turn i answers => rfl
  | leave i => rfl

theorem writtenIn_of_isWork {actions : List Action} (h : ∀ a ∈ actions, a.isWork = true) :
    e.writtenIn actions = [] := by
  induction actions generalizing e with
  | nil => rfl
  | cons a rest ih =>
    obtain ⟨ha, hrest⟩ := List.forall_mem_cons.mp h
    rw [writtenIn, written_of_isWork ha, ih hrest]
    rfl

theorem applyAll_append (e : Engine) (actions more : List Action) :
    e.applyAll (actions ++ more) =
      (((e.applyAll actions).1.applyAll more).1,
        (e.applyAll actions).2 ++ ((e.applyAll actions).1.applyAll more).2) := by
  induction actions generalizing e with
  | nil => rfl
  | cons a rest ih =>
    simp only [List.cons_append, applyAll, ih, List.append_assoc]

/-- The outcome of what workers do of their own accord. -/
def Works (e : Engine) (result : Engine × List Act) : Prop :=
  ∃ actions : List Action, (∀ a ∈ actions, a.isWork = true) ∧ e.applyAll actions = result

theorem Works.refl (e : Engine) : e.Works (e, []) := ⟨[], by simp, rfl⟩

theorem Works.trans {result last : Engine × List Act} (h : e.Works result)
    (h' : result.1.Works last) : e.Works (last.1, result.2 ++ last.2) := by
  obtain ⟨actions, hwork, rfl⟩ := h
  obtain ⟨more, hmore, rfl⟩ := h'
  exact ⟨actions ++ more, List.forall_mem_append.mpr ⟨hwork, hmore⟩, applyAll_append e actions more⟩

theorem works_apply (e : Engine) {a : Action} (h : a.isWork = true) : e.Works (e.apply a) :=
  ⟨[a], by simpa using h, by simp [applyAll]⟩

theorem works_turnAndLeave (e : Engine) (i : Nat) : e.Works (e.turnAndLeave i) := by
  unfold turnAndLeave
  cases hm : e.crew[i]? with
  | none => exact .refl e
  | some m =>
    have hturn := e.works_apply (a := .turn i (Host.turnAnswers m)) rfl
    exact hturn.trans (works_apply _ (a := .leave i) rfl)

theorem works_round (count i : Nat) (e : Engine) : e.Works (round count i e) := by
  induction count generalizing i e with
  | zero => exact .refl e
  | succ count ih => exact (e.works_turnAndLeave i).trans (ih (i + 1) _)

theorem works_rounds (count : Nat) (e : Engine) : e.Works (rounds count e) := by
  induction count generalizing e with
  | zero => exact .refl e
  | succ count ih => exact (works_round e.crew.length 0 e).trans (ih _)

theorem works_drain (e : Engine) : e.Works e.drain := works_rounds _ e

/-! ### Driving -/

/-- An engine while a load is driven, with the events that its ramp has seen, the ramp, and all that
was written and done. The workers act whenever they like, also before the ramp begins. -/
inductive Driven (load : Load) (e₀ : Engine) :
    List RampEvent → Ramp → List UInt8 → List Act → Engine → Prop
  | begun {early : Engine × List Act} {ramp : Ramp} {e : Engine} (hworks : e₀.Works early)
      (hramp : Ramp.start? load = some ramp) (hwrite : early.1.write ramp.commands = .ok e) :
      Driven load e₀ [] ramp ramp.commands early.2 e
  /-- An event moves the ramp on, and what it asks for is written. -/
  | moved {events : List RampEvent} {ramp : Ramp} {written : List UInt8} {acts : List Act}
      {e e' : Engine} (h : Driven load e₀ events ramp written acts e) (event : RampEvent)
      (hwrite : e.write (List.replicate ((ramp.step load.connections event).asked - ramp.asked)
        Command.connectByte) = .ok e') :
      Driven load e₀ (events ++ [event]) (ramp.step load.connections event)
        (written ++ List.replicate ((ramp.step load.connections event).asked - ramp.asked)
          Command.connectByte) acts e'
  /-- A worker takes a turn, or its thread ends. -/
  | worked {events : List RampEvent} {ramp : Ramp} {written : List UInt8} {acts : List Act}
      {e : Engine} (h : Driven load e₀ events ramp written acts e) {a : Action}
      (hwork : a.isWork = true) :
      Driven load e₀ events ramp written (acts ++ (e.apply a).2) (e.apply a).1

theorem Driven.ramp_eq (h : e₀.Driven load events ramp written acts e) :
    ∃ first, Ramp.start? load = some first ∧ ramp = first.run load.connections events := by
  induction h with
  | begun _ hramp _ => exact ⟨_, hramp, rfl⟩
  | moved _ event _ ih =>
    obtain ⟨first, hfirst, rfl⟩ := ih
    exact ⟨first, hfirst, (Ramp.run_append _ _ _ [event]).symm⟩
  | worked _ _ ih => exact ih

theorem Driven.asked_eq (h : e₀.Driven load events ramp written acts e) :
    ramp.asked = load.due events := by
  obtain ⟨first, hfirst, rfl⟩ := h.ramp_eq
  exact Ramp.asked_run hfirst load.connections events

/-- **What was written are the connects that the ramp has asked for.** -/
theorem Driven.written_eq (h : e₀.Driven load events ramp written acts e) :
    written = List.replicate ramp.asked Command.connectByte := by
  induction h with
  | begun => rfl
  | moved _ event _ ih =>
    rw [ih, List.replicate_append_replicate,
      Nat.add_sub_cancel' (Ramp.asked_le_step load.connections _ event)]
  | worked _ _ ih => exact ih

theorem Driven.works (h : e₀.Driven load events ramp written acts e) {result : Engine × List Act}
    (hworks : e.Works result) :
    e₀.Driven load events ramp written (acts ++ result.2) result.1 := by
  obtain ⟨actions, hwork, rfl⟩ := hworks
  induction actions generalizing e acts with
  | nil => simpa [applyAll] using h
  | cons a rest ih =>
    obtain ⟨ha, hrest⟩ := List.forall_mem_cons.mp hwork
    have hlast := ih (h.worked ha) hrest
    rwa [List.append_assoc] at hlast

/-! ### The driver -/

theorem advance_cases {s next : Steering} {notices : List Notice} {ramp : Ramp}
    (h : s.advance ramp = .ok (next, notices)) :
    ∃ e', s.engine.write (List.replicate (ramp.asked - s.ramp.asked) Command.connectByte) = .ok e' ∧
      next.ramp = ramp ∧ next.engine = e'.drain.1 ∧ next.watch = s.watch := by
  unfold Steering.advance at h
  simp only at h
  split at h
  · cases h
  · next e' hwrite =>
    obtain ⟨rfl, -⟩ := Prod.mk.inj (Except.ok.inj h)
    exact ⟨e', hwrite, rfl, rfl, rfl⟩

/-- A step of the driver moves its ramp on by the event, if that is heard. -/
theorem Driven.step {s next : Steering} {notices : List Notice} {event : SessionEvent}
    (h : e₀.Driven load events s.ramp written acts s.engine)
    (hstep : s.step load event = .ok (next, notices)) :
    ∃ first written acts, e₀.Driven load (events ++ first) next.ramp written acts next.engine ∧
      ∀ rest, s.watch.heard (event :: rest) = first ++ next.watch.heard rest := by
  cases event with
  | signal =>
    obtain ⟨rfl, -⟩ := Prod.mk.inj (Except.ok.inj hstep)
    refine ⟨[], written, acts, ?_, fun _ => rfl⟩
    rwa [List.append_nil]
  | ramp event =>
    simp only [Steering.step] at hstep
    split at hstep
    -- deaf to the event: neither the ramp nor the engine has moved
    · next hdeaf =>
      obtain ⟨rfl, -⟩ := Prod.mk.inj (Except.ok.inj hstep)
      refine ⟨[], written, acts, ?_, fun rest => if_pos hdeaf⟩
      rwa [List.append_nil]
    · next hheard =>
      obtain ⟨e', hwrite, hramp, hengine, hwatch⟩ := advance_cases hstep
      -- what the ramp asks for is written, and the engine does its own work on it
      have hmoved := (h.moved event hwrite).works e'.works_drain
      rw [← hramp, ← hengine] at hmoved
      refine ⟨[event], _, _, hmoved, fun rest => ?_⟩
      rw [hwatch]
      exact if_neg hheard

theorem driven_of_goOn {s : Steering} (h : e₀.Driven load events s.ramp written acts s.engine)
    (session : List SessionEvent) (houtcome : (Drive.goOn load session s).outcome = .ok e) :
    ∃ first ramp written acts, e₀.Driven load (events ++ first) ramp written acts e ∧
      ramp.phase = .ended ∧ first <+: s.watch.heard session := by
  -- each step makes the course longer by what was heard
  induction session generalizing s events written acts with
  | nil =>
    unfold Drive.goOn at houtcome
    split at houtcome
    · cases houtcome
    · split at houtcome
      · next hended =>
        obtain rfl := Except.ok.inj houtcome
        exact ⟨[], s.ramp, written, acts, by rwa [List.append_nil], hended, List.nil_prefix⟩
      · cases houtcome
  | cons event rest ih =>
    unfold Drive.goOn at houtcome
    split at houtcome
    · cases houtcome
    · split at houtcome
      · next hended =>
        obtain rfl := Except.ok.inj houtcome
        exact ⟨[], s.ramp, written, acts, by rwa [List.append_nil], hended, List.nil_prefix⟩
      · simp only at houtcome
        split at houtcome
        · cases houtcome
        · next hstep =>
          obtain ⟨first, written, acts, hnext, hheard⟩ := h.step hstep
          obtain ⟨more, ramp, written, acts, hlast, hended, hmore⟩ := ih hnext houtcome
          rw [List.append_assoc] at hlast
          refine ⟨first ++ more, ramp, written, acts, hlast, hended, ?_⟩
          rw [hheard]
          exact (List.prefix_append_right_inj first).mpr hmore

/-- **The driver of the program is such a course**, which has come to its end when the driver is
done. The events that it has seen are the first of those that can be heard. -/
theorem exists_driven_of_drive {watch : Watch} {session : List SessionEvent}
    (h : (drive load e₀ watch session).outcome = .ok e) :
    ∃ events ramp written acts, e₀.Driven load events ramp written acts e ∧
      ramp.phase = .ended ∧ events <+: watch.heard session := by
  unfold drive at h
  split at h
  · cases h
  · next ramp hramp =>
    simp only at h
    split at h
    · cases h
    · next next notices hadvance =>
      obtain ⟨e', hwrite, hnext, hengine, hwatch⟩ := advance_cases hadvance
      rw [Nat.sub_zero] at hwrite
      -- the course begins with the commands that are due at once
      have hbegun : e₀.Driven load [] ramp ramp.commands [] e' := .begun (.refl e₀) hramp hwrite
      have hdriven := hbegun.works e'.works_drain
      rw [← hnext, ← hengine] at hdriven
      obtain ⟨first, ramp, written, acts, hlast, hended, hheard⟩ := driven_of_goOn hdriven session h
      rw [hwatch] at hheard
      exact ⟨_, ramp, written, acts, hlast, hended, hheard⟩

/-- What it has asked for is what is due under all events that can be heard, also those for which it
was done too early. -/
theorem driven_of_drive {watch : Watch} {session : List SessionEvent}
    (h : (drive load e₀ watch session).outcome = .ok e) :
    ∃ events ramp written acts, e₀.Driven load events ramp written acts e ∧
      ramp.phase = .ended ∧ load.due events = load.due (watch.heard session) := by
  obtain ⟨events, ramp, written, acts, hdriven, hended, rest, hheard⟩ := exists_driven_of_drive h
  refine ⟨events, ramp, written, acts, hdriven, hended, ?_⟩
  obtain ⟨r, hr, rfl⟩ := hdriven.ramp_eq
  rw [← hheard]
  exact (Ramp.due_append_of_atRest hr (.inr hended) rest).symm

/-! ### Order -/

theorem Orderly.works (h : Orderly stage written took acts e) (hstage : stage ≠ .hiring)
    {result : Engine × List Act} (hworks : e.Works result)
    (hpolls : ∀ a ∈ result.2, a.isPollFailure = false) :
    ∃ took, Orderly stage written took (acts ++ result.2) result.1 := by
  obtain ⟨actions, hwork, rfl⟩ := hworks
  have hall := h.applyAll hstage actions hpolls
  rw [writtenIn_of_isWork hwork, List.append_nil] at hall
  exact ⟨_, hall⟩

theorem Works.length_crew {result : Engine × List Act} (h : e.Works result) :
    result.1.crew.length = e.crew.length := by
  obtain ⟨actions, -, rfl⟩ := h
  exact length_crew_applyAll e actions

theorem apply_write (h : e.write bytes = .ok e') : e.apply (.write bytes) = (e', []) := by
  simp only [apply, h]

theorem Orderly.write (h : Orderly stage written took acts e) (hstage : stage ≠ .hiring)
    (hwrite : e.write bytes = .ok e') : Orderly stage (written ++ bytes) took acts e' := by
  have happly : e.applyAll [.write bytes] = (e', []) := by
    simp only [Engine.applyAll, apply_write hwrite, List.append_nil]
  have hwritten : e.writtenIn [.write bytes] = bytes := by
    simp only [writtenIn, Engine.written, hwrite, List.append_nil]
  have hreads : e.readsIn [.write bytes] = [] := rfl
  have hall := h.applyAll hstage [.write bytes] (by simp [happly])
  rwa [happly, hwritten, hreads, List.append_nil, List.append_nil] at hall

theorem length_crew_write (h : e.write bytes = .ok e') : e'.crew.length = e.crew.length := by
  have hlength := length_crew_apply e (.write bytes)
  rwa [apply_write h] at hlength

/-- Where there is no crew nothing can be written. -/
theorem Orderly.eq_nil_of_write (h : Orderly .started written took acts e)
    (hnone : e.crew.length = 0) (hwrite : e.write bytes = .ok e') : bytes = [] := by
  have hgone : ∀ m ∈ e.crew, m.isRunning = false := by
    simp [List.eq_nil_of_length_eq_zero hnone]
  rcases write_cases hwrite with ⟨hempty, -⟩ | ⟨-, hreaders, -⟩
  · exact hempty
  · exact absurd (h.readers_eq_zero_iff.mpr hgone) hreaders

theorem Driven.length_crew (h : e₀.Driven load events ramp written acts e) :
    e.crew.length = e₀.crew.length := by
  induction h with
  | begun hworks _ hwrite => exact (length_crew_write hwrite).trans hworks.length_crew
  | moved _ _ hwrite ih => exact (length_crew_write hwrite).trans ih
  | worked _ _ ih => exact (length_crew_apply _ _).trans ih

/-- While a load is driven an engine stays in good order. Without a crew nothing is written. -/
theorem Driven.orderly (h : e₀.Driven load events ramp written acts e)
    (h₀ : Orderly .started [] [] [] e₀) (hpolls : ∀ a ∈ acts, a.isPollFailure = false) :
    (∃ took, Orderly .started written took acts e) ∧ (e.crew.length = 0 → written = []) := by
  -- induction on the course; good order is what each of its three kinds of steps preserves
  induction h with
  | begun hworks _ hwrite =>
    obtain ⟨took, hearly⟩ := h₀.works nofun hworks hpolls
    refine ⟨⟨took, hearly.write nofun hwrite⟩, fun hnone => ?_⟩
    rw [length_crew_write hwrite] at hnone
    exact hearly.eq_nil_of_write hnone hwrite
  | moved _ _ hwrite ih =>
    obtain ⟨⟨took, hbefore⟩, hnothing⟩ := ih hpolls
    refine ⟨⟨took, hbefore.write nofun hwrite⟩, fun hnone => ?_⟩
    rw [length_crew_write hwrite] at hnone
    rw [hnothing hnone, hbefore.eq_nil_of_write hnone hwrite]
    rfl
  | worked _ hwork ih =>
    obtain ⟨hbefore, hafter⟩ := List.forall_mem_append.mp hpolls
    obtain ⟨⟨took, horder⟩, hnothing⟩ := ih hbefore
    refine ⟨horder.works nofun (works_apply _ hwork) hafter, fun hnone => ?_⟩
    rw [length_crew_apply] at hnone
    exact hnothing hnone

/-- Where nobody was told to stop a shutdown is not refused. -/
theorem Orderly.exists_requestStop (h : Orderly .started written took acts e)
    (hnone : written.count Command.terminateByte = 0) : ∃ e', e.requestStop = .ok e' := by
  cases hstop : e.requestStop with
  | ok e' => exact ⟨e', rfl⟩
  | error err =>
    obtain ⟨hsome, hgone, -⟩ := h.requestStop_eq_error_iff.mp hstop
    have hcount := h.length_le_count hgone
    omega

/-! ### The reports -/

theorem count_of_prefix_replicate {q : List UInt8} {n : Nat} {b c : UInt8}
    (h : q <+: List.replicate n b) (hne : c ≠ b) : q.count c = 0 :=
  List.count_eq_zero.mpr fun hmem => hne (List.eq_of_mem_replicate (h.subset hmem))

/-- What was read of connects with stops behind them holds all connects once it holds all stops. -/
theorem count_connect_of_prefix {q : List UInt8} {n count : Nat}
    (hq : q <+: List.replicate n Command.connectByte ++ List.replicate count Command.terminateByte)
    (hstops : q.count Command.terminateByte = count) (hnone : count = 0 → n = 0) :
    q.count Command.connectByte = n := by
  have hfirst : (List.replicate n Command.connectByte).count Command.connectByte = n :=
    List.count_replicate_self
  rcases List.prefix_or_prefix_of_prefix hq (List.prefix_append _ _) with hle | ⟨stops, rfl⟩
  · -- among the connects there is no stop, so none was to be read
    have hno : q.count Command.terminateByte = 0 := count_of_prefix_replicate hle (by decide)
    have hle := hle.sublist.count_le Command.connectByte
    have hzero := hnone (hstops.symm.trans hno)
    omega
  · have hbehind := (List.prefix_append_right_inj _).mp hq
    have hno : stops.count Command.connectByte = 0 :=
      count_of_prefix_replicate hbehind (by decide)
    rw [List.count_append, hfirst, hno, Nat.add_zero]

/-- **After connects and a stop for each worker the reports count the connects.** -/
theorem Orderly.attempts {n : Nat}
    (h : Orderly stage (List.replicate n Command.connectByte ++
      List.replicate e.crew.length Command.terminateByte) took acts e)
    (hnone : e.crew.length = 0 → n = 0) (hcollect : e.collect = some (.ok reports)) :
    total (reports.map WorkerReport.attempts) = n := by
  have hshared := h.life.provided.shared
  have hstops := h.count_terminate fun m hm => exited_of_collect hcollect hm
  -- every worker has exited, so the reports are the books of the crew
  have hattempts : total (reports.map WorkerReport.attempts) = total (e.duties.map Prod.snd) := by
    rw [h.books.reports_of_collect hcollect, duties, List.map_map, List.map_map]
    rfl
  rw [hattempts, hshared.attempts]
  exact count_connect_of_prefix hshared.consumed_prefix hstops hnone

/-- An engine that was asked for connections only can be shut down, and whatever its workers do
meanwhile, the reports count what was asked for. -/
theorem Orderly.shutdown {n : Nat}
    (h : Orderly .started (List.replicate n Command.connectByte) took acts e)
    (hnone : e.crew.length = 0 → n = 0) :
    ∃ e₁, e.requestStop = .ok e₁ ∧
      ∀ after : List Action, (∀ a ∈ after, a.isWork = true) →
        (∀ a ∈ (e₁.applyAll after).2, a.isPollFailure = false) →
        ∀ result, (e₁.applyAll after).1.collect = some result →
          ∃ reports, result = .ok reports ∧ reports.length = e.crew.length ∧
            total (reports.map WorkerReport.attempts) = n := by
  obtain ⟨e₁, hstop⟩ := h.exists_requestStop (count_of_prefix_replicate List.prefix_rfl (by decide))
  refine ⟨e₁, hstop, fun after hwork hpolls result hresult => ?_⟩
  have hlength : (e₁.applyAll after).1.crew.length = e.crew.length := by
    rw [length_crew_applyAll, length_crew_requestStop hstop]
  have howing : e.unstopped = (e₁.applyAll after).1.crew.length :=
    h.life.provided.owing.trans hlength.symm
  -- the stops are queued behind the connects, and the workers go on in good order
  have hlast := (h.requestStop hstop).applyAll nofun after hpolls
  rw [writtenIn_of_isWork hwork, List.append_nil, owed, howing] at hlast
  obtain ⟨reports, rfl⟩ := exists_reports_of_collectFrom hlast.staff.calm hresult
  refine ⟨reports, rfl, (hlast.accounts hresult).length.trans hlength, ?_⟩
  exact hlast.attempts (fun hzero => hnone (hlength.symm.trans hzero)) hresult

end Engine

/-- **A load dials what is due.** For every number of connections, and every rate that is zero or
has a period, there is a ramp that asks for what is due: for everything without a rate, and
otherwise for a connection with each tick before the first stop. After a stop it asks for nothing
more, and if the stop comes early the hold is skipped. The driver of the program writes a connect
for each connection that the ramp asks for, and so does any other course of events in which no write
fails. If then the engine is asked to stop, which is not refused, its workers take turns at the pipe
as they like, and no poll fails, what it hands back are the reports of all workers, whose attempts
add up to what was due. -/
theorem Load.dials_what_is_due (load : Load)
    (hrate : load.connectRate = 0 ∨ Ramp.period load.connectRate ≠ 0) :
    (∃ ramp, Ramp.start? load = some ramp ∧
      (∀ events, (ramp.run load.connections events).asked = load.due events) ∧
      ∀ before after,
        let stopped := ramp.run load.connections (before ++ .stop :: after)
        stopped.asked = (ramp.run load.connections before).asked ∧ stopped.phase = .ended ∧
        (load.due before < load.connections →
          ∀ p, p <+: before ++ .stop :: after →
            (ramp.run load.connections p).phase ≠ .holding)) ∧
    ∀ addresses payload options answers (e₀ : Engine) told,
      Engine.start addresses payload options answers = ⟨e₀, none, told⟩ →
      (∀ m ∈ e₀.crew, m.status ≠ .panicked) →
      (∀ watch session e, (drive load e₀ watch session).outcome = .ok e →
        ∃ events ramp written acts, e₀.Driven load events ramp written acts e ∧
          ramp.phase = .ended ∧ load.due events = load.due (watch.heard session)) ∧
      ∀ events ramp written acts e, e₀.Driven load events ramp written acts e →
        written = List.replicate (load.due events) Command.connectByte ∧
        ((∀ a ∈ acts, a.isPollFailure = false) →
          ∃ e₁, e.requestStop = .ok e₁ ∧
            ∀ after : List Action, (∀ a ∈ after, a.isWork = true) →
              (∀ a ∈ (e₁.applyAll after).2, a.isPollFailure = false) →
              ∀ result, (e₁.applyAll after).1.collect = some result →
                ∃ reports, result = .ok reports ∧
                  reports.length = options.workerCount answers.processors ∧
                  total (reports.map WorkerReport.attempts) = load.due events) := by
  refine ⟨?_, ?_⟩
  -- the ramp by itself
  · obtain ⟨ramp, hramp⟩ := Ramp.exists_start? hrate
    have hasked := Ramp.asked_run hramp load.connections
    refine ⟨ramp, hramp, hasked, fun before after => ⟨?_, ?_, fun hearly p hp => ?_⟩⟩
    · rw [hasked, hasked, load.due_append_stop]
    · exact Ramp.phase_run_stop load.connections ramp before after
    · exact Ramp.phase_ne_holding hramp hearly hp
  -- the ramp on an engine, which is in good order once it has started
  · intro addresses payload options answers e₀ told hstart hcalm
    have h₀ := Engine.orderly_of_start hstart hcalm
    refine ⟨fun watch session e hdrive => Engine.driven_of_drive hdrive, ?_⟩
    intro events ramp written acts e hdriven
    have hwritten : written = List.replicate (load.due events) Command.connectByte := by
      rw [hdriven.written_eq, hdriven.asked_eq]
    refine ⟨hwritten, fun hpolls => ?_⟩
    -- good order lasts as long as no poll fails, and so does what the pipe has taken
    obtain ⟨⟨took, horder⟩, hnothing⟩ := hdriven.orderly h₀ hpolls
    have hcount : e.crew.length = options.workerCount answers.processors :=
      hdriven.length_crew.trans (Engine.crew_of_start hstart).2
    rw [hwritten] at horder hnothing
    rw [← hcount]
    exact horder.shutdown fun hnone => by simpa using hnothing hnone

namespace Sample

/-- Three connections at the usual rate. -/
def load : Load := { connections := 3 }

theorem period_load : Ramp.period load.connectRate ≠ 0 := by decide +kernel

theorem start?_load : Ramp.start? load = some { phase := .pacing 3 } := by
  rw [Ramp.start?, if_neg (by decide), if_neg period_load]
  rfl

/-- The load listens, and the signal task is there. -/
def watch : Watch := { watching := true, channel := { listening := true } }

/-- A signal comes after two ticks. -/
def interrupted : List SessionEvent := [.ramp .tick, .ramp .tick, .signal, .ramp .stop]

/-- Each worker reads a connect as soon as there is one. -/
def dialEach : List Action :=
  [.write [Command.connectByte], turnOf 0 [controlToken] (.ok 0), .write [Command.connectByte],
    turnOf 1 [controlToken] (.ok 0)]

/-- The engine after that. -/
def dialing : Engine := (engine.applyAll dialEach).1

/-- The engine that is then asked to stop. -/
def closing : Engine :=
  match dialing.requestStop with
  | .ok e => e
  | .error _ => dialing

/-- Both workers stop, close what they have opened, and leave. -/
def closeBoth : List Action :=
  [turnOf 0 [controlToken, 1] (.ok 3), .leave 0, turnOf 1 [controlToken, 1] (.ok 3), .leave 1]

theorem driven_dialing :
    engine.Driven load [.tick, .tick, .stop] { phase := .ended, asked := 2 }
      [Command.connectByte, Command.connectByte] (engine.applyAll dialEach).2 dialing := by
  have hbegun : engine.Driven load [] { phase := .pacing 3 } [] [] engine :=
    .begun (.refl engine) start?_load rfl
  have hfirst := (hbegun.moved .tick rfl).worked (a := turnOf 0 [controlToken] (.ok 0)) rfl
  have hsecond := (hfirst.moved .tick rfl).worked (a := turnOf 1 [controlToken] (.ok 0)) rfl
  exact hsecond.moved .stop rfl

end Sample

/-- A load of three connections is stopped after two ticks. The driver asks for two; and where each
of two workers reads one of them, and both are stopped, their reports count two attempts. -/
theorem Load.dials_what_is_due_two_ticks :
    let driven := drive Sample.load Sample.engine Sample.watch Sample.interrupted
    let e := (Sample.closing.applyAll Sample.closeBoth).1
    Ramp.period Sample.load.connectRate ≠ 0 ∧
      Engine.start Sample.setup.addresses Sample.setup.payload Sample.options {} =
        ⟨Sample.engine, none, [.told (.usingCpus 2)]⟩ ∧
      (∃ events ramp written acts e, driven.outcome = .ok e ∧
        Sample.engine.Driven Sample.load events ramp written acts e ∧
        Sample.load.due events = 2) ∧
      Sample.dialing.requestStop = .ok Sample.closing ∧
      ∃ reports, e.collect = some (.ok reports) ∧ reports.length = 2 ∧
        total (reports.map WorkerReport.attempts) = 2 := by
  intro driven e
  obtain ⟨-, hengines⟩ := dials_what_is_due Sample.load (.inr Sample.period_load)
  obtain ⟨hdriver, hcourses⟩ := hengines _ _ _ _ _ _ Sample.start_engine Sample.calm_engine
  refine ⟨Sample.period_load, Sample.start_engine, ?_, rfl, ?_⟩
  · have hdone : driven.outcome.isOk = true := by decide +kernel
    cases houtcome : driven.outcome with
    | error _ =>
      rw [houtcome] at hdone
      cases hdone
    | ok e =>
      obtain ⟨events, ramp, written, acts, hdriven, -, hdue⟩ := hdriver _ _ e houtcome
      exact ⟨events, ramp, written, acts, e, rfl, hdriven, hdue⟩
  -- the same engine, closed by the two stops that its workers read
  · obtain ⟨-, hshutdown⟩ := hcourses _ _ _ _ _ Sample.driven_dialing
    obtain ⟨e₁, hstop, hreports⟩ := hshutdown (Engine.polls_of_all rfl)
    obtain rfl : Sample.closing = e₁ := Except.ok.inj hstop
    have hwork : ∀ a ∈ Sample.closeBoth, a.isWork = true := by
      simp [Sample.closeBoth, Sample.turnOf, Action.isWork]
    have hresult : ∃ result, e.collect = some result := ⟨_, rfl⟩
    obtain ⟨result, hresult⟩ := hresult
    obtain ⟨reports, rfl, htwo, htotal⟩ :=
      hreports Sample.closeBoth hwork (Engine.polls_of_all rfl) result hresult
    exact ⟨reports, hresult, htwo, htotal⟩

end LoadGenerator
