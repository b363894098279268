/-
The books of a whole engine, from its start to its shutdown.

What a worker has sent is in its total or on its live connections. Added up over the crew this holds
for the engine, and after a shutdown no connection is left to hold anything back.

* **`Engine.Balanced`** — the books of an engine in the course of its acts;
* **`Engine.Balanced.step`** — whatever happens, they stay balanced;
* **`Engine.reports_of_collect`** — what a shutdown hands back are the reports of the workers;
* **`Engine.bytes_and_connections_conserved`** — the books of workers, of their runs, and of an
  engine that is shut down in good order.
-/
import LoadGenerator.Proofs.Conservation
import LoadGenerator.Proofs.Crew

namespace LoadGenerator

/-- A worker told that its poll had failed. -/
def Act.isPollFailure : Act → Bool
  | told (.pollFailed ..) => true
  | _ => false

namespace Engine

variable {e e' : Engine} {acts more : List Act}

/-- The bytes sent by all workers together. -/
def sentSoFar (e : Engine) : Nat := total (e.crew.map fun m => m.worker.sentSoFar)

/-- The books of an engine: every byte was sent by a worker, and a member whose thread has ended
left the report of its worker, which was finished unless its poll had failed. -/
structure Balanced (acts : List Act) (e : Engine) : Prop where
  sound : ∀ m ∈ e.crew, m.worker.Sound ∧ m.worker.OpenExact
  sent : e.sentSoFar = tally Act.sent acts
  reported : ∀ m ∈ e.crew, ∀ r, m.status = .exited r →
    r = m.worker.report ∧ (m.worker.isFinished = true ∨ ∃ a ∈ acts, a.isPollFailure = true)

theorem Fresh.balanced (h : e.Fresh) : Balanced [] e where
  sound := fun m hm => ⟨(h.workers m hm).sound, (h.workers m hm).openExact⟩
  sent := total_map_eq_zero fun m hm => (h.workers m hm).sentSoFar
  reported := fun m hm r hr => by
    have hnone := h.statuses m hm
    simp [Member.report?, hr] at hnone

/-- A member that takes a step keeps its own books. -/
theorem Balanced.member (h : Balanced acts e) {m m' : Member} (hm : m ∈ e.crew)
    (hstep : m.Step more m') :
    (m'.worker.Sound ∧ m'.worker.OpenExact) ∧
      m'.worker.sentSoFar = m.worker.sentSoFar + tally Act.sent more ∧
      ∀ r, m'.status = .exited r → r = m'.worker.report ∧
        (m'.worker.isFinished = true ∨ ∃ a ∈ acts ++ more, a.isPollFailure = true) := by
  obtain ⟨hsound, hopen⟩ := h.sound m hm
  have hreach := hstep.reaches
  refine ⟨⟨hsound.reaches hreach, hopen.reaches hsound hreach⟩,
    (Worker.conserves_of_reaches hsound hreach).sent, ?_⟩
  have hold : ∀ r, m.status = .exited r → r = m.worker.report ∧
      (m.worker.isFinished = true ∨ ∃ a ∈ acts ++ more, a.isPollFailure = true) := fun r hr => by
    obtain ⟨hreport, hend⟩ := h.reported m hm r hr
    exact ⟨hreport, hend.imp_right fun ⟨a, ha, hfail⟩ => ⟨a, List.mem_append_left _ ha, hfail⟩⟩
  cases hstep with
  | idle => exact hold
  | worked _ hrun _ =>
    intro r hr
    have hr : m.status = .exited r := hr
    rw [hrun] at hr
    cases hr
  | ended _ _ hend =>
    intro r hr
    obtain rfl := MemberStatus.exited.inj hr
    refine ⟨rfl, hend.imp_right ?_⟩
    rintro ⟨i, err, hmem⟩
    exact ⟨_, List.mem_append_right _ hmem, rfl⟩

theorem Balanced.notified (h : Balanced acts e) (hcrew : e'.crew = e.crew.map Member.notify) :
    Balanced acts e' := by
  refine ⟨?_, ?_, ?_⟩
  · rw [hcrew, List.forall_mem_map]
    simpa using h.sound
  · rw [← h.sent, sentSoFar, hcrew, List.map_map]
    simp [sentSoFar, Function.comp_def]
  · rw [hcrew, List.forall_mem_map]
    simpa using h.reported

/-- **Whatever happens to an engine, its books stay balanced.** -/
theorem Balanced.step (h : Balanced acts e) (hstep : e.Step more e') :
    Balanced (acts ++ more) e' := by
  cases hstep with
  | quiet hcrew =>
    rw [List.append_nil]
    exact ⟨hcrew ▸ h.sound, by rw [← h.sent, sentSoFar, hcrew]; rfl, hcrew ▸ h.reported⟩
  | notified hcrew =>
    rw [List.append_nil]
    exact h.notified hcrew
  | moved hm hmember hcrew =>
    rename_i i m m'
    have hmem : m ∈ e.crew := List.mem_of_getElem? hm
    obtain ⟨hsound, hsent, hreported⟩ := h.member hmem hmember
    have hcases : ∀ n ∈ e'.crew, n ∈ e.crew ∨ n = m' := fun n hn =>
      List.mem_or_eq_of_mem_set (hcrew ▸ hn)
    refine ⟨fun n hn => ?_, ?_, fun n hn r hr => ?_⟩
    · rcases hcases n hn with hn | rfl
      · exact h.sound n hn
      · exact hsound
    · -- the sum over the crew grows by what this member sent
      have htotal := total_map_set hm m' fun m => m.worker.sentSoFar
      have hbefore := h.sent
      rw [sentSoFar] at hbefore
      rw [hsent, hbefore] at htotal
      rw [sentSoFar, hcrew, tally_append]
      omega
    · rcases hcases n hn with hn | rfl
      · obtain ⟨hreport, hend⟩ := h.reported n hn r hr
        exact ⟨hreport, hend.imp_right fun ⟨a, ha, hfail⟩ => ⟨a, List.mem_append_left _ ha, hfail⟩⟩
      · exact hreported r hr

theorem Balanced.applyAll (h : Balanced acts e) (actions : List Action) :
    Balanced (acts ++ (e.applyAll actions).2) (e.applyAll actions).1 := by
  induction actions generalizing e acts with
  | nil => simpa [Engine.applyAll] using h
  | cons a rest ih =>
    have hrest := ih (h.step (step_apply e a))
    rwa [List.append_assoc] at hrest

/-! ### Reports -/

theorem statuses_of_collectFrom {k : Nat} {crew : List Member} {reports : List WorkerReport}
    (h : collectFrom k crew = some (.ok reports)) :
    crew.map Member.status = reports.map .exited := by
  induction crew generalizing k reports with
  | nil =>
    obtain rfl : [] = reports := by simpa [collectFrom] using h
    rfl
  | cons m rest ih =>
    unfold collectFrom at h
    split at h
    · cases h
    · simp at h
    · next report hstatus =>
      split at h
      · next reports' hrest =>
        obtain rfl := Except.ok.inj (Option.some.inj h)
        rw [List.map_cons, List.map_cons, hstatus, ih hrest]
      · next hother => exact absurd h (hother _)

/-- Before a shutdown hands anything back, every thread has come to its end. -/
theorem exited_of_collect {reports : List WorkerReport} (h : e.collect = some (.ok reports))
    {m : Member} (hm : m ∈ e.crew) : ∃ r, m.status = .exited r := by
  have hstatuses : e.crew.map Member.status = reports.map .exited := statuses_of_collectFrom h
  have hexited : m.status ∈ reports.map MemberStatus.exited := hstatuses ▸ List.mem_map_of_mem hm
  obtain ⟨r, -, hr⟩ := List.mem_map.mp hexited
  exact ⟨r, hr.symm⟩

/-- What a shutdown hands back are the reports of the workers. -/
theorem Balanced.reports_of_collect (h : Balanced acts e) {reports : List WorkerReport}
    (hcollect : e.collect = some (.ok reports)) :
    reports = e.crew.map fun m => m.worker.report := by
  have hstatuses : e.crew.map Member.status = reports.map .exited :=
    statuses_of_collectFrom hcollect
  have hreports : e.crew.map Member.status = (e.crew.map fun m => m.worker.report).map .exited := by
    rw [List.map_map]
    refine List.map_congr_left fun m hm => ?_
    obtain ⟨r, hr⟩ := exited_of_collect hcollect hm
    rw [hr, Function.comp_apply, ← (h.reported m hm r hr).1]
  -- the statuses are those reports, and a status tells its report
  refine (List.map_inj_right (f := MemberStatus.exited) ?_).mp (hstatuses.symm.trans hreports)
  exact fun _ _ heq => MemberStatus.exited.inj heq

/-- After a shutdown in good order the reports account for every byte. -/
theorem Balanced.settled (h : Balanced acts e) {reports : List WorkerReport}
    (hcollect : e.collect = some (.ok reports)) (horderly : ∀ a ∈ acts, a.isPollFailure = false) :
    (∀ r ∈ reports, r.openConnections = 0) ∧
      total (reports.map WorkerReport.totalTransmitted) = tally Act.sent acts := by
  have hsettled : ∀ m ∈ e.crew, m.worker.openConnections = 0 ∧
      m.worker.totalTransmitted = m.worker.sentSoFar := fun m hm => by
    obtain ⟨r, hr⟩ := exited_of_collect hcollect hm
    rcases (h.reported m hm r hr).2 with hfinished | ⟨a, ha, hfail⟩
    · exact Worker.settled_of_isFinished (h.sound m hm).2 hfinished
    · -- no thread ended with its poll
      exact absurd hfail (by simp [horderly a ha])
  rw [h.reports_of_collect hcollect, ← h.sent]
  refine ⟨?_, ?_⟩
  · rw [List.forall_mem_map]
    exact fun m hm => (hsettled m hm).1
  · rw [List.map_map, sentSoFar]
    exact congrArg total (List.map_congr_left fun m hm => (hsettled m hm).2)

/-! ### All together -/

/-- **Bytes and connections are conserved.** At every moment of every run of a new worker its
counter of open connections is the length of its table, and so are the connections opened but not
closed; the bytes of its writes are those in its total and those on live connections, and the total
is what was folded in at the closes, each connection's bytes once. A run that ends with a finished
worker leaves nothing open and reports every byte. So do the reports of an engine, however its
workers took their turns, if it is asked to stop and no poll fails. -/
theorem bytes_and_connections_conserved :
    (∀ setup creation w₀, Worker.create setup creation = .ok w₀ →
      ∀ (os : List Worker.Operation) (more : List Act) (w : Worker),
      (w₀.performAll os).worker.Reaches more w →
      let acts := (w₀.performAll os).acts ++ more
      w.openConnections = w.connections.length ∧
      (∀ t c, w.connections.get? t = some c → 0 < w.openConnections) ∧
      w.openConnections + acts.countP Act.isClosing = acts.countP Act.isOpening ∧
      w.totalTransmitted + w.liveTransmitted = tally Act.sent acts ∧
      w.totalTransmitted = tally Act.folded acts ∧
      (∀ t i bytes cause, Act.closed t i bytes cause ∈ acts →
        bytes = tally (Act.sentOn t) acts ∧ acts.countP (Act.isCloseOf t) = 1) ∧
      ∀ answers, (w.run answers).ending = .finished →
        (w.run answers).worker.report.openConnections = 0 ∧
        (w.run answers).worker.report.totalTransmitted =
          tally Act.sent (acts ++ (w.run answers).acts)) ∧
    (∀ addresses payload options answers (e : Engine) told,
      Engine.start addresses payload options answers = ⟨e, none, told⟩ →
      ∀ (before after : List Action) (e' : Engine) (reports : List WorkerReport),
      (e.applyAll before).1.requestStop = .ok e' →
      (e'.applyAll after).1.collect = some (.ok reports) →
      let acts := (e.applyAll before).2 ++ (e'.applyAll after).2
      (∀ a ∈ acts, a.isPollFailure = false) →
      (∀ r ∈ reports, r.openConnections = 0) ∧
        total (reports.map WorkerReport.totalTransmitted) = tally Act.sent acts) := by
  refine ⟨?_, ?_⟩
  · intro setup creation w₀ hcreate os more w h acts
    have hw := Worker.fresh_of_create hcreate
    have hall : w₀.Reaches acts w := (Worker.reaches_performAll w₀ os).trans h
    have hopen := hw.openExact.reaches hw.sound hall
    have hconserves := Worker.conserves_of_reaches hw.sound hall
    have hconnections := hconserves.connections
    have hsent := hconserves.sent
    have hfolded := hconserves.folded
    rw [hw.connections, List.length_nil, Nat.zero_add, ← hopen] at hconnections
    rw [hw.sentSoFar, Nat.zero_add] at hsent
    rw [hw.totalTransmitted, Nat.zero_add] at hfolded
    refine ⟨hopen, fun t c hc => ?_, hconnections, hsent, hfolded,
      (Worker.recorded_of_reaches hw hall).closed, fun answers hfinished => ?_⟩
    · rw [hopen]
      exact List.length_pos_of_mem (Connections.mem_of_get? hc)
    · -- the run goes on where the operations and moves have stopped
      have hrun := hall.trans (Worker.reaches_run w answers)
      have hlast := (Worker.conserves_of_reaches hw.sound hrun).sent
      rw [hw.sentSoFar, Nat.zero_add] at hlast
      obtain ⟨hnone, htotal⟩ := Worker.settled_of_isFinished (hw.openExact.reaches hw.sound hrun)
        (Worker.isFinished_of_run hfinished)
      exact ⟨hnone, htotal.trans hlast⟩
  · intro addresses payload options answers e told hstart before after e' reports hstop hcollect
      acts horderly
    have hbefore := (crew_of_start hstart).1.balanced.applyAll before
    have hstopped := hbefore.step (step_requestStop hstop)
    have hafter := hstopped.applyAll after
    rw [List.nil_append, List.append_nil] at hafter
    exact hafter.settled hcollect horderly

end Engine

namespace Sample

/-- A connection is opened and sends two bytes. -/
def beforeStop : List Action :=
  [.write [Command.connectByte], turnOf 0 [controlToken] (.ok 0), turnOf 0 [1] (.ok 2)]

/-- The engine that was then asked to stop. -/
def stopped : Engine :=
  match (engine.applyAll beforeStop).1.requestStop with
  | .ok e => e
  | .error _ => engine

/-- Both workers stop and leave. -/
def afterStop : List Action :=
  [turnOf 0 [controlToken, 1] (.ok 3), .leave 0, turnOf 1 [controlToken] (.ok 3), .leave 1]

end Sample

/-- A worker that sends four bytes and stops; and two workers, one of which sends two bytes, that
are stopped. -/
theorem Engine.bytes_and_connections_conserved_sample :
    let w := (Sample.worker.performAll Sample.operations).worker
    let sent := tally Act.sent
      ((Sample.worker.performAll Sample.operations).acts ++ (w.run []).acts)
    let acts := (Sample.engine.applyAll Sample.beforeStop).2 ++
      (Sample.stopped.applyAll Sample.afterStop).2
    Worker.create Sample.setup {} = .ok Sample.worker ∧ (w.run []).ending = .finished ∧
      (w.run []).worker.report.totalTransmitted = sent ∧ sent = 4 ∧
      Engine.start Sample.setup.addresses Sample.setup.payload Sample.options {} =
        ⟨Sample.engine, none, [.told (.usingCpus 2)]⟩ ∧
      (∀ a ∈ acts, a.isPollFailure = false) ∧
      ∃ reports, (Sample.stopped.applyAll Sample.afterStop).1.collect = some (.ok reports) ∧
        total (reports.map WorkerReport.totalTransmitted) = tally Act.sent acts ∧
        tally Act.sent acts = 2 := by
  intro w sent acts
  obtain ⟨hworkers, hengines⟩ := bytes_and_connections_conserved
  obtain ⟨-, -, -, -, -, -, hrun⟩ := hworkers Sample.setup {} Sample.worker Sample.create_setup
    Sample.operations [] w .refl
  have hreport := (hrun [] rfl).2
  rw [List.append_nil] at hreport
  have horderly : ∀ a ∈ acts, a.isPollFailure = false := by
    have hall : acts.all (fun a => !a.isPollFailure) = true := rfl
    simpa using hall
  have hcollect : ∃ reports,
      (Sample.stopped.applyAll Sample.afterStop).1.collect = some (.ok reports) := ⟨_, rfl⟩
  obtain ⟨reports, hreports⟩ := hcollect
  have hengine := hengines _ _ _ _ _ _ Sample.start_engine Sample.beforeStop Sample.afterStop
    Sample.stopped reports rfl hreports horderly
  exact ⟨Sample.create_setup, rfl, hreport, rfl, Sample.start_engine, horderly, reports, hreports,
    hengine.2, rfl⟩

end LoadGenerator
