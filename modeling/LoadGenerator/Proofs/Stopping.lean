/-
Everybody who is to stop is told so.

A byte that stops a worker carries no address: whoever reads it stops. It may be mixed with other
commands, and with such bytes that were written earlier. Still one for each worker is enough, since
a worker that stops reads nothing any more: those that were read, whenever they were written, have
stopped as many workers, and those that are left are at least as many as the workers that go on.

* **`Engine.Provided.waiting_le`**, **`Engine.Provided.waiting_le_pending`** — the count, by what
  was written and read, and by what is on its way;
* **`Engine.terminate_tokens_suffice`** — the count along every life of an engine, and what follows
  for the reads of its workers.
-/
import LoadGenerator.Proofs.Supervision

namespace LoadGenerator

namespace Engine

variable {e e' : Engine} {written : List UInt8} {took : List (Nat × UInt8)} {stage : Stage}
  {system : ControlPipe → MemberAnswers → Prop}

/-- The number of workers that were not told to stop yet. -/
def waiting (e : Engine) : Nat := e.crew.countP fun m => !m.worker.terminating

/-- The number of those among them whose thread is still there. -/
def listening (e : Engine) : Nat := e.crew.countP fun m => m.isRunning && !m.worker.terminating

theorem listening_le_waiting (e : Engine) : e.listening ≤ e.waiting := by
  refine List.countP_mono_left fun m _ h => ?_
  rw [Bool.and_eq_true] at h
  exact h.2

theorem length_crew_eq (e : Engine) :
    e.crew.length = (e.crew.countP fun m => m.worker.terminating) + e.waiting := by
  rw [List.length_eq_countP_add_countP fun m : Member => m.worker.terminating, waiting]
  congr 2
  funext m
  simp

/-- Once nobody has a handle, no thread is left. -/
theorem Provided.isRunning_eq_false (h : Provided stage written took e) (hnone : e.pipe.readers = 0)
    {m : Member} (hm : m ∈ e.crew) : m.isRunning = false := by
  have hhandles := h.handles
  have hsum : m.isRunning.toNat ≤ e.threads := le_total_map hm fun m => m.isRunning.toNat
  cases hrun : m.isRunning with
  | false => rfl
  | true =>
    rw [hrun, Bool.toNat_true] at hsum
    omega

/-- Of the bytes that stop a worker, those that nobody has read are enough for the workers that go
on: each of the others has read one, and only one. -/
theorem Provided.waiting_le (h : Provided stage written took e) (htold : stage.told = true) :
    e.waiting + (took.map Prod.snd).count Command.terminateByte ≤
      written.count Command.terminateByte := by
  have hsupplied := h.supplied htold
  rw [e.length_crew_eq] at hsupplied
  rw [h.shared.count_terminate]
  omega

theorem Provided.waiting_le_pending (h : Provided stage written took e) (htold : stage.told = true)
    (hreaders : e.pipe.readers ≠ 0) :
    e.waiting ≤ e.pipe.pending.count Command.terminateByte := by
  have hcount := h.waiting_le htold
  -- bytes are lost only with the last handle, so what nobody has read is on its way
  obtain ⟨lost, hwritten, hlost⟩ := h.shared.flow
  have hnone : lost = [] := Decidable.by_contra fun hne => hreaders (hlost hne).2
  rw [hwritten, hnone, List.append_nil, List.count_append] at hcount
  omega

theorem Provided.listening_le_pending (h : Provided stage written took e)
    (htold : stage.told = true) : e.listening ≤ e.pipe.pending.count Command.terminateByte := by
  by_cases hreaders : e.pipe.readers = 0
  · have hzero : e.listening = 0 := by
      refine List.countP_eq_zero.mpr fun m hm => ?_
      rw [h.isRunning_eq_false hreaders hm]
      simp
    rw [hzero]
    exact Nat.zero_le _
  · exact Nat.le_trans e.listening_le_waiting (h.waiting_le_pending htold hreaders)

theorem Provided.exists_read (h : Provided stage written took e) (htold : stage.told = true)
    {m : Member} (hm : m ∈ e.crew) (hrun : m.isRunning = true)
    (hgoes : m.worker.terminating = false) :
    ∃ b rest, e.pipe.read = (.byte b, { e.pipe with pending := rest }) := by
  have hlistening : 0 < e.listening := by
    refine List.countP_pos_iff.mpr ⟨m, hm, ?_⟩
    rw [hrun, hgoes]
    rfl
  have hcount := h.listening_le_pending htold
  cases hpending : e.pipe.pending with
  | nil =>
    -- a listening worker accounts for a stop, so the pipe is not empty
    rw [hpending, List.count_nil] at hcount
    omega
  | cons b rest =>
    refine ⟨b, rest, ?_⟩
    rw [ControlPipe.read, hpending]

/-- **There is a terminate byte for every worker that still waits for one**, from the moment at
which a shutdown, a drop or a start that fails has written them, however the workers take their
turns and whatever was written before. So a worker that goes on always finds a byte to read, also
when the pipe was closed. Nothing is refused as long as a thread is left; and whoever has asked for
a stop writes nothing when it asks again or is dropped. -/
theorem terminate_tokens_suffice (system : ControlPipe → MemberAnswers → Prop) :
    (∀ addresses payload options answers (e : Engine) failure told,
      Engine.start addresses payload options answers = ⟨e, failure, told⟩ →
      (failure = none → Supervised system .started [] [] e) ∧
      (failure ≠ none → e.crew = [] ∨
        Supervised system .stopping (List.replicate e.crew.length Command.terminateByte) [] e)) ∧
    (∀ written took (e : Engine), Supervised system .started written took e →
      (∀ e', e.requestStop = .ok e' →
        Supervised system .stopping
          (written ++ List.replicate e.crew.length Command.terminateByte) took e' ∧
        e.abandon = e'.closeWriter) ∧
      (∀ err, e.requestStop = .error err → ∀ m ∈ e.crew, m.isRunning = false)) ∧
    ∀ stage written took (e : Engine), Supervised system stage written took e →
      stage.told = true →
      e.waiting + (took.map Prod.snd).count Command.terminateByte ≤
        written.count Command.terminateByte ∧
      (e.pipe.readers ≠ 0 → e.waiting ≤ e.pipe.pending.count Command.terminateByte) ∧
      e.listening ≤ e.pipe.pending.count Command.terminateByte ∧
      (∀ m ∈ e.crew, m.isRunning = true → m.worker.terminating = false →
        ∃ b rest, e.pipe.read = (.byte b, { e.pipe with pending := rest })) ∧
      e.requestStop = .ok e ∧ e.abandon = e.closeWriter := by
  refine ⟨?_, ?_, ?_⟩
  · intro addresses payload options answers e failure told hstart
    exact supervised_of_start hstart
  · intro written took e h
    have howing : e.unstopped = e.crew.length := h.provided.owing
    refine ⟨fun e' hstop => ⟨?_, abandon_of_requestStop hstop⟩, fun err hrefused m hm => ?_⟩
    · rw [← howing]
      exact h.stopped (.inl rfl) hstop
    -- a write is refused only for want of readers, and each running member is one
    · exact h.provided.isRunning_eq_false (readers_of_requestStop hrefused) hm
  · intro stage written took e h htold
    have hprovided := h.provided
    have howing := hprovided.owing
    rw [htold, if_pos rfl] at howing
    -- nothing is owed any more, so asking again writes nothing
    have hagain := requestStop_of_unstopped howing
    exact ⟨hprovided.waiting_le htold, hprovided.waiting_le_pending htold,
      hprovided.listening_le_pending htold, fun m hm => hprovided.exists_read htold hm, hagain,
      abandon_of_requestStop hagain⟩

end Engine

namespace Sample

/-- A worker is stopped early, and a connect is on its way. -/
def stopOne : List Action :=
  [.write [Command.terminateByte, Command.connectByte], turnOf 0 [controlToken] (.ok 0)]

/-- The engine that is then asked to stop. -/
def stopping : Engine :=
  match (engine.applyAll stopOne).1.requestStop with
  | .ok e => e
  | .error _ => engine

/-- The other worker reads the connect, and the pipe is closed. -/
def lastConnect : List Action := [turnOf 1 [controlToken] (.ok 0), .closeWriter]

/-- No thread is to be had for the second worker. -/
def noThread : StartAnswers where
  hire i := if i = 1 then { spawn := some .tryAgain } else {}

/-- What is left of the engine then. -/
def halfStarted : Engine := (Engine.start setup.addresses setup.payload options noThread).engine

end Sample

/-- One of two workers was stopped before, and the other has read a connect: there is still a byte
for it, and one too many. And where the second worker could not be had, there is a byte for the
first. -/
theorem Engine.terminate_tokens_suffice_two_workers :
    let e := (Sample.stopping.applyAll Sample.lastConnect).1
    (Engine.start Sample.setup.addresses Sample.setup.payload Sample.options {} =
        ⟨Sample.engine, none, [.told (.usingCpus 2)]⟩ ∧
      (Sample.engine.applyAll Sample.stopOne).1.requestStop = .ok Sample.stopping ∧
      e.pipe.writerOpen = false ∧ e.waiting = 1 ∧
      e.waiting ≤ e.pipe.pending.count Command.terminateByte ∧
      e.pipe.pending = [Command.terminateByte, Command.terminateByte] ∧
      (∃ b rest, e.pipe.read = (.byte b, { e.pipe with pending := rest })) ∧
      e.abandon = e.closeWriter) ∧
    Engine.start Sample.setup.addresses Sample.setup.payload Sample.options Sample.noThread =
        ⟨Sample.halfStarted, some (.spawn 1 .tryAgain), [.told (.usingCpus 2)]⟩ ∧
      Sample.halfStarted.listening = 1 ∧
      Sample.halfStarted.listening ≤
        Sample.halfStarted.pipe.pending.count Command.terminateByte := by
  intro e
  obtain ⟨hstart, hstop, hcounts⟩ := terminate_tokens_suffice fun _ _ => True
  refine ⟨?_, ?_⟩
  -- the system may answer as it likes here, so any turn will do
  · have hanything : ∀ actions : List Action, ∀ i answers, Action.turn i answers ∈ actions →
        ControlPipe → True := fun _ _ _ _ _ => trivial
    have hstarted := (hstart _ _ _ _ _ _ _ Sample.start_engine).1 rfl
    have hbefore := hstarted.applyAll nofun Sample.stopOne (hanything _)
    have hasked : (Sample.engine.applyAll Sample.stopOne).1.requestStop = .ok Sample.stopping := rfl
    have hafter := ((hstop _ _ _ hbefore).1 _ hasked).1.applyAll nofun Sample.lastConnect
      (hanything _)
    obtain ⟨-, hpending, -, hread, -, hdropped⟩ := hcounts _ _ _ _ hafter rfl
    have hworker : e.crew.any (fun m => m.isRunning && !m.worker.terminating) = true := by
      decide +kernel
    obtain ⟨m, hm, hgoes⟩ := List.any_eq_true.mp hworker
    rw [Bool.and_eq_true, Bool.not_eq_true'] at hgoes
    exact ⟨Sample.start_engine, hasked, by decide +kernel, by decide +kernel,
      hpending (by decide +kernel), by decide +kernel, hread m hm hgoes.1 hgoes.2, hdropped⟩
  · have hfailed : Engine.start Sample.setup.addresses Sample.setup.payload Sample.options
        Sample.noThread =
          ⟨Sample.halfStarted, some (.spawn 1 .tryAgain), [.told (.usingCpus 2)]⟩ := rfl
    have hone : Sample.halfStarted.listening = 1 := by decide +kernel
    -- the first worker is there, so the failed start was no empty one
    rcases (hstart _ _ _ _ _ _ _ hfailed).2 nofun with hnone | hlife
    · rw [listening, hnone] at hone
      cases hone
    · obtain ⟨-, -, hpending, -⟩ := hcounts _ _ _ _ hlife rfl
      exact ⟨hfailed, hone, hpending⟩

end LoadGenerator
