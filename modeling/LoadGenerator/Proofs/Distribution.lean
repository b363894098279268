/-
How commands are shared out among the workers.

All workers read one pipe, a byte at a time, in whatever order they happen to take their turns.
Still every byte is acted on by exactly one of them, and a byte that stops a worker stops that one
only.

* **`Engine.readsIn`**, **`Engine.writtenIn`** — who read which byte, and what was written, in the
  course of several actions;
* **`Engine.duties`** — what commands have made of the workers: who stops, and how many attempts
  each has made;
* **`Engine.Traffic`** — an action as the pipe and the duties see it;
* **`Engine.Distributed`** — the joint invariant of pipe, duties and what was written and read;
* **`Engine.commands_distributed_exactly`** — what follows for every interleaving.
-/
import LoadGenerator.Proofs.Crew
import LoadGenerator.Proofs.Duties

namespace LoadGenerator

/-- What commands have made of a worker: whether it stops, and how many attempts it has made. -/
def Member.duty (m : Member) : Bool × Nat := (m.worker.terminating, m.worker.report.attempts)

@[simp] theorem Member.duty_notify (m : Member) : m.notify.duty = m.duty := by
  rw [duty, worker_notify]
  rfl

namespace Engine

/-! ### What is written and read -/

/-- The bytes that an action puts into the pipe. -/
def written (e : Engine) : Action → List UInt8
  | .write bytes =>
    match e.write bytes with
    | .ok _ => bytes
    | .error _ => []
  | _ => []

/-- The bytes that are read in the course of an action, each with the worker that read it. -/
def reads (e : Engine) (a : Action) : List (Nat × UInt8) :=
  match a with
  | .turn i _ | .leave i => (bytesRead (e.apply a).2).map fun b => (i, b)
  | _ => []

/-- The bytes that several actions put into the pipe. -/
def writtenIn (e : Engine) : List Action → List UInt8
  | [] => []
  | a :: rest => e.written a ++ (e.apply a).1.writtenIn rest

/-- The bytes that are read in the course of several actions, each with the worker that read it. -/
def readsIn (e : Engine) : List Action → List (Nat × UInt8)
  | [] => []
  | a :: rest => e.reads a ++ (e.apply a).1.readsIn rest

/-- What commands have made of all workers, in order. -/
def duties (e : Engine) : List (Bool × Nat) := e.crew.map Member.duty

variable {e e' : Engine} {bytes : List UInt8} {took : List (Nat × UInt8)}

/-- An action as the pipe and the duties see it. -/
inductive Traffic (e : Engine) : List UInt8 → List (Nat × UInt8) → Engine → Prop
  /-- Nothing is written or read. -/
  | quiet {e' : Engine} (hpending : e'.pipe.pending = e.pipe.pending)
      (hreaders : e'.pipe.readers = e.pipe.readers) (hduties : e'.duties = e.duties) :
      Traffic e [] [] e'
  /-- A handle of the read end is closed. -/
  | left {e' : Engine} (hpipe : e'.pipe = e.pipe.closeReader) (hduties : e'.duties = e.duties) :
      Traffic e [] [] e'
  /-- Bytes are written, which somebody may still read. -/
  | written {bytes : List UInt8} {e' : Engine}
      (hpending : e'.pipe.pending = e.pipe.pending ++ bytes)
      (hreaders : e'.pipe.readers = e.pipe.readers) (hsome : bytes ≠ [] → e.pipe.readers ≠ 0)
      (hduties : e'.duties = e.duties) : Traffic e bytes [] e'
  /-- A worker reads the first byte and does what it says. -/
  | read {i n : Nat} {b : UInt8} {rest : List UInt8} {e' : Engine}
      (hpending : e.pipe.pending = b :: rest) (hrest : e'.pipe.pending = rest)
      (hreaders : e'.pipe.readers = e.pipe.readers) (hduty : e.duties[i]? = some (false, n))
      (hduties : e'.duties = e.duties.set i
        (decide (b = Command.terminateByte), n + if b = Command.connectByte then 1 else 0)) :
      Traffic e [] [(i, b)] e'

theorem duties_notify (crew : List Member) :
    (crew.map Member.notify).map Member.duty = crew.map Member.duty := by
  rw [List.map_map]
  exact List.map_congr_left fun m _ => m.duty_notify

theorem duties_getElem? {i : Nat} {m : Member} (hm : e.crew[i]? = some m) :
    e.duties[i]? = some (m.worker.terminating, m.worker.report.attempts) := by
  rw [duties, List.getElem?_map, hm]
  rfl

theorem duties_afterTurn (e : Engine) (i : Nat) (t : MemberTurn) :
    (e.afterTurn i t).duties =
      e.duties.set i (t.member.worker.terminating, t.member.worker.report.attempts) :=
  List.map_set

/-- What a member does at the pipe is traffic of its engine. -/
theorem traffic_of_member {i : Nat} {m : Member} (hm : e.crew[i]? = some m) {t : MemberTurn}
    (h : m.Traffic e.pipe t) :
    e.Traffic [] ((bytesRead t.acts).map fun b => (i, b)) (e.afterTurn i t) := by
  have hduty := duties_getElem? hm
  cases h with
  | steady h hpipe =>
    -- a steady member is put back with the duty it had
    have hsame : (e.afterTurn i t).duties = e.duties := by
      obtain ⟨hi, hget⟩ := List.getElem?_eq_some_iff.mp hduty
      rw [duties_afterTurn, h.terminating,
        show t.member.worker.report.attempts = m.worker.report.attempts from h.attempts, ← hget]
      exact List.set_getElem_self hi
    rw [h.reads]
    rcases hpipe with hpipe | hpipe
    · exact .quiet (congrArg _ hpipe) (congrArg _ hpipe) hsame
    · exact .left hpipe hsame
  | read hpending hpipe h =>
    rw [h.reads]
    rw [h.unstopped] at hduty
    have hpipe : (e.afterTurn i t).pipe = _ := hpipe
    refine .read hpending (by rw [hpipe]) (by rw [hpipe]) hduty ?_
    rw [duties_afterTurn, h.terminating, show t.member.worker.report.attempts =
      m.worker.report.attempts + _ from h.attempts]

/-- A write that is not refused adds its bytes to the pipe, and leaves the duties alone. -/
theorem pipe_of_write (h : e.write bytes = .ok e') :
    e.pipe.write bytes = .ok e'.pipe ∧ e'.duties = e.duties := by
  unfold write at h
  split at h
  · cases h
  · next pipe hpipe =>
    rw [hpipe]
    split at h
    · rw [← Except.ok.inj h]
      exact ⟨rfl, rfl⟩
    · rw [← Except.ok.inj h]
      exact ⟨rfl, duties_notify e.crew⟩

theorem traffic_write (e : Engine) (bytes : List UInt8) :
    e.Traffic (e.written (.write bytes)) [] (e.apply (.write bytes)).1 := by
  cases h : e.write bytes with
  | error _ =>
    simp only [written, apply, h]
    exact .quiet rfl rfl rfl
  | ok e' =>
    obtain ⟨hpipe, hduties⟩ := pipe_of_write h
    -- with nobody to read it, a write of something would have been refused
    have hsome : bytes ≠ [] → e.pipe.readers ≠ 0 := fun hne hnone => by
      have herror := ControlPipe.write_eq_error_iff.mpr ⟨hne, hnone, rfl⟩
      rw [hpipe] at herror
      cases herror
    simp only [written, apply, h]
    exact .written (ControlPipe.pending_of_write hpipe) (ControlPipe.readers_of_write hpipe) hsome
      hduties

/-- **Every action is traffic.** -/
theorem traffic_apply (e : Engine) (a : Action) :
    e.Traffic (e.written a) (e.reads a) (e.apply a).1 := by
  cases a with
  | write bytes => exact traffic_write e bytes
  | closeWriter =>
    unfold apply closeWriter
    simp only
    split
    · exact .quiet rfl rfl (duties_notify e.crew)
    · exact .quiet rfl rfl rfl
  | turn i answers =>
    unfold reads
    cases hm : e.crew[i]? with
    | none =>
      simp only [apply_turn_of_none hm]
      exact .quiet rfl rfl rfl
    | some m =>
      simp only [apply_turn_of_some hm]
      exact traffic_of_member hm (m.traffic_turn e.pipe answers)
  | leave i =>
    unfold reads
    cases hm : e.crew[i]? with
    | none =>
      simp only [apply_leave_of_none hm]
      exact .quiet rfl rfl rfl
    | some m =>
      simp only [apply_leave_of_some hm]
      exact traffic_of_member hm (m.traffic_leave e.pipe)

/-! ### The invariant -/

/-- What was written, what was read and by whom, the pipe, and the duties fit together. What was
read comes before what is on its way; bytes are lost only when nobody is left to read. Each worker
has made as many attempts as it was asked for, and stops if it was told to, which nobody is told
twice. Unless the byte read last has stopped a worker, some worker goes on. -/
structure Distributed (written : List UInt8) (took : List (Nat × UInt8)) (e : Engine) : Prop where
  flow : ∃ lost, written = took.map Prod.snd ++ e.pipe.pending ++ lost ∧
    (lost ≠ [] → e.pipe.pending = [] ∧ e.pipe.readers = 0)
  owned : ∀ p ∈ took, p.1 < e.duties.length
  asked : ∀ i stops n, e.duties[i]? = some (stops, n) →
    took.count (i, Command.connectByte) = n ∧ took.count (i, Command.terminateByte) = stops.toNat
  attempts : total (e.duties.map Prod.snd) = (took.map Prod.snd).count Command.connectByte
  stopped : total (e.duties.map fun d => d.1.toNat) =
    (took.map Prod.snd).count Command.terminateByte
  last : took = [] ∨ (∃ before i, took = before ++ [(i, Command.terminateByte)]) ∨
    ∃ d ∈ e.duties, d.1 = false

theorem Fresh.distributed (h : e.Fresh) : Distributed [] [] e := by
  have hduties : ∀ d ∈ e.duties, d = (false, 0) := by
    intro d hd
    obtain ⟨m, hm, rfl⟩ := List.mem_map.mp hd
    rw [Member.duty, (h.workers m hm).terminating, (h.workers m hm).attempts]
  refine ⟨⟨[], by simp [h.pending], by simp⟩, by simp, ?_, ?_, ?_, .inl rfl⟩
  · intro i stops n hi
    obtain ⟨rfl, rfl⟩ := Prod.mk.inj (hduties _ (List.mem_of_getElem? hi))
    exact ⟨rfl, rfl⟩
  · exact total_map_eq_zero fun d hd => by rw [hduties d hd]
  · exact total_map_eq_zero fun d hd => by rw [hduties d hd]; rfl

/-- As far as duties go, nothing has changed. -/
theorem Distributed.of_duties_eq {written more : List UInt8} (h : Distributed written took e)
    (hduties : e'.duties = e.duties)
    (hflow : ∃ lost, written ++ more = took.map Prod.snd ++ e'.pipe.pending ++ lost ∧
      (lost ≠ [] → e'.pipe.pending = [] ∧ e'.pipe.readers = 0)) :
    Distributed (written ++ more) (took ++ []) e' := by
  rw [List.append_nil]
  refine ⟨hflow, ?_, ?_, ?_, ?_, ?_⟩ <;> rw [hduties]
  · exact h.owned
  · exact h.asked
  · exact h.attempts
  · exact h.stopped
  · exact h.last

theorem count_append_read (took : List (Nat × UInt8)) (i j : Nat) (b c : UInt8) :
    (took ++ [(i, b)]).count (j, c) = took.count (j, c) + if i = j ∧ b = c then 1 else 0 := by
  rw [List.count_append, List.count_singleton]
  simp

/-- A byte that is read falls to one worker, and changes no other. -/
theorem Distributed.read {written : List UInt8} (h : Distributed written took e) {i n : Nat}
    {b : UInt8} {rest : List UInt8} (hpending : e.pipe.pending = b :: rest)
    (hrest : e'.pipe.pending = rest) (hduty : e.duties[i]? = some (false, n))
    (hduties : e'.duties = e.duties.set i
      (decide (b = Command.terminateByte), n + if b = Command.connectByte then 1 else 0)) :
    Distributed written (took ++ [(i, b)]) e' := by
  obtain ⟨lost, hwritten, hlost⟩ := h.flow
  obtain ⟨hi, -⟩ := List.getElem?_eq_some_iff.mp hduty
  refine ⟨⟨lost, ?_, fun hne => ?_⟩, ?_, ?_, ?_, ?_, ?_⟩
  · rw [hwritten, hpending, hrest]
    simp
  · -- a byte was there to be read, so none was lost before
    rw [hpending] at hlost
    exact absurd (hlost hne).1 (by simp)
  · rw [hduties, List.length_set, List.forall_mem_append]
    exact ⟨h.owned, by simpa using hi⟩
  · intro j stops k hj
    rw [count_append_read, count_append_read]
    rw [hduties, List.getElem?_set] at hj
    by_cases hij : i = j
    · -- the reader was not told to stop before, so this is its first stop, if it is one
      subst hij
      obtain ⟨hconnect, hterminate⟩ := h.asked i false n hduty
      rw [if_pos rfl, if_pos hi] at hj
      obtain ⟨rfl, rfl⟩ := Prod.mk.inj (Option.some.inj hj)
      rw [hconnect, hterminate]
      by_cases hb : b = Command.terminateByte <;> simp [hb]
    · rw [if_neg hij] at hj
      simpa [hij] using h.asked j stops k hj
  · -- the attempts of the reader grow by one for a connect, all others stay
    have htotal := total_map_set hduty (decide (b = Command.terminateByte),
      n + if b = Command.connectByte then 1 else 0) Prod.snd
    rw [h.attempts] at htotal
    rw [hduties, List.map_append, List.count_append, List.map_singleton, List.count_singleton]
    simp only [beq_iff_eq]
    omega
  · have htotal := total_map_set hduty (decide (b = Command.terminateByte),
      n + if b = Command.connectByte then 1 else 0) fun d => d.1.toNat
    rw [h.stopped] at htotal
    rw [hduties, List.map_append, List.count_append, List.map_singleton, List.count_singleton]
    by_cases hb : b = Command.terminateByte
    · simpa [hb] using htotal
    · simpa [hb] using htotal
  · right
    by_cases hb : b = Command.terminateByte
    · exact .inl ⟨took, i, by rw [hb]⟩
    · -- a reader that was not told to stop goes on
      exact .inr ⟨_, hduties ▸ List.mem_set hi _, decide_eq_false hb⟩

theorem Distributed.traffic {written : List UInt8} (h : Distributed written took e)
    {more : List (Nat × UInt8)} (ht : e.Traffic bytes more e') :
    Distributed (written ++ bytes) (took ++ more) e' := by
  obtain ⟨lost, hwritten, hlost⟩ := h.flow
  cases ht with
  | quiet hpending hreaders hduties =>
    refine h.of_duties_eq hduties ⟨lost, ?_, ?_⟩
    · rw [List.append_nil, hpending]
      exact hwritten
    · rw [hpending, hreaders]
      exact hlost
  | left hpipe hduties =>
    refine h.of_duties_eq hduties ?_
    rw [List.append_nil, hpipe, ControlPipe.closeReader]
    by_cases hlast : e.pipe.readers ≤ 1
    · -- with the last reader the bytes on their way are lost
      refine ⟨e.pipe.pending ++ lost, ?_, fun _ => ⟨if_pos hlast, Nat.sub_eq_zero_of_le hlast⟩⟩
      rw [if_pos hlast, List.append_nil, ← List.append_assoc]
      exact hwritten
    · refine ⟨lost, ?_, fun hne => ?_⟩
      · rw [if_neg hlast]
        exact hwritten
      · have hnone := (hlost hne).2
        omega
  | written hpending hreaders hsome hduties =>
    refine h.of_duties_eq hduties ⟨lost, ?_, fun hne => ?_⟩
    · -- where something was lost before, nobody reads, and nothing was written
      by_cases hnone : lost = []
      · rw [hwritten, hpending, hnone]
        simp
      · have hbytes : bytes = [] := Decidable.by_contra fun hne => hsome hne (hlost hnone).2
        rw [hwritten, hpending, hbytes]
        simp
    · obtain ⟨hpending', hnone⟩ := hlost hne
      have hbytes : bytes = [] := Decidable.by_contra fun hne => hsome hne hnone
      rw [hpending, hreaders, hpending', hbytes]
      exact ⟨rfl, hnone⟩
  | read hpending hrest hreaders hduty hduties =>
    rw [List.append_nil]
    exact h.read hpending hrest hduty hduties

theorem Distributed.applyAll {written : List UInt8} (h : Distributed written took e)
    (actions : List Action) :
    Distributed (written ++ e.writtenIn actions) (took ++ e.readsIn actions)
      (e.applyAll actions).1 := by
  induction actions generalizing e written took with
  | nil => simpa [writtenIn, readsIn, Engine.applyAll] using h
  | cons a rest ih =>
    have hrest := ih (h.traffic (traffic_apply e a))
    rwa [List.append_assoc, List.append_assoc] at hrest

/-! ### Stopped workers -/

/-- A worker that stops has nothing to do with the traffic any more. -/
theorem Traffic.stopped (ht : e.Traffic bytes took e') {i n : Nat}
    (h : e.duties[i]? = some (true, n)) :
    e'.duties[i]? = some (true, n) ∧ ∀ p ∈ took, p.1 ≠ i := by
  cases ht with
  | quiet _ _ hduties => exact ⟨hduties ▸ h, by simp⟩
  | left _ hduties => exact ⟨hduties ▸ h, by simp⟩
  | written _ _ _ hduties => exact ⟨hduties ▸ h, by simp⟩
  | read _ _ _ hduty hduties =>
    rename_i j k b rest _ _ _
    have hne : j ≠ i := by
      rintro rfl
      simp [h] at hduty
    rw [hduties, List.getElem?_set_ne hne]
    exact ⟨h, by simpa using hne⟩

theorem notMem_readsIn_of_stopped {i n : Nat} (h : e.duties[i]? = some (true, n))
    (actions : List Action) : ∀ p ∈ e.readsIn actions, p.1 ≠ i := by
  induction actions generalizing e with
  | nil => simp [readsIn]
  | cons a rest ih =>
    obtain ⟨hduty, hreads⟩ := (traffic_apply e a).stopped h
    rw [readsIn, List.forall_mem_append]
    exact ⟨hreads, ih hduty⟩

theorem Traffic.length_duties (ht : e.Traffic bytes took e') :
    e'.duties.length = e.duties.length := by
  cases ht with
  | quiet _ _ hduties => rw [hduties]
  | left _ hduties => rw [hduties]
  | written _ _ _ hduties => rw [hduties]
  | read _ _ _ _ hduties => rw [hduties, List.length_set]

theorem length_duties_applyAll (e : Engine) (actions : List Action) :
    (e.applyAll actions).1.duties.length = e.duties.length := by
  induction actions generalizing e with
  | nil => rfl
  | cons a rest ih => exact (ih _).trans (traffic_apply e a).length_duties

/-! ### What is read is what the workers did -/

theorem reads_eq_bytesRead (e : Engine) (a : Action) :
    (e.reads a).map Prod.snd = bytesRead (e.apply a).2 := by
  have hlabels : ∀ (i : Nat) (bs : List UInt8), (bs.map fun b => (i, b)).map Prod.snd = bs :=
    fun i bs => by simp [Function.comp_def]
  cases a with
  | write bytes =>
    cases h : e.write bytes with
    | ok e' =>
      simp only [apply, h]
      rfl
    | error _ =>
      simp only [apply, h]
      rfl
  | closeWriter => rfl
  | turn i answers => exact hlabels i _
  | leave i => exact hlabels i _

theorem readsIn_eq_bytesRead (e : Engine) (actions : List Action) :
    (e.readsIn actions).map Prod.snd = bytesRead (e.applyAll actions).2 := by
  induction actions generalizing e with
  | nil => rfl
  | cons a rest ih =>
    rw [readsIn, List.map_append, reads_eq_bytesRead, ih]
    exact (bytesRead_append _ _).symm

/-! ### Stopping all workers -/

theorem countP_terminating (e : Engine) :
    e.crew.countP (fun m => m.worker.terminating) = total (e.duties.map fun d => d.1.toNat) := by
  unfold duties
  induction e.crew with
  | nil => rfl
  | cons m crew ih =>
    rw [List.countP_cons, ih, List.map_cons, List.map_cons, total_cons, Member.duty, Nat.add_comm]
    cases m.worker.terminating <;> rfl

/-- As many bytes that stop a worker were read as there are workers that stop. -/
theorem Distributed.count_terminate {written : List UInt8} (h : Distributed written took e) :
    (took.map Prod.snd).count Command.terminateByte =
      e.crew.countP fun m => m.worker.terminating := by
  rw [countP_terminating, h.stopped]

theorem Distributed.consumed_prefix {written : List UInt8} (h : Distributed written took e) :
    took.map Prod.snd <+: written := by
  obtain ⟨lost, hwritten, -⟩ := h.flow
  exact ⟨e.pipe.pending ++ lost, by rw [hwritten, List.append_assoc]⟩

/-- When all workers stop, the byte read last told one of them to. So no shorter beginning of what
was written has as many bytes that stop a worker. -/
theorem Distributed.shortest {written : List UInt8} (h : Distributed written took e)
    (hall : ∀ m ∈ e.crew, m.worker.terminating = true) {q : List UInt8} (hq : q <+: written)
    (hcount : e.crew.length ≤ q.count Command.terminateByte) : took.map Prod.snd <+: q := by
  have hstopped := h.count_terminate
  rw [List.countP_eq_length.mpr hall] at hstopped
  rcases h.last with rfl | ⟨before, i, rfl⟩ | ⟨d, hd, hgoes⟩
  · exact List.nil_prefix
  · rcases List.prefix_or_prefix_of_prefix h.consumed_prefix hq with hle | hle
    · exact hle
    · -- a beginning that ends before the last stop has one stop too few
      rw [List.map_append, List.map_singleton, List.count_append, List.count_singleton_self]
        at hstopped
      rw [List.map_append, List.map_singleton] at hle ⊢
      rcases List.prefix_concat_iff.mp hle with rfl | hshort
      · exact List.prefix_rfl
      · have hfew := hshort.sublist.count_le Command.terminateByte
        omega
  · obtain ⟨m, hm, rfl⟩ := List.mem_map.mp hd
    have hgoes : m.worker.terminating = false := hgoes
    rw [hall m hm] at hgoes
    cases hgoes

/-- **Commands are distributed exactly, in every interleaving.** Whatever is written to the pipe of
a started engine, and in whatever order its workers take their turns: the bytes read are a beginning
of those written, and each was read by one worker. That worker made an attempt for every byte that
asked for a connection, and stops if it read a byte that told it to, after which it reads nothing
any more. So the bytes of the one kind are the attempts of all workers, and those of the other the
workers that stop; and when all of them stop, what was read is the shortest beginning with a stop
for each of them. -/
theorem commands_distributed_exactly {addresses : Array SocketAddress} {payload : Payload}
    {options : EngineOptions} {answers : StartAnswers} {told : List Act}
    (hstart : Engine.start addresses payload options answers = ⟨e, none, told⟩)
    (actions : List Action) :
    let e' := (e.applyAll actions).1
    let written := e.writtenIn actions
    let took := e.readsIn actions
    let consumed := took.map Prod.snd
    e'.crew.length = options.workerCount answers.processors ∧
    consumed = bytesRead (e.applyAll actions).2 ∧
    consumed <+: written ∧
    (∀ p ∈ took, p.1 < e'.crew.length) ∧
    (∀ i m, e'.crew[i]? = some m →
      took.count (i, Command.connectByte) = m.worker.report.attempts ∧
      took.count (i, Command.terminateByte) = m.worker.terminating.toNat ∧
      (m.worker.terminating = true → ∀ more, ∀ p ∈ e'.readsIn more, p.1 ≠ i)) ∧
    consumed.count Command.terminateByte = e'.crew.countP (fun m => m.worker.terminating) ∧
    total (e'.crew.map fun m => m.worker.report.attempts) =
      consumed.count Command.connectByte ∧
    ((∀ m ∈ e'.crew, m.worker.terminating = true) →
      consumed.count Command.terminateByte = e'.crew.length ∧
      ∀ q, q <+: written → e'.crew.length ≤ q.count Command.terminateByte → consumed <+: q) := by
  intro e' written took consumed
  obtain ⟨hfresh, hlength⟩ := crew_of_start hstart
  have hd : Distributed written took e' := by simpa using hfresh.distributed.applyAll actions
  have hcrew : ∀ e : Engine, e.duties.length = e.crew.length := fun e => List.length_map _
  refine ⟨?_, readsIn_eq_bytesRead e actions, hd.consumed_prefix, ?_, fun i m hm => ?_,
    hd.count_terminate, ?_, fun hall => ⟨?_, fun q hq hcount => hd.shortest hall hq hcount⟩⟩
  · rw [← hcrew, length_duties_applyAll, hcrew, hlength]
  · rw [← hcrew]
    exact hd.owned
  · have hduty := duties_getElem? hm
    obtain ⟨hconnect, hterminate⟩ := hd.asked i _ _ hduty
    refine ⟨hconnect, hterminate, fun hstops more => ?_⟩
    rw [hstops] at hduty
    exact notMem_readsIn_of_stopped hduty more
  · rw [← hd.attempts, duties, List.map_map]
    rfl
  · rw [hd.count_terminate, List.countP_eq_length.mpr hall]

end Engine

namespace Sample

/-- Two workers take turns at five bytes: one reads a connect, the other its stop, and the first
another connect and its own stop. A connect is left over. -/
def interleaving : List Action :=
  [.write [Command.connectByte, Command.terminateByte], turnOf 0 [controlToken] (.ok 0),
    .write [Command.connectByte, Command.terminateByte, Command.connectByte],
    turnOf 1 [controlToken] (.ok 0), turnOf 0 [1] (.ok 2), turnOf 1 [controlToken] (.ok 0),
    turnOf 0 [2] (.error .tryAgain), turnOf 0 [controlToken] (.ok 0)]

end Sample

theorem Engine.commands_distributed_exactly_two_workers :
    let e' := (Sample.engine.applyAll Sample.interleaving).1
    let consumed := (Sample.engine.readsIn Sample.interleaving).map Prod.snd
    Engine.start Sample.setup.addresses Sample.setup.payload Sample.options {} =
        ⟨Sample.engine, none, [.told (.usingCpus 2)]⟩ ∧
      consumed = [99, 98, 99, 98] ∧ consumed <+: [99, 98, 99, 98, 99] ∧
      consumed.count Command.terminateByte = e'.crew.length ∧ e'.crew.length = 2 ∧
      total (e'.crew.map fun m => m.worker.report.attempts) =
        consumed.count Command.connectByte ∧
      ∀ q, q <+: [99, 98, 99, 98, 99] → 2 ≤ q.count Command.terminateByte → consumed <+: q := by
  intro e' consumed
  obtain ⟨hlength, -, hprefix, -, -, -, htotal, hall⟩ :=
    commands_distributed_exactly Sample.start_engine Sample.interleaving
  have hstopped : ∀ m ∈ e'.crew, m.worker.terminating = true := by
    have hevery : e'.crew.all (fun m => m.worker.terminating) = true := rfl
    simpa using hevery
  obtain ⟨hcount, hshortest⟩ := hall hstopped
  exact ⟨Sample.start_engine, rfl, hprefix, hcount, hlength, htotal, hshortest⟩

end LoadGenerator
