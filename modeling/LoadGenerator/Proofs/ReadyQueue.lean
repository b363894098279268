/-
The queue of ready connections, and what one turn makes of it.

A connection is in the queue exactly when its flag says so, and never twice. So a turn serves each
connection that was waiting, or that the poll has just reported, exactly once.

* **`Worker.Queued`** — the queue agrees with the flags, and nothing is left of the last batch;
* **`Worker.due`** — the connections that a turn has to serve, given the events of its poll;
* **`Worker.Heard`** — what a command does to queue and connections;
* **`Worker.Course`**, **`Worker.course_turn`** — the course of a turn: events, a command, services;
* **`Worker.ready_served_once`** — the queue along every run, and every turn that comes to its end.
-/
import LoadGenerator.Proofs.Frame
import LoadGenerator.Proofs.Service
import LoadGenerator.Proofs.Tokens

namespace LoadGenerator

/-- A part of a list without repetitions is what is left when all else is dropped. -/
theorem filter_mem_eq_of_sublist {l ts : List Token} (h : l.Sublist ts) (hts : ts.Nodup) :
    ts.filter (fun t => t ∈ l) = l := by
  induction h with
  | slnil => rfl
  | cons t hsub ih =>
    obtain ⟨ht, hts⟩ := List.nodup_cons.mp hts
    have hl := fun hmem => ht (hsub.subset hmem)
    rw [List.filter_cons_of_neg (by simpa using hl)]
    exact ih hts
  | cons_cons t hsub ih =>
    obtain ⟨ht, hts⟩ := List.nodup_cons.mp hts
    rw [List.filter_cons_of_pos (by simp)]
    congr 1
    refine (List.filter_congr ?_).trans (ih hts)
    intro s hs
    -- the list has no repetitions, so the first element is not among the others
    have hne : s ≠ t := fun heq => ht (heq ▸ hs)
    simp [hne]

namespace Worker

variable {w w' : Worker} {s t : Token} {c : Connection} {acts : List Act}

/-! ### The queue agrees with the flags -/

/-- The queue holds the connections whose flag is set, each once, and nothing is left of the last
batch. -/
structure Queued (w : Worker) : Prop where
  nodup : w.ready.Nodup
  exact_iff : ∀ t, t ∈ w.ready ↔ ∃ c, w.connections.get? t = some c ∧ c.ready = true
  spare : w.batch = []

theorem Queued.served (h : w.Queued) (answers : Token → SocketAnswer) :
    Served { w with ready := [] } w.ready (w.serveReady answers).2 (w.serveReady answers).1 := by
  have hall := served_serveEach (w := { w with ready := w.batch, batch := w.ready }) answers
    h.nodup fun t ht => (h.exact_iff t).mp ht
  refine ⟨hall.served, hall.offered, hall.kept, ?_, hall.others, hall.fate⟩
  have hqueue := hall.queue
  rwa [show ({ w with ready := w.batch, batch := w.ready } : Worker).ready = [] from h.spare]
    at hqueue

theorem Queued.serveReady (h : w.Queued) (answers : Token → SocketAnswer) :
    (w.serveReady answers).1.Queued := by
  have hall := h.served answers
  have hqueue : (w.serveReady answers).1.ready = _ := hall.queue.trans (List.nil_append _)
  refine ⟨?_, fun t => ?_, (controls_serveReady w answers).2⟩
  · rw [hqueue]
    exact hall.kept.nodup h.nodup
  · rw [hqueue]
    constructor
    · intro ht
      rcases hall.fate t (hall.kept.subset ht) with ⟨-, hc⟩ | ⟨hkept, -⟩
      · exact hc
      · exact absurd ht hkept
    · rintro ⟨c, hget, hc⟩
      by_cases ht : t ∈ w.ready
      · rcases hall.fate t ht with ⟨hkept, -⟩ | ⟨-, hflag⟩
        · exact hkept
        · rw [(hflag c hget).1] at hc
          cases hc
      · -- a connection that was not served has kept its flag, which was not set
        rw [hall.others t ht] at hget
        exact absurd ((h.exact_iff t).mpr ⟨c, hget, hc⟩) ht

/-! ### Events -/

/-- A live connection that waits for an event. -/
def sleeps (w : Worker) (t : Token) : Bool := (w.connections.get? t).any fun c => !c.ready

/-- The connections that a turn has to serve when its poll reports these events: those that were
waiting, and then those that the events wake, in their order. -/
def due (w : Worker) (events : List Token) : List Token :=
  w.ready ++ (events.filter w.sleeps).eraseDups

theorem sleeps_iff : w.sleeps t = true ↔ ∃ c, w.connections.get? t = some c ∧ c.ready = false := by
  unfold sleeps
  cases w.connections.get? t <;> simp

/-- The event of a connection wakes it, if it sleeps. -/
theorem markReady_cases (w : Worker) (t : Token) :
    (w.sleeps t = false ∧ w.markReady t = w) ∨
    ∃ c, w.connections.get? t = some c ∧ c.ready = false ∧
      w.markReady t = (w.setConnection t { c with ready := true }).keepReady t := by
  unfold markReady sleeps
  cases hget : w.connections.get? t with
  | none => exact .inl ⟨rfl, rfl⟩
  | some c =>
    cases hc : c.ready with
    | true => exact .inl ⟨by simp [hc], by simp [hc]⟩
    | false => exact .inr ⟨c, rfl, hc, by simp [hc]⟩

theorem Queued.markReady (h : w.Queued) (t : Token) : (w.markReady t).Queued := by
  rcases w.markReady_cases t with ⟨-, heq⟩ | ⟨c, hget, hc, heq⟩
  · rwa [heq]
  -- a sleeping connection is not in the queue, so it comes to stand there once
  · have ht : t ∉ w.ready := by
      intro hmem
      obtain ⟨d, hd, hready⟩ := (h.exact_iff t).mp hmem
      obtain rfl := Option.some.inj (hget.symm.trans hd)
      rw [hc] at hready
      cases hready
    rw [heq]
    refine ⟨?_, fun s => ?_, h.spare⟩
    · show (w.ready ++ [t]).Nodup
      rw [List.nodup_append]
      refine ⟨h.nodup, by simp, fun s hs u hu => ?_⟩
      rw [List.mem_singleton.mp hu]
      rintro rfl
      exact ht hs
    · show s ∈ w.ready ++ [t] ↔ ∃ d, (w.connections.set t _).get? s = some d ∧ d.ready = true
      rw [List.mem_append, List.mem_singleton]
      by_cases hst : s = t
      · subst hst
        rw [Connections.get?_set_self hget]
        exact ⟨fun _ => ⟨_, rfl, rfl⟩, fun _ => .inr rfl⟩
      · rw [Connections.get?_set_of_ne _ hst, ← h.exact_iff s]
        exact ⟨fun hs => hs.resolve_right hst, .inl⟩

theorem Queued.observe (h : w.Queued) (t : Token) : (w.observe t).Queued := by
  unfold Worker.observe
  split
  · exact ⟨h.nodup, h.exact_iff, h.spare⟩
  · exact h.markReady t

theorem Queued.observeAll (h : w.Queued) (events : List Token) : (w.observeAll events).Queued := by
  induction events generalizing w with
  | nil => exact h
  | cons t events ih => exact ih (h.observe t)

theorem Sound.get?_controlToken (hs : w.Sound) : w.connections.get? controlToken = none := by
  rw [Connections.get?_eq_none_iff]
  intro hmem
  exact absurd (hs.issued _ hmem).1 (by decide)

theorem get?_observe_of_ne (w : Worker) (h : s ≠ t) :
    (w.observe t).connections.get? s = w.connections.get? s := by
  unfold observe
  split
  · rfl
  · rcases w.markReady_cases t with ⟨-, heq⟩ | ⟨c, -, -, heq⟩
    · rw [heq]
    · rw [heq]
      exact Connections.get?_set_of_ne _ h _

/-- An event wakes no connection but a sleeping one. -/
theorem observe_cases (hs : w.Sound) (t : Token) :
    (w.sleeps t = false ∧ (w.observe t).connections = w.connections ∧
      (w.observe t).ready = w.ready) ∨
    (w.sleeps t = true ∧ (w.observe t).sleeps t = false ∧
      (w.observe t).ready = w.ready ++ [t]) := by
  unfold observe
  split
  · next heq =>
    subst heq
    exact .inl ⟨by simp [sleeps, hs.get?_controlToken], rfl, rfl⟩
  · rcases w.markReady_cases t with ⟨hsleeps, heq⟩ | ⟨c, hget, hc, heq⟩
    · rw [heq]
      exact .inl ⟨hsleeps, rfl, rfl⟩
    · rw [heq]
      refine .inr ⟨sleeps_iff.mpr ⟨c, hget, hc⟩, ?_, rfl⟩
      show ((w.connections.set t _).get? t).any _ = false
      rw [Connections.get?_set_self hget]
      rfl

/-- **The events of a poll wake the sleeping connections they name**, in their order and each
once. -/
theorem ready_observeAll (hs : w.Sound) (events : List Token) :
    (w.observeAll events).ready = w.due events := by
  unfold due
  induction events generalizing w with
  | nil => exact (List.append_nil _).symm
  | cons t events ih =>
    have hrest := ih (hs.reaches (reaches_observe w t))
    rw [show w.observeAll (t :: events) = (w.observe t).observeAll events from rfl, hrest]
    -- all connections but this one sleep as they did
    have hothers : ∀ s, s ≠ t → (w.observe t).sleeps s = w.sleeps s := by
      intro s hst
      rw [sleeps, sleeps, get?_observe_of_ne w hst]
    rcases observe_cases hs t with ⟨hsleeps, hsame, hready⟩ | ⟨hsleeps, hwoken, hready⟩
    -- the event finds nobody asleep, and the later ones find what they would have found
    · have hfilter : events.filter (w.observe t).sleeps = events.filter w.sleeps := by
        refine List.filter_congr fun s _ => ?_
        rw [sleeps, sleeps, hsame]
      rw [hready, hfilter, List.filter_cons_of_neg (by simp [hsleeps])]
    · have hfilter : events.filter (w.observe t).sleeps =
          (events.filter w.sleeps).filter fun s => !s == t := by
        rw [List.filter_filter]
        refine List.filter_congr fun s _ => ?_
        by_cases hst : s = t
        · simp [hst, hwoken]
        · simp [hst, hothers s hst]
      rw [hready, hfilter, List.filter_cons_of_pos hsleeps, List.eraseDups_cons,
        List.append_assoc]
      rfl

theorem get?_observeAll (hs : w.Sound) (events : List Token)
    (h : s ∈ events → w.sleeps s = false) :
    (w.observeAll events).connections.get? s = w.connections.get? s := by
  induction events generalizing w with
  | nil => rfl
  | cons t events ih =>
    have hone : (w.observe t).connections.get? s = w.connections.get? s := by
      by_cases hst : s = t
      · subst hst
        rcases observe_cases hs s with ⟨-, hsame, -⟩ | ⟨hsleeps, -, -⟩
        · rw [hsame]
        · rw [h List.mem_cons_self] at hsleeps
          cases hsleeps
      · exact get?_observe_of_ne w hst
    refine (ih (hs.reaches (reaches_observe w t)) fun hmem => ?_).trans hone
    rw [sleeps, hone]
    exact h (List.mem_cons_of_mem t hmem)

/-! ### Commands -/

/-- What a command does to queue and connections: a new connection may be on its way, which sleeps,
and no socket of a live one is touched. -/
structure Heard (w : Worker) (acts : List Act) (w' : Worker) : Prop where
  ready : w'.ready = w.ready
  batch : w'.batch = w.batch
  silent : ∀ a ∈ acts, a.socket? = none
  live : ∀ s, w'.connections.get? s = w.connections.get? s ∨
    (w.connections.get? s = none ∧ s ∈ acts.filterMap Act.opens? ∧
      ∃ c, w'.connections.get? s = some c ∧ c.ready = false)

theorem Heard.of_eq (hready : w'.ready = w.ready) (hbatch : w'.batch = w.batch)
    (hconnections : w'.connections = w.connections) (hsilent : ∀ a ∈ acts, a.socket? = none) :
    Heard w acts w' :=
  ⟨hready, hbatch, hsilent, fun s => .inl (by rw [hconnections])⟩

theorem heard_dial (w : Worker) (answers : DialAnswers) :
    Heard w (w.dial answers).acts (w.dial answers).worker := by
  cases h : answers.result w.nextToken with
  | exhausted e =>
    simp only [dial, h]
    exact .of_eq rfl rfl rfl (by simp [Act.socket?])
  | noSocket e =>
    simp only [dial, h]
    exact .of_eq rfl rfl rfl (by simp [Act.socket?])
  | failed e =>
    obtain ⟨notices, hn⟩ := w.attempt.told_of_countConnectFailure w.nextEntry w.nextAddress e
    simp only [dial, h]
    refine .of_eq rfl rfl rfl ?_
    rw [List.forall_mem_cons]
    refine ⟨rfl, fun a ha => ?_⟩
    obtain ⟨n, -, rfl⟩ := List.mem_map.mp (hn ▸ ha)
    rfl
  | unregistered e =>
    simp only [dial, h]
    exact .of_eq rfl rfl rfl (by simp [Act.socket?])
  | opened t =>
    obtain rfl := token_of_result h
    simp only [dial, h]
    refine ⟨rfl, rfl, by simp [Act.socket?], fun s => ?_⟩
    -- no connection had this token, and the new one has its flag down
    simp only [Connections.get?_add]
    cases hget : w.connections.get? s with
    | some c => exact .inl rfl
    | none =>
      by_cases hst : w.nextToken = s
      · subst hst
        refine .inr ⟨rfl, List.mem_singleton_self _, ?_⟩
        simp
      · exact .inl (by simp [hst])

theorem heard_handle (w : Worker) (command : Command) (answers : DialAnswers) :
    Heard w (w.handle command answers).acts (w.handle command answers).worker := by
  cases command with
  | connect => exact heard_dial w answers
  | terminate => exact .of_eq rfl rfl rfl (by simp [handle])
  | unknown b => exact .of_eq rfl rfl rfl (by simp [handle, Act.socket?])

theorem heard_readControl (w : Worker) (read : ControlRead) (answers : DialAnswers) :
    Heard w (w.readControl read answers).acts (w.readControl read answers).worker := by
  unfold readControl
  split
  · exact .of_eq rfl rfl rfl (by simp)
  · cases read with
    | closed => exact .of_eq rfl rfl rfl (by simp [Act.socket?])
    | byte b =>
      have hstep := heard_handle w (Command.ofByte b) answers
      refine ⟨hstep.ready, hstep.batch, ?_, fun s => ?_⟩
      · rw [List.forall_mem_cons]
        exact ⟨rfl, hstep.silent⟩
      · exact hstep.live s
    | failed e =>
      simp only
      split
      · exact .of_eq rfl rfl rfl (by simp [Act.socket?])
      · split
        · exact .of_eq rfl rfl rfl (by simp [Act.socket?])
        · exact .of_eq rfl rfl rfl (by simp [Act.socket?])

theorem Heard.get? (h : Heard w acts w') (hc : w.connections.get? t = some c) :
    w'.connections.get? t = some c := by
  rcases h.live t with hsame | ⟨hnone, -⟩
  · rw [hsame, hc]
  · rw [hc] at hnone
    cases hnone

theorem Queued.heard (hq : w.Queued) (h : Heard w acts w') : w'.Queued := by
  refine ⟨h.ready ▸ hq.nodup, fun t => ?_, h.batch.trans hq.spare⟩
  rw [h.ready, hq.exact_iff]
  constructor
  · rintro ⟨c, hget, hc⟩
    exact ⟨c, h.get? hget, hc⟩
  · rintro ⟨c, hget, hc⟩
    rcases h.live t with hsame | ⟨-, -, d, hd, hflag⟩
    · exact ⟨c, hsame ▸ hget, hc⟩
    · -- a new connection sleeps
      obtain rfl := Option.some.inj (hget.symm.trans hd)
      rw [hflag] at hc
      cases hc

end Worker

/-! ### Turns -/

/-- The events that a poll reports; none if it fails or is interrupted. -/
def TurnAnswers.events (a : TurnAnswers) : List Token :=
  match a.poll with
  | .ok events => events
  | .error _ => []

namespace Worker

variable {w w' : Worker} {a : TurnAnswers}

/-- The course of a turn. -/
inductive Course (w : Worker) (a : TurnAnswers) : Turn → Prop
  /-- The poll fails. -/
  | failed (e : SystemError) (hevents : a.events = []) : Course w a ⟨w, [], .pollFailed e⟩
  /-- A dial finds no descriptor, and the process ends. -/
  | exhausted {acts : List Act} {w' : Worker} (e : DialError)
      (h : Heard (w.observeAll a.events) acts w') : Course w a ⟨w', acts, .exhausted e⟩
  /-- Events are taken note of, a command may be acted on, and then the queue is served. -/
  | done {acts : List Act} {w' : Worker} (h : Heard (w.observeAll a.events) acts w') :
      Course w a ⟨(w'.serveReady a.sockets).1, acts ++ (w'.serveReady a.sockets).2, .done⟩

theorem course_act (w : Worker) (a : TurnAnswers) :
    w.Course a ((w.observeAll a.events).act a) := by
  have hread := heard_readControl (w.observeAll a.events) a.control a.dial
  unfold act
  simp only
  split
  · exact .exhausted _ hread
  · exact .done hread

/-- A turn fails with its poll, or acts once the events of the poll are taken note of. -/
theorem turn_cases (w : Worker) (a : TurnAnswers) :
    (∃ e, a.events = [] ∧ w.turn a = ⟨w, [], .pollFailed e⟩) ∨
      w.turn a = (w.observeAll a.events).act a := by
  unfold turn TurnAnswers.events
  cases hpoll : a.poll with
  | ok events => exact .inr rfl
  | error e =>
    simp only
    split
    · exact .inr rfl
    · exact .inl ⟨e, trivial, rfl⟩

theorem course_turn (w : Worker) (a : TurnAnswers) : w.Course a (w.turn a) := by
  rcases w.turn_cases a with ⟨e, hnone, heq⟩ | heq
  · rw [heq]
    exact .failed e hnone
  · rw [heq]
    exact course_act w a

theorem Queued.turn (hq : w.Queued) (a : TurnAnswers) : (w.turn a).worker.Queued := by
  have hcourse := w.course_turn a
  generalize w.turn a = turn at hcourse
  cases hcourse with
  | failed e _ => exact hq
  | exhausted e h => exact (hq.observeAll a.events).heard h
  | done h => exact ((hq.observeAll a.events).heard h).serveReady a.sockets

theorem Queued.performAll (hq : w.Queued) (os : List Operation) :
    (w.performAll os).worker.Queued := by
  induction os generalizing w with
  | nil => exact hq
  | cons o rest ih =>
    refine ih ?_
    cases o with
    | handle command answers => exact hq.heard (heard_handle w command answers)
    | turn a => exact hq.turn a

theorem queued_of_create {setup : WorkerSetup} {creation : CreationAnswers}
    (h : Worker.create setup creation = .ok w) : w.Queued := by
  obtain ⟨r, -, rfl⟩ := create_cases h
  exact ⟨List.nodup_nil, fun t => by simp [Connections.get?], rfl⟩

/-! ### Every turn -/

theorem exists_of_mem_due (hq : w.Queued) {events : List Token} {t : Token}
    (h : t ∈ w.due events) : ∃ c, w.connections.get? t = some c := by
  rcases List.mem_append.mp h with h | h
  · obtain ⟨c, hget, -⟩ := (hq.exact_iff t).mp h
    exact ⟨c, hget⟩
  · rw [List.mem_eraseDups, List.mem_filter] at h
    obtain ⟨c, hget, -⟩ := sleeps_iff.mp h.2
    exact ⟨c, hget⟩

theorem sleeps_of_notMem_due {events : List Token} {t : Token} (h : t ∉ w.due events)
    (ht : t ∈ events) : w.sleeps t = false := by
  rw [due, List.mem_append, not_or, List.mem_eraseDups, List.mem_filter, not_and] at h
  exact Bool.eq_false_iff.mpr (h.2 ht)

/-- Before the queue is served, no socket is touched that an act could tell of. -/
theorem Heard.filterMap_append {f : Act → Option Token}
    (hf : ∀ {b : Act}, b.socket? = none → f b = none) {acts more : List Act}
    (h : Heard w acts w') :
    (acts ++ more).filterMap f = more.filterMap f := by
  have hnone : acts.filterMap f = [] :=
    List.filterMap_eq_nil_iff.mpr fun b hb => hf (h.silent b hb)
  rw [List.filterMap_append, hnone, List.nil_append]

/-- **Each connection that is due is served once, and none besides.** At every moment between the
operations of a new worker, whatever commands and turns there were, the queue holds the live
connections whose flag is set, each once, and nothing is left of the last batch. A turn that comes
to its end serves those that were waiting and then those that its poll woke, in this order and each
once, with at most one write on each; every other connection stays as it is. Those that can go on
are the new queue, in the same order. -/
theorem ready_served_once {setup : WorkerSetup} {creation : CreationAnswers} {w₀ : Worker}
    (hcreate : Worker.create setup creation = .ok w₀) (os : List Operation) :
    let w := (w₀.performAll os).worker
    (w.ready.Nodup ∧
      (∀ t, t ∈ w.ready ↔ ∃ c, w.connections.get? t = some c ∧ c.ready = true) ∧
      w.batch = []) ∧
    ∀ a : TurnAnswers, (w.turn a).ending = .done →
      let q := w.due a.events
      let acts := (w.turn a).acts
      let w' := (w.turn a).worker
      (q.Nodup ∧ ∀ t ∈ q, ∃ c, w.connections.get? t = some c) ∧
      acts.filterMap Act.serves? = q ∧
      (acts.filterMap Act.offers?).Sublist q ∧
      (∀ t c, t ∉ q → w.connections.get? t = some c → w'.connections.get? t = some c) ∧
      w'.ready = q.filter fun t => t ∈ acts.filterMap Act.keeps? := by
  intro w
  have hs : w.Sound := (fresh_of_create hcreate).sound.reaches (reaches_performAll w₀ os)
  have hq : w.Queued := (queued_of_create hcreate).performAll os
  refine ⟨⟨hq.nodup, hq.exact_iff, hq.spare⟩, fun a hdone => ?_⟩
  -- the events first, then the commands, then the service of what is due by then
  have hwoken := hq.observeAll a.events
  have hdue := ready_observeAll hs a.events
  have hnodup : (w.due a.events).Nodup := hdue ▸ hwoken.nodup
  have hcourse := w.course_turn a
  generalize w.turn a = turn at hcourse hdone ⊢
  cases hcourse with
  | failed e _ => cases hdone
  | exhausted e _ => cases hdone
  | done h =>
    rename_i heard w₁
    have hserved := (hwoken.heard h).served a.sockets
    rw [h.ready, hdue] at hserved
    refine ⟨⟨hnodup, fun t => exists_of_mem_due hq⟩, ?_, ?_, fun t c ht hget => ?_, ?_⟩
    · exact (h.filterMap_append Act.serves?_of_socket?).trans hserved.served
    · rw [h.filterMap_append Act.offers?_of_socket?]
      exact hserved.offered
    · -- no event wakes it, no command touches it, and it is not served
      have hawake := get?_observeAll hs a.events (sleeps_of_notMem_due ht)
      rw [hserved.others t ht]
      exact h.get? (hawake.trans hget)
    · rw [h.filterMap_append Act.keeps?_of_socket?, filter_mem_eq_of_sublist hserved.kept hnodup]
      exact hserved.queue

/-- Three connections, one of them waiting. Events wake the others, one of them twice, and one
event is for nobody: all three are served, and two of them can go on. -/
theorem ready_served_once_three :
    let os : List Operation := [.handle .connect {}, .handle .connect {}, .handle .connect {},
      Sample.turn [1] 0 (.ok 2)]
    let w := (Sample.worker.performAll os).worker
    let a : TurnAnswers :=
      { poll := .ok [3, 1, 7, 3, 2], control := .byte 0, dial := {},
        sockets := fun t => Sample.socket (if t = 2 then .error .tryAgain else .ok 1) }
    Worker.create Sample.setup {} = .ok Sample.worker ∧ (w.turn a).ending = .done ∧
      w.ready = [1] ∧ w.due a.events = [1, 3, 2] ∧
      (w.turn a).acts.filterMap Act.serves? = [1, 3, 2] ∧ (w.turn a).worker.ready = [1, 3] := by
  intro os w a
  have hdone : (w.turn a).ending = .done := by decide +kernel
  have hdue : w.due a.events = [1, 3, 2] := by decide +kernel
  obtain ⟨-, hserved, -, -, hqueue⟩ := (ready_served_once Sample.create_setup os).2 a hdone
  have hkept : (w.due a.events).filter (fun t => t ∈ (w.turn a).acts.filterMap Act.keeps?) =
      [1, 3] := by decide +kernel
  have hready : w.ready = [1] := by decide +kernel
  refine ⟨Sample.create_setup, hdone, hready, hdue, hserved.trans hdue, ?_⟩
  simpa only [w] using hqueue.trans hkept

end Worker

end LoadGenerator
