/-
Sockets that can be written are never forgotten.

The poll reports a change and no state: a socket that becomes writable leaves one event, and once
that is delivered nothing tells that the socket is writable still. So the worker has to remember it,
until the socket itself says otherwise.

* **`Sockets`** — which sockets can be written, and which have an event that was not delivered yet;
* **`Sockets.Sees`** — what goes on with them while a worker acts: at any time a socket may become
  writable or cease to be, and every answer to an act is a true one;
* **`Worker.WorksOn`** — a worker and its sockets, after some operations;
* **`Worker.Attended`** — each live connection that can be written is in the queue, or has an event
  to come;
* **`Worker.writable_ready_or_edged`** — so it is between any two operations.

A poll delivers what events it likes, and may report sockets that left none. Only what it delivers
is taken away.
-/
import LoadGenerator.Proofs.ReadyQueue

namespace LoadGenerator

/-! ### Sockets and their events -/

/-- What the system knows of the sockets of a worker, by token. -/
structure Sockets where
  /-- The socket can be written: it is connected and has room, or its connect has failed. -/
  writable : Token → Bool
  /-- It has left an event that no poll has delivered. -/
  edge : Token → Bool

namespace Sockets

variable {s s' : Sockets} {t u : Token} {acts : List Act}

/-- A socket becomes writable, and leaves an event. -/
def rise (s : Sockets) (t : Token) : Sockets :=
  { writable := fun u => if u = t then true else s.writable u
    edge := fun u => if u = t then true else s.edge u }

/-- A socket can be written no more. -/
def fall (s : Sockets) (t : Token) : Sockets :=
  { s with writable := fun u => if u = t then false else s.writable u }

/-- A socket is registered under a token. If it can be written already, it leaves an event. -/
def register (s : Sockets) (t : Token) (writable : Bool) : Sockets :=
  { writable := fun u => if u = t then writable else s.writable u
    edge := fun u => if u = t then writable else s.edge u }

/-- A poll delivers events. -/
def deliver (s : Sockets) (events : List Token) : Sockets :=
  { s with edge := fun u => !events.contains u && s.edge u }

/-- What goes on with the sockets while a worker does this and that. At any time they change of
their own accord; a socket refuses only while it cannot be written. -/
inductive Sees : Sockets → List Act → Sockets → Prop
  | refl {s : Sockets} : Sees s [] s
  | rises {s s' : Sockets} {acts : List Act} (t : Token) (h : Sees (s.rise t) acts s') :
      Sees s acts s'
  | falls {s s' : Sockets} {acts : List Act} (t : Token) (h : Sees (s.fall t) acts s') :
      Sees s acts s'
  | opened {s s' : Sockets} {acts : List Act} {a : Act} {t : Token} (ha : a.opens? = some t)
      (writable : Bool) (h : Sees (s.register t writable) acts s') : Sees s (a :: acts) s'
  | acted {s s' : Sockets} {acts : List Act} {a : Act} (ha : a.opens? = none)
      (htrue : ∀ t, a.refuses? = some t → s.writable t = false) (h : Sees s acts s') :
      Sees s (a :: acts) s'

/-- A socket that can be written has an event to come. -/
def Edged (s : Sockets) (t : Token) : Prop := s.writable t = true → s.edge t = true

theorem Edged.rise (h : s.Edged u) (t : Token) : (s.rise t).Edged u := by
  intro hw
  by_cases hut : u = t
  · simp [Sockets.rise, hut]
  · have hw : s.writable u = true := by simpa [Sockets.rise, hut] using hw
    simpa [Sockets.rise, hut] using h hw

theorem Edged.fall (h : s.Edged u) (t : Token) : (s.fall t).Edged u := by
  intro hw
  by_cases hut : u = t
  · simp [Sockets.fall, hut] at hw
  · have hw : s.writable u = true := by simpa [Sockets.fall, hut] using hw
    exact h hw

theorem edged_register (s : Sockets) (t : Token) (writable : Bool) :
    (s.register t writable).Edged t := by
  intro hw
  simpa [register] using hw

theorem Edged.register (h : s.Edged u) (t : Token) (writable : Bool) :
    (s.register t writable).Edged u := by
  by_cases hut : u = t
  · exact hut ▸ edged_register s t writable
  · intro hw
    have hw : s.writable u = true := by simpa [Sockets.register, hut] using hw
    simpa [Sockets.register, hut] using h hw

theorem Edged.deliver (h : s.Edged u) {events : List Token} (hu : u ∉ events) :
    (s.deliver events).Edged u := by
  intro hw
  have hedge : s.edge u = true := h hw
  simpa [Sockets.deliver, hedge] using hu

theorem Sees.edged (h : s.Sees acts s') (ht : s.Edged t) : s'.Edged t := by
  induction h with
  | refl => exact ht
  | rises u _ ih => exact ih (ht.rise u)
  | falls u _ ih => exact ih (ht.fall u)
  | opened _ writable _ ih => exact ih (ht.register _ writable)
  | acted _ _ _ ih => exact ih ht

/-- A socket that has refused tells by an event when it can be written again. -/
theorem Sees.edged_of_refused (h : s.Sees acts s') (ht : t ∈ acts.filterMap Act.refuses?) :
    s'.Edged t := by
  induction h with
  | refl => cases ht
  | rises _ _ ih => exact ih ht
  | falls _ _ ih => exact ih ht
  | @opened _ _ _ a _ ha _ _ ih =>
    -- a dial that opens a connection refuses nothing
    have hnone : a.refuses? = none := by
      cases a <;> first | rfl | cases ha
    rw [List.filterMap_cons_none hnone] at ht
    exact ih ht
  | @acted s _ _ a _ htrue h ih =>
    cases hrefused : a.refuses? with
    | none =>
      rw [List.filterMap_cons_none hrefused] at ht
      exact ih ht
    | some u =>
      rw [List.filterMap_cons_some hrefused, List.mem_cons] at ht
      rcases ht with rfl | ht
      · refine h.edged fun hw => ?_
        rw [htrue t hrefused] at hw
        cases hw
      · exact ih ht

/-- A new socket tells by an event when it can be written. -/
theorem Sees.edged_of_opened (h : s.Sees acts s') (ht : t ∈ acts.filterMap Act.opens?) :
    s'.Edged t := by
  induction h with
  | refl => cases ht
  | rises _ _ ih => exact ih ht
  | falls _ _ ih => exact ih ht
  | @opened s _ _ _ u ha writable h ih =>
    rw [List.filterMap_cons_some ha, List.mem_cons] at ht
    rcases ht with rfl | ht
    · exact h.edged (edged_register s t writable)
    · exact ih ht
  | acted ha _ _ ih =>
    rw [List.filterMap_cons_none ha] at ht
    exact ih ht

end Sockets

/-! ### A worker and its sockets -/

namespace Worker

/-- The events that an operation delivers. -/
def Operation.events : Operation → List Token
  | .handle .. => []
  | .turn a => a.events

variable {w w' w₀ : Worker} {s s' s₀ : Sockets} {acts all : List Act} {events : List Token}

/-- A worker and its sockets after some operations. -/
inductive WorksOn (w₀ : Worker) (s₀ : Sockets) : Worker → Sockets → Prop
  | refl : WorksOn w₀ s₀ w₀ s₀
  | step {w : Worker} {s s' : Sockets} (h : WorksOn w₀ s₀ w s) (o : Operation)
      (hsees : (s.deliver o.events).Sees (w.perform o).acts s') :
      WorksOn w₀ s₀ (w.perform o).worker s'

/-- Each live connection is in the queue, or has an event to come if it can be written. -/
def Attended (w : Worker) (s : Sockets) : Prop :=
  ∀ t c, w.connections.get? t = some c → t ∈ w.ready ∨ s.Edged t

/-- Events are taken note of, and then a command is acted on. What is no longer to come is in the
queue by then. -/
theorem Attended.heard (h : w.Attended s) (hs : w.Sound) (hq : w.Queued)
    (hheard : Heard (w.observeAll events) acts w') (hsees : (s.deliver events).Sees all s')
    (hsub : acts ⊆ all) : w'.Attended s' := by
  intro t c hget
  rw [hheard.ready, ready_observeAll hs]
  by_cases hdue : t ∈ w.due events
  · exact .inl hdue
  · right
    have hawake := get?_observeAll hs events (sleeps_of_notMem_due hdue)
    rcases hheard.live t with hsame | ⟨-, hopened, -⟩
    · -- a connection that no event wakes was live before, and not in the queue
      rw [hsame, hawake] at hget
      have hready : t ∉ w.ready := fun hmem => hdue (List.mem_append_left _ hmem)
      have hedged : s.Edged t := (h t c hget).resolve_left hready
      refine hsees.edged (hedged.deliver fun hmem => hready ?_)
      rw [hq.exact_iff]
      refine ⟨c, hget, ?_⟩
      have hsleeps := sleeps_of_notMem_due hdue hmem
      simpa [sleeps, hget] using hsleeps
    · obtain ⟨a, ha, hopens⟩ := List.mem_filterMap.mp hopened
      exact hsees.edged_of_opened (List.mem_filterMap.mpr ⟨a, hsub ha, hopens⟩)

theorem Attended.turn (h : w.Attended s) (hs : w.Sound) (hq : w.Queued) (a : TurnAnswers)
    (hsees : (s.deliver a.events).Sees (w.turn a).acts s') : (w.turn a).worker.Attended s' := by
  have hcourse := w.course_turn a
  generalize w.turn a = turn at hcourse hsees ⊢
  cases hcourse with
  | failed e hevents =>
    rw [hevents] at hsees
    exact fun t c hget => (h t c hget).imp_right hsees.edged
  | exhausted e hheard => exact h.heard hs hq hheard hsees (List.Subset.refl _)
  | done hheard =>
    rename_i heard w₁
    have hbefore := h.heard hs hq hheard hsees (List.subset_append_left _ _)
    have hserved := ((hq.observeAll a.events).heard hheard).served a.sockets
    intro t c hget
    have hqueue : (w₁.serveReady a.sockets).1.ready = _ := hserved.queue
    rw [hqueue]
    by_cases ht : t ∈ w₁.ready
    · rcases hserved.fate t ht with ⟨hkept, -⟩ | ⟨-, hflag⟩
      · exact .inl hkept
      · -- it waits because its socket has refused
        right
        refine hsees.edged_of_refused ?_
        rw [List.filterMap_append]
        exact List.mem_append_right _ (hflag c hget).2
    · right
      rw [hserved.others t ht] at hget
      exact (hbefore t c hget).resolve_left ht

theorem Attended.perform (h : w.Attended s) (hs : w.Sound) (hq : w.Queued) (o : Operation)
    (hsees : (s.deliver o.events).Sees (w.perform o).acts s') :
    (w.perform o).worker.Attended s' := by
  cases o with
  | handle command answers =>
    have hheard : Heard (w.observeAll []) _ _ := heard_handle w command answers
    exact h.heard hs hq hheard hsees (List.Subset.refl _)
  | turn a => exact h.turn hs hq a hsees

theorem WorksOn.attended (h : WorksOn w₀ s₀ w s) (hw : w₀.Fresh) (hq : w₀.Queued) :
    w.Sound ∧ w.Queued ∧ w.Attended s := by
  induction h with
  | refl =>
    refine ⟨hw.sound, hq, fun t c hget => ?_⟩
    simp [hw.connections, Connections.get?] at hget
  | step _ o hsees ih =>
    obtain ⟨hs, hq, hattended⟩ := ih
    exact ⟨hs.reaches (reaches_perform _ o), hq.performAll [o], hattended.perform hs hq o hsees⟩

/-- **No socket that can be written is forgotten.** Whatever a new worker is told and whatever its
polls deliver, and whenever its sockets become writable or cease to be: between two operations each
live connection that can be written is in the queue, or has left an event that is still to come. So
the worker waits in its poll only when every such connection will wake it. Being told to stop makes
no difference, so no connection is left unclosed. -/
theorem writable_ready_or_edged {setup : WorkerSetup} {creation : CreationAnswers}
    (hcreate : Worker.create setup creation = .ok w₀) (h : WorksOn w₀ s₀ w s) :
    (∀ t c, w.connections.get? t = some c → s.writable t = true →
      t ∈ w.ready ∨ s.edge t = true) ∧
    (w.pollMayWait = true → ∀ t c, w.connections.get? t = some c → s.writable t = true →
      s.edge t = true) := by
  obtain ⟨-, -, hattended⟩ := h.attended (fresh_of_create hcreate) (queued_of_create hcreate)
  have hfirst : ∀ t c, w.connections.get? t = some c → s.writable t = true →
      t ∈ w.ready ∨ s.edge t = true := by
    intro t c hget hw
    exact (hattended t c hget).imp_right fun hedged => hedged hw
  refine ⟨hfirst, fun hwait t c hget hw => (hfirst t c hget hw).resolve_left ?_⟩
  -- a worker that may wait has an empty queue
  simp only [pollMayWait, Bool.and_eq_true, List.isEmpty_iff] at hwait
  simp [hwait.1]

end Worker

namespace Sample

/-- Sockets that nothing has happened to. -/
def sockets : Sockets := { writable := fun _ => false, edge := fun _ => false }

/-- The socket of token 1 becomes writable once it is registered. -/
def connected : Sockets := (sockets.register 1 false).rise 1

/-- Its event was delivered; it was filled up, and has become writable again. -/
def drained : Sockets := ((connected.deliver [1]).fall 1).rise 1

end Sample

/-- A connection is parked, and its socket becomes writable right after it has refused. -/
theorem Worker.writable_ready_or_edged_parked :
    let w := (Sample.worker.performAll
      [.handle .connect {}, Sample.turn [1] 0 (.error .tryAgain)]).worker
    Worker.create Sample.setup {} = .ok Sample.worker ∧
      Sample.worker.WorksOn Sample.sockets w Sample.drained ∧
      w.pollMayWait = true ∧ (∃ c, w.connections.get? 1 = some c) ∧
      Sample.drained.writable 1 = true ∧ Sample.drained.edge 1 = true := by
  intro w
  have hopened : (Sample.sockets.deliver []).Sees [.dialed 0 (.opened 1)] Sample.connected :=
    .opened rfl false (.rises 1 .refl)
  have hrefused : (Sample.connected.deliver [1]).Sees
      [.probed 1 0 (.ok true), .wrote 1 0 0 #[97, 98, 99] (.error .tryAgain)] Sample.drained := by
    refine .acted rfl nofun (.falls 1 (.acted rfl ?_ (.rises 1 .refl)))
    intro t ht
    obtain rfl : 1 = t := Option.some.inj ht
    rfl
  have hruns : Sample.worker.WorksOn Sample.sockets w Sample.drained :=
    (WorksOn.refl.step (.handle .connect {}) hopened).step
      (Sample.turn [1] 0 (.error .tryAgain)) hrefused
  have hwait : w.pollMayWait = true := by decide +kernel
  have hlive : ∃ c, w.connections.get? 1 = some c := ⟨_, rfl⟩
  obtain ⟨c, hc⟩ := hlive
  have hedge := (writable_ready_or_edged Sample.create_setup hruns).2 hwait 1 c hc rfl
  exact ⟨Sample.create_setup, hruns, hwait, ⟨c, hc⟩, rfl, hedge⟩

end LoadGenerator
