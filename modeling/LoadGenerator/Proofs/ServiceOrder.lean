/-
The order of the queue does not matter.

A service looks at its own connection and at what the worker was given and told, and at nothing
else. What it makes of them is a change of that connection, a mark in the history of an entry, and
some amounts that are added up; and all of these can be done in any order.

* **`Connection.treatment`** — what a service makes of a connection, given the answer of its socket;
* **`Worker.settle`**, **`Worker.serve_eq_settle`** — a service is its treatment, and no more;
* **`Worker.Alike`** — two workers that differ at most in the order of their queues;
* **`Worker.alike_settle_settle`** — two services can change places;
* **`Worker.service_order_immaterial`** — so can all that are in a queue.
-/
import LoadGenerator.Proofs.Frame
import LoadGenerator.Proofs.Tokens

namespace LoadGenerator

/-! ### Histories -/

/-- A history with a failure more, or with a write failure on report. -/
def RemoteStats.mark (failed reported : Bool) (s : RemoteStats) : RemoteStats :=
  { s with
    failures := s.failures + failed.toNat
    writeFailureReported := s.writeFailureReported || reported }

theorem RemoteStats.mark_comm (failed reported failed' reported' : Bool) (s : RemoteStats) :
    (s.mark failed reported).mark failed' reported' =
      (s.mark failed' reported').mark failed reported := by
  simp only [mark, mk.injEq, true_and]
  constructor
  · omega
  · exact Bool.or_right_comm _ _ _

theorem RemoteStats.recordFailure_eq_mark : recordFailure = mark true false := by
  funext s
  simp [recordFailure, mark]

/-- A report of an entry that is on report already adds nothing. -/
theorem RemoteStats.mark_of_reported {s : RemoteStats} (h : s.writeFailureReported = true)
    (failed reported : Bool) : s.mark failed reported = s.mark failed false := by
  simp [mark, h]

theorem RemoteStats.recordFailure_claimWriteReport (s : RemoteStats) :
    s.claimWriteReport.recordFailure = s.mark true true := by
  simp [recordFailure, claimWriteReport, mark]

namespace Roster

variable {r : Roster} {i j : Nat} {f g : RemoteStats → RemoteStats}

theorem ext_remotes {r' : Roster} (hremotes : r.remotes = r'.remotes)
    (hcursor : r.cursor = r'.cursor) : r = r' := by
  cases r
  cases r'
  subst hremotes hcursor
  rfl

theorem updateStats_congr (h : f (r.stats i) = g (r.stats i)) :
    r.updateStats i f = r.updateStats i g := by
  refine ext_remotes (Array.ext_getElem? fun k => ?_) rfl
  simp only [updateStats, Array.getElem?_modify]
  by_cases hk : i = k
  · subst hk
    cases hget : r.remotes[i]? with
    | none => simp
    | some e =>
      have hstats : r.stats i = e.stats := by simp [stats, stats?, hget]
      simp [← hstats, h]
  · simp [hk]

theorem updateStats_updateStats (r : Roster) (i : Nat) (f g : RemoteStats → RemoteStats) :
    (r.updateStats i f).updateStats i g = r.updateStats i (g ∘ f) := by
  refine ext_remotes (Array.ext_getElem? fun k => ?_) rfl
  simp only [updateStats, Array.getElem?_modify]
  by_cases hk : i = k <;> simp [hk, Function.comp_def]

@[simp] theorem updateStats_mark_false (r : Roster) (i : Nat) :
    r.updateStats i (RemoteStats.mark false false) = r := by
  refine ext_remotes (Array.ext_getElem? fun k => ?_) rfl
  simp only [updateStats, Array.getElem?_modify]
  by_cases hk : i = k <;> simp [hk, RemoteStats.mark]

theorem updateStats_comm (h : ∀ s, f (g s) = g (f s)) :
    (r.updateStats i f).updateStats j g = (r.updateStats j g).updateStats i f := by
  refine ext_remotes (Array.ext_getElem? fun k => ?_) rfl
  simp only [updateStats, Array.getElem?_modify]
  by_cases hi : i = k
  · by_cases hj : j = k
    · simp [hi, hj, Function.comp_def, h]
    · simp [hi, hj]
  · simp [hi]

end Roster

/-! ### Tables -/

namespace Connections

/-- The table with another state for a connection, or without it. -/
def put (cs : Connections) (t : Token) : Option Connection → Connections
  | some c => cs.set t c
  | none => cs.remove t

variable {s t : Token}

theorem get?_put_of_ne (cs : Connections) (h : s ≠ t) (left : Option Connection) :
    (cs.put t left).get? s = cs.get? s := by
  cases left with
  | some c => exact get?_set_of_ne cs h c
  | none => exact (get?_remove cs t s).trans (if_neg (Ne.symm h))

/-- What a change does to each entry on its own. -/
theorem put_eq_filterMap (cs : Connections) (t : Token) (left : Option Connection) :
    cs.put t left = cs.filterMap fun e => if e.1 = t then left.map (Prod.mk t) else some e := by
  induction cs with
  | nil => cases left <;> rfl
  | cons e cs ih =>
    cases left with
    | some c => by_cases he : e.1 = t <;> simpa [put, set, he] using ih
    | none => by_cases he : e.1 = t <;> simpa [put, remove, he] using ih

theorem put_comm (cs : Connections) (h : s ≠ t) (left right : Option Connection) :
    (cs.put s left).put t right = (cs.put t right).put s left := by
  simp only [put_eq_filterMap, List.filterMap_filterMap]
  congr 1
  funext e
  by_cases hs : e.1 = s
  · simp only [hs, h, if_true, if_false, Option.bind_some]
    cases left <;> simp [h]
  · by_cases ht : e.1 = t
    · simp only [ht, if_true, if_false, Option.bind_some, Ne.symm h]
      cases right <;> simp [Ne.symm h]
    · simp [hs, ht]

end Connections

/-! ### Treatments -/

/-- What a service makes of a connection. -/
structure Treatment where
  /-- The connection as it is left, unless it is closed. -/
  left : Option Connection
  /-- It can go on, and joins the queue. -/
  goesOn : Bool := false
  /-- A failure is counted for its entry. -/
  failed : Bool := false
  /-- A write failure of its entry is on report from now on. -/
  reported : Bool := false

/-- What a write makes of a connection whose connect is through. -/
def Connection.offer (c : Connection) (p : Payload) : Except SystemError Nat → Treatment
  | .ok count => { left := some ((c.seek p).record count), goesOn := true }
  | .error e =>
    if e.kind = .wouldBlock then { left := some { c.seek p with ready := false } }
    else if e.kind = .interrupted then { left := some (c.seek p), goesOn := true }
    else { left := none, failed := true, reported := e.kind ≠ .brokenPipe }

/-- The treatment of a connection by a worker with a payload, which may have been told to stop,
given the answer of its socket. -/
def Connection.treatment (c : Connection) (p : Payload) (terminating : Bool)
    (answer : SocketAnswer) : Treatment :=
  if terminating then { left := none }
  else
    match c.finish answer.status with
    | (c, .ok true) => c.offer p answer.write
    | (c, .ok false) => { left := some { c with ready := false } }
    | (_, .error _) => { left := none, failed := true }

namespace Worker

variable {w w' w'' : Worker} {s t : Token} {c d : Connection} {ts us : List Token}
  {answers : Token → SocketAnswer}

/-- A worker with the treatment of a connection carried out. -/
def treat (w : Worker) (t : Token) (c : Connection) (r : Treatment) : Worker :=
  { w with
    connections := w.connections.put t r.left
    roster := w.roster.updateStats c.entry (RemoteStats.mark r.failed r.reported)
    totalTransmitted := w.totalTransmitted + if r.left.isNone then c.transmitted else 0
    openConnections := w.openConnections - r.left.isNone.toNat
    ready := w.ready ++ if r.goesOn then [t] else [] }

/-- A worker with the connection of a token treated, if there is one. -/
def settle (w : Worker) (t : Token) (answer : SocketAnswer) : Worker :=
  match w.connections.get? t with
  | none => w
  | some c => w.treat t c (c.treatment w.payload w.terminating answer)

theorem treat_set (w : Worker) (t : Token) (c d : Connection) :
    w.treat t c { left := some d } = w.setConnection t d := by
  simp [treat, setConnection, Connections.put]

theorem treat_keep (w : Worker) (t : Token) (c d : Connection) :
    w.treat t c { left := some d, goesOn := true } = (w.setConnection t d).keepReady t := by
  simp [treat, setConnection, keepReady, Connections.put]

theorem treat_close (w : Worker) (t : Token) (c : Connection) (failed reported : Bool) :
    w.treat t c { left := none, failed, reported } =
      (w.updateStats c.entry (RemoteStats.mark failed reported)).fold t c := by
  simp [treat, updateStats, fold, Connections.put]

/-- A failed write leaves one mark in the history, whatever was told of it. -/
theorem tellWriteFailure_recordFailure (w : Worker) (c : Connection) (e : SystemError) :
    (w.tellWriteFailure c e).1.updateStats c.entry .recordFailure =
      w.updateStats c.entry (RemoteStats.mark true (e.kind ≠ .brokenPipe)) := by
  -- the flag is set once at most, and the failure is counted in any case
  have hroster : (w.tellWriteFailure c e).1.roster.updateStats c.entry .recordFailure =
      w.roster.updateStats c.entry (RemoteStats.mark true (e.kind ≠ .brokenPipe)) := by
    unfold tellWriteFailure
    split
    · next hpipe => simp [RemoteStats.recordFailure_eq_mark, hpipe]
    · next hother =>
      rw [decide_eq_true hother]
      split
      · next hreported =>
        rw [RemoteStats.recordFailure_eq_mark]
        exact Roster.updateStats_congr (RemoteStats.mark_of_reported hreported true true).symm
      · rw [roster_updateStats, Roster.updateStats_updateStats]
        exact Roster.updateStats_congr (RemoteStats.recordFailure_claimWriteReport _)
  obtain ⟨r, hr⟩ := tellWriteFailure_fst w c e
  rw [hr] at hroster ⊢
  unfold updateStats
  rw [hroster]

theorem writeChunk_eq_treat (h : w.connections.get? t = some c) (write : Except SystemError Nat) :
    (w.writeChunk t c.confirmed write).1 = w.treat t c (c.confirmed.offer w.payload write) := by
  unfold writeChunk Connection.offer
  cases write with
  | ok count => exact (w.treat_keep t c _).symm
  | error e =>
    simp only
    split
    · exact (w.treat_set t c _).symm
    · split
      · exact (w.treat_keep t c _).symm
      · rw [failWrite_eq h (c.confirmed.seek w.payload) e rfl rfl rfl, treat_close,
          tellWriteFailure_recordFailure]

theorem countConnectFailure_eq_mark (w : Worker) (i : Nat) (address : SocketAddress)
    (e : SystemError) :
    (w.countConnectFailure i address e).1 = w.updateStats i (RemoteStats.mark true false) := by
  rw [← RemoteStats.recordFailure_eq_mark]
  rfl

/-- **A service is its treatment, and no more.** -/
theorem serve_eq_settle (w : Worker) (t : Token) (answer : SocketAnswer) :
    (w.serve t answer).1 = w.settle t answer := by
  cases hget : w.connections.get? t with
  | none => simp only [serve, settle, hget, close_eq_self hget, ite_self]
  | some c =>
    simp only [serve, settle, hget, Connection.treatment]
    cases hstops : w.terminating with
    | true =>
      rw [if_pos rfl, if_pos rfl, close_eq hget, treat_close, updateStats,
        Roster.updateStats_mark_false]
    | false =>
      rw [if_neg Bool.false_ne_true, if_neg Bool.false_ne_true]
      -- the connect is through, still goes on, or has failed
      rcases finish_cases c answer.status with hf | hf | ⟨e, hf⟩
      · rw [hf]
        exact writeChunk_eq_treat hget answer.write
      · rw [hf]
        exact (w.treat_set t c _).symm
      · rw [hf, treat_close, ← countConnectFailure_eq_mark w c.entry c.remote e]
        have hcounted : (w.countConnectFailure c.entry c.remote e).1.connections.get? t = some c :=
          hget
        simp only [close_eq hcounted]

/-! ### Two services -/

/-- Two workers that differ at most in the order of their queues and in what is left of a batch. -/
inductive Alike (w : Worker) : Worker → Prop
  | mk (ready batch : List Token) (h : w.ready.Perm ready) : Alike w { w with ready, batch }

theorem Alike.refl (w : Worker) : w.Alike w := .mk w.ready w.batch (.refl _)

theorem Alike.trans (h : w.Alike w') (h' : w'.Alike w'') : w.Alike w'' := by
  cases h with
  | mk ready batch h =>
    cases h' with
    | mk ready' batch' h' => exact .mk ready' batch' (h.trans h')

theorem Alike.symm (h : w.Alike w') : w'.Alike w := by
  cases h with
  | mk ready batch h => exact .mk w.ready w.batch h.symm

theorem alike_batch (w : Worker) (batch : List Token) : Alike { w with batch } w :=
  .mk w.ready w.batch (.refl _)

theorem Alike.settle (h : w.Alike w') (t : Token) (answer : SocketAnswer) :
    (w.settle t answer).Alike (w'.settle t answer) := by
  cases h with
  | mk ready batch h =>
    unfold Worker.settle
    cases hget : w.connections.get? t with
    | none => exact .mk ready batch h
    | some c => exact .mk _ batch (h.append_right _)

theorem get?_settle_of_ne (w : Worker) (h : s ≠ t) (answer : SocketAnswer) :
    (w.settle t answer).connections.get? s = w.connections.get? s := by
  unfold settle
  cases w.connections.get? t with
  | none => rfl
  | some c => exact Connections.get?_put_of_ne _ h _

theorem alike_treat_treat (w : Worker) (h : s ≠ t) (c d : Connection) (q r : Treatment) :
    ((w.treat s c q).treat t d r).Alike ((w.treat t d r).treat s c q) := by
  have hsame : (w.treat t d r).treat s c q =
      { (w.treat s c q).treat t d r with
        ready := ((w.treat t d r).treat s c q).ready } := by
    have hmarks : ((w.roster.updateStats d.entry (RemoteStats.mark r.failed r.reported)).updateStats
        c.entry (RemoteStats.mark q.failed q.reported)) = _ :=
      Roster.updateStats_comm fun _ => RemoteStats.mark_comm ..
    simp only [treat]
    rw [Connections.put_comm _ h, hmarks, Nat.add_right_comm, Nat.sub_right_comm]
  rw [hsame]
  refine .mk _ _ ?_
  show (w.ready ++ _ ++ _).Perm (w.ready ++ _ ++ _)
  rw [List.append_assoc, List.append_assoc]
  exact List.perm_append_comm.append_left _

/-- **Two services can change places.** -/
theorem alike_settle_settle (w : Worker) (s t : Token) (answers : Token → SocketAnswer) :
    ((w.settle s (answers s)).settle t (answers t)).Alike
      ((w.settle t (answers t)).settle s (answers s)) := by
  by_cases h : s = t
  · subst h
    exact .refl _
  · have hs := w.get?_settle_of_ne h (answers t)
    have ht := w.get?_settle_of_ne (Ne.symm h) (answers s)
    unfold settle at hs ht ⊢
    cases hgets : w.connections.get? s with
    | none =>
      -- a token without a connection is passed over, before and after
      rw [hgets] at hs
      simp only [hs]
      exact .refl _
    | some c =>
      cases hgett : w.connections.get? t with
      | none =>
        simp only [hgets, hgett] at ht
        simp only [ht, hgets]
        exact .refl _
      | some d =>
        simp only [hgets, hgett] at hs ht
        simp only [hs, ht]
        exact w.alike_treat_treat h c d _ _

/-! ### The whole queue -/

theorem serveEach_cons (answers : Token → SocketAnswer) (t : Token) (rest : List Token)
    (w : Worker) :
    (serveEach answers (t :: rest) w).1 =
      (serveEach answers rest (({ w with batch := rest } : Worker).settle t (answers t))).1 := by
  rw [← serve_eq_settle]
  rfl

theorem Alike.serveEach (h : w.Alike w') (answers : Token → SocketAnswer) (ts : List Token) :
    (serveEach answers ts w).1.Alike (serveEach answers ts w').1 := by
  induction ts generalizing w w' with
  | nil => exact h
  | cons t rest ih =>
    rw [serveEach_cons, serveEach_cons]
    refine ih (Alike.settle ?_ t (answers t))
    cases h with
    | mk ready batch h => exact .mk ready rest h

theorem alike_serveEach_of_perm (answers : Token → SocketAnswer) (h : ts.Perm us) (w : Worker) :
    (serveEach answers ts w).1.Alike (serveEach answers us w).1 := by
  -- induction on the permutation; only a swap has two services change places
  induction h generalizing w with
  | nil => exact .refl w
  | cons t _ ih =>
    rename_i ts us _
    rw [serveEach_cons, serveEach_cons]
    have hbatch : Alike { w with batch := ts } { w with batch := us } := .mk w.ready us (.refl _)
    exact (ih _).trans ((hbatch.settle t (answers t)).serveEach answers us)
  | swap s t rest =>
    simp only [serveEach_cons]
    -- the batch aside, these are two services that change places
    have hfirst : ∀ (s t : Token) (batch : List Token),
        Alike (({ ({ w with batch } : Worker).settle s (answers s) with batch := rest } :
          Worker).settle t (answers t)) ((w.settle s (answers s)).settle t (answers t)) :=
      fun s t batch => by
        have hs := (alike_batch w batch).settle s (answers s)
        exact ((alike_batch _ rest).trans hs).settle t (answers t)
    have hswapped := w.alike_settle_settle t s answers
    exact ((hfirst t s _).trans (hswapped.trans (hfirst s t _).symm)).serveEach answers rest
  | trans _ _ ih ih' => exact (ih w).trans (ih' w)

/-- **The order in which ready connections are served does not matter.** Whatever each socket would
answer, and in whatever order the connections wait in the queue: the connections are the same after
they were served, and so are the histories of all addresses, the counter of open connections and the
bytes in the total. The queues that are left hold the same connections. All else that a worker knows
is the same as well. -/
theorem service_order_immaterial (w : Worker) (answers : Token → SocketAnswer)
    {first second : List Token} (hfirst : first.Perm w.ready) (hsecond : second.Perm w.ready) :
    let one := (({ w with ready := first } : Worker).serveReady answers).1
    let other := (({ w with ready := second } : Worker).serveReady answers).1
    other.connections = one.connections ∧
    (∀ i, other.roster.stats i = one.roster.stats i) ∧
    other.openConnections = one.openConnections ∧
    other.totalTransmitted = one.totalTransmitted ∧
    other.ready.Perm one.ready ∧
    other = { one with ready := other.ready } := by
  intro one other
  have hbatch : Alike { w with ready := w.batch, batch := first }
      { w with ready := w.batch, batch := second } := .mk w.batch second (.refl _)
  have hperm := alike_serveEach_of_perm answers (hfirst.trans hsecond.symm)
    { w with ready := w.batch, batch := first }
  have halike : one.Alike other := hperm.trans (hbatch.serveEach answers second)
  -- both have emptied their batch
  have hone : one.batch = [] := (controls_serveReady _ answers).2
  have hother : other.batch = [] := (controls_serveReady _ answers).2
  generalize one = one, other = other at halike hone hother ⊢
  -- two workers that differ in their queues at most, and have both emptied the batch
  cases halike with
  | mk ready batch h =>
    have hbatch : batch = one.batch := Eq.trans hother hone.symm
    subst hbatch
    exact ⟨rfl, fun _ => rfl, rfl, rfl, h.symm, rfl⟩

/-- Four connections of one address. The first one can go on, the peer of the second is gone, the
third one is reset and the fourth has to wait: in another order as well. -/
theorem service_order_immaterial_four :
    let os : List Operation := List.replicate 4 (.handle .connect {}) ++
      [Sample.turn [1, 2, 3, 4] 0 (.ok 2)]
    let w := (Sample.worker.performAll os).worker
    let answers : Token → SocketAnswer := fun t => Sample.socket <|
      if t = 1 then .ok 1
      else if t = 2 then .error .brokenPipe
      else if t = 3 then .error (.number 104)
      else .error .tryAgain
    let one := (w.serveReady answers).1
    let other := (({ w with ready := [4, 3, 1, 2] } : Worker).serveReady answers).1
    Worker.create Sample.setup {} = .ok Sample.worker ∧ w.ready = [1, 2, 3, 4] ∧
      other.connections = one.connections ∧ one.connections.tokens = [1, 4] ∧
      other.roster.stats 0 = one.roster.stats 0 ∧ (one.roster.stats 0).failures = 2 ∧
      (one.roster.stats 0).writeFailureReported = true ∧
      other.openConnections = one.openConnections ∧ one.openConnections = 2 ∧
      other.totalTransmitted = one.totalTransmitted ∧ one.totalTransmitted = 4 := by
  intro os w answers one other
  have hready : w.ready = [1, 2, 3, 4] := by decide +kernel
  have hperm : [4, 3, 1, 2].Perm w.ready := by
    rw [hready]
    decide
  obtain ⟨hconnections, hstats, hopen, htotal, -, -⟩ :=
    service_order_immaterial w answers (.refl w.ready) hperm
  exact ⟨Sample.create_setup, hready, hconnections, by decide +kernel, hstats 0, by decide +kernel,
    by decide +kernel, hopen, by decide +kernel, htotal, by decide +kernel⟩

end Worker

end LoadGenerator
