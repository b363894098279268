/-
What became of the connections of an entry that counts as broken.

A connection is confirmed once its connect is through. From then on its socket is not asked again,
so that it ends with a failed write or with the worker. An entry counts as broken by the failures on
it, and those of writes are among them: a broken entry may well have taken every connect.

* **`Worker.Proceeds`** — a row of moves in which no confirmed connection fails to connect;
* **`Worker.proceeds_performAll`** — operations are such rows;
* **`Worker.Confirmed`** — where the confirmed connections are, or how they ended;
* **`Worker.broken_entry_history`** — what the connections to a broken entry went through.
-/
import LoadGenerator.Proofs.Rationing
import LoadGenerator.Proofs.ReadyQueue

namespace LoadGenerator

/-- The close comes after a connect that went through. -/
def CloseCause.followsConnect : CloseCause → Bool
  | terminating | writeFailed _ => true
  | connectFailed _ => false

namespace Worker

variable {w w' w'' w₀ : Worker} {i : Nat} {s t : Token} {c d : Connection} {acts more : List Act}
  {chunk : Array UInt8}

/-! ### Courses in which sockets are asked once -/

/-- Among the connections that are found to have failed in acts, none was confirmed before. -/
def AsksOnce (w : Worker) (acts : List Act) : Prop :=
  ∀ t i e, Act.probed t i (.error e) ∈ acts →
    ∃ c, w.connections.get? t = some c ∧ c.state = .connecting

/-- A row of moves in which no confirmed connection fails to connect. -/
inductive Proceeds (w₀ : Worker) : List Act → Worker → Prop
  | refl : Proceeds w₀ [] w₀
  | step {acts more : List Act} {w w' : Worker} (h : Proceeds w₀ acts w) (m : Move w more w')
      (hasks : w.AsksOnce more) : Proceeds w₀ (acts ++ more) w'

theorem Proceeds.reaches (h : w.Proceeds acts w') : w.Reaches acts w' := by
  induction h with
  | refl => exact .refl
  | step _ m _ ih => exact ih.step m

theorem Proceeds.of_move (m : Move w acts w') (hasks : w.AsksOnce acts) : w.Proceeds acts w' := by
  simpa using refl.step m hasks

theorem Proceeds.trans (h : w.Proceeds acts w') (h' : w'.Proceeds more w'') :
    w.Proceeds (acts ++ more) w'' := by
  induction h' with
  | refl => simpa using h
  | step _ m hasks ih =>
    rw [← List.append_assoc]
    exact ih.step m hasks

/-- Where no connect is found to have failed, every row of moves will do. -/
theorem Reaches.proceeds (h : w.Reaches acts w')
    (hcalm : ∀ t i e, Act.probed t i (.error e) ∉ acts) : w.Proceeds acts w' := by
  induction h with
  | refl => exact .refl
  | step h m ih =>
    refine (ih fun t i e hmem => hcalm t i e (List.mem_append_left _ hmem)).step m ?_
    exact fun t i e hmem => absurd (List.mem_append_right _ hmem) (hcalm t i e)

/-- A confirmed connection is not asked again. -/
theorem connecting_of_finish {status : ConnectStatus} {e : SystemError}
    (h : c.finish status = (d, .error e)) : c.state = .connecting := by
  cases hstate : c.state with
  | connecting => rfl
  | established => simp [Connection.finish, hstate] at h

theorem proceeds_close (w : Worker) (t : Token) :
    w.Proceeds (w.close t .terminating).2 (w.close t .terminating).1 := by
  refine (reaches_close w t).proceeds fun s i e hmem => ?_
  cases h : w.connections.get? t with
  | none =>
    rw [close_eq_self h] at hmem
    cases hmem
  | some c =>
    rw [close_eq h] at hmem
    simp at hmem

theorem proceeds_writeChunk (h : w.connections.get? t = some c) (write : Except SystemError Nat) :
    w.Proceeds (.probed t c.entry (.ok true) :: (w.writeChunk t c.confirmed write).2)
      (w.writeChunk t c.confirmed write).1 := by
  refine (reaches_writeChunk h write).proceeds fun s i e hmem => ?_
  unfold writeChunk at hmem
  -- no result of a write is a failed connect, so there is nothing to show for the acts
  cases write with
  | ok count => simp at hmem
  | error e' =>
    by_cases hb : e'.kind = .wouldBlock
    · simp [hb] at hmem
    · by_cases hi : e'.kind = .interrupted
      · simp [hi] at hmem
      · obtain ⟨notices, hn⟩ := w.told_of_tellWriteFailure c e'
        simp only [hb, hi, if_false] at hmem
        rw [failWrite_eq h (c.confirmed.seek w.payload) e' rfl rfl rfl, hn] at hmem
        simp at hmem

theorem proceeds_serve (w : Worker) (t : Token) (answer : SocketAnswer) :
    w.Proceeds (w.serve t answer).2 (w.serve t answer).1 := by
  unfold serve
  split
  · exact proceeds_close w t
  · cases h : w.connections.get? t with
    | none => exact .refl
    | some c =>
      simp only
      rcases finish_cases c answer.status with hf | hf | ⟨e, hf⟩
      · rw [hf]
        exact proceeds_writeChunk h answer.write
      · rw [hf]
        exact .of_move (.waited h) (by simp [AsksOnce])
      · rw [hf]
        have hget : (w.countConnectFailure c.entry c.remote e).1.connections.get? t = some c := h
        simp only [close_eq hget]
        refine .of_move (.failed h e) fun s j e' hmem => ?_
        -- the connect had not been through before, or it would have been found so again
        obtain ⟨notices, hn⟩ := w.told_of_countConnectFailure c.entry c.remote e
        rw [hn] at hmem
        obtain ⟨rfl, -⟩ : s = t ∧ j = c.entry ∧ e' = e := by simpa using hmem
        exact ⟨c, h, connecting_of_finish hf⟩

theorem proceeds_serveEach (answers : Token → SocketAnswer) (ts : List Token) (w : Worker) :
    w.Proceeds (serveEach answers ts w).2 (serveEach answers ts w).1 := by
  induction ts generalizing w with
  | nil => exact .refl
  | cons t rest ih =>
    have htaken : w.Proceeds [] { w with batch := rest } :=
      .of_move (.arranged ..) (by simp [AsksOnce])
    exact (htaken.trans (proceeds_serve _ t (answers t))).trans (ih _)

theorem proceeds_readControl (w : Worker) (read : ControlRead) (dial : DialAnswers) :
    w.Proceeds (w.readControl read dial).acts (w.readControl read dial).worker := by
  refine (reaches_readControl w read dial).proceeds fun t i e hmem => ?_
  cases (heard_readControl w read dial).silent _ hmem

theorem proceeds_act (w : Worker) (answers : TurnAnswers) :
    w.Proceeds (w.act answers).acts (w.act answers).worker := by
  have hread := proceeds_readControl w answers.control answers.dial
  have hswapped : ∀ v : Worker, v.Proceeds [] { v with ready := v.batch, batch := v.ready } :=
    fun v => .of_move (.arranged ..) (by simp [AsksOnce])
  unfold act
  simp only
  split
  · exact hread
  · exact hread.trans ((hswapped _).trans (proceeds_serveEach answers.sockets _ _))

theorem proceeds_observeAll (w : Worker) (events : List Token) :
    w.Proceeds [] (w.observeAll events) :=
  (reaches_observeAll w events).proceeds (by simp)

theorem proceeds_perform (w : Worker) (o : Operation) :
    w.Proceeds (w.perform o).acts (w.perform o).worker := by
  cases o with
  | handle c answers =>
    refine (reaches_handle w c answers).proceeds fun t i e hmem => ?_
    cases (heard_handle w c answers).silent _ hmem
  | turn answers =>
    show w.Proceeds (w.turn answers).acts (w.turn answers).worker
    unfold turn
    split
    · next events _ => exact (proceeds_observeAll w events).trans (proceeds_act _ answers)
    · split
      · exact proceeds_act w answers
      · exact .refl

/-- **In the course of operations no confirmed connection fails to connect.** -/
theorem proceeds_performAll (w : Worker) (os : List Operation) :
    w.Proceeds (w.performAll os).acts (w.performAll os).worker := by
  induction os generalizing w with
  | nil => exact .refl
  | cons o rest ih => exact (proceeds_perform w o).trans (ih _)

/-! ### Confirmed connections -/

/-- A connection to an entry is live and confirmed. -/
def IsUp (w : Worker) (t : Token) (i : Nat) : Prop :=
  ∃ c, w.connections.get? t = some c ∧ c.entry = i ∧ c.state = .established

/-- A connection to an entry ended otherwise than with its connect. -/
def EndedLater (acts : List Act) (t : Token) (i : Nat) : Prop :=
  ∃ bytes cause, Act.closed t i bytes cause ∈ acts ∧ cause.followsConnect = true

/-- Where the confirmed connections are, or how they ended. -/
structure Confirmed (acts : List Act) (w : Worker) : Prop where
  live : ∀ t c, w.connections.get? t = some c → c.state = .established ∨ 0 < c.transmitted →
    Act.probed t c.entry (.ok true) ∈ acts
  fate : ∀ t i, Act.probed t i (.ok true) ∈ acts → w.IsUp t i ∨ EndedLater acts t i
  written : ∀ t i position chunk result, Act.wrote t i position chunk result ∈ acts →
    Act.probed t i (.ok true) ∈ acts
  lost : ∀ t i bytes e, Act.closed t i bytes (.writeFailed e) ∈ acts →
    ∃ position chunk, Act.wrote t i position chunk (.error e) ∈ acts ∧ e.isPassing = false

/-- What is to be shown of a move, whose acts speak for themselves. -/
theorem Confirmed.step (h : Confirmed acts w)
    (hlive : ∀ t c, w'.connections.get? t = some c → c.state = .established ∨ 0 < c.transmitted →
      Act.probed t c.entry (.ok true) ∈ more ∨
        ∃ d, w.connections.get? t = some d ∧ d.entry = c.entry ∧
          (d.state = .established ∨ 0 < d.transmitted))
    (hfate : ∀ t i, Act.probed t i (.ok true) ∈ more ∨ w.IsUp t i →
      w'.IsUp t i ∨ EndedLater more t i)
    (hwritten : ∀ t i position chunk result, Act.wrote t i position chunk result ∈ more →
      Act.probed t i (.ok true) ∈ more)
    (hlost : ∀ t i bytes e, Act.closed t i bytes (.writeFailed e) ∈ more →
      ∃ position chunk, Act.wrote t i position chunk (.error e) ∈ more ∧ e.isPassing = false) :
    Confirmed (acts ++ more) w' where
  live := by
    intro t c hget hc
    rcases hlive t c hget hc with hnew | ⟨d, hd, hentry, hold⟩
    · exact List.mem_append_right _ hnew
    · exact List.mem_append_left _ (hentry ▸ h.live t d hd hold)
  fate := by
    intro t i hmem
    -- a connection that had ended before stays so
    have hcases : (Act.probed t i (.ok true) ∈ more ∨ w.IsUp t i) ∨ EndedLater acts t i := by
      rcases List.mem_append.mp hmem with hold | hnew
      · rcases h.fate t i hold with hup | hended
        · exact .inl (.inr hup)
        · exact .inr hended
      · exact .inl (.inl hnew)
    rcases hcases with hcase | ⟨bytes, cause, hclosed, hcause⟩
    · rcases hfate t i hcase with hup | ⟨bytes, cause, hclosed, hcause⟩
      · exact .inl hup
      · exact .inr ⟨bytes, cause, List.mem_append_right _ hclosed, hcause⟩
    · exact .inr ⟨bytes, cause, List.mem_append_left _ hclosed, hcause⟩
  written := by
    intro t i position chunk result hmem
    rcases List.mem_append.mp hmem with hold | hnew
    · exact List.mem_append_left _ (h.written t i position chunk result hold)
    · exact List.mem_append_right _ (hwritten t i position chunk result hnew)
  lost := by
    intro t i bytes e hmem
    rcases List.mem_append.mp hmem with hold | hnew
    · obtain ⟨position, chunk, hwrote, he⟩ := h.lost t i bytes e hold
      exact ⟨position, chunk, List.mem_append_left _ hwrote, he⟩
    · obtain ⟨position, chunk, hwrote, he⟩ := hlost t i bytes e hnew
      exact ⟨position, chunk, List.mem_append_right _ hwrote, he⟩

/-- Nothing happens to any connection. -/
theorem Confirmed.rest (h : Confirmed acts w) (hconnections : w'.connections = w.connections)
    (hsilent : ∀ b ∈ more, b.socket? = none) : Confirmed (acts ++ more) w' := by
  refine h.step (fun t c hget hc => ?_) (fun t i hcase => ?_)
    (fun t i position chunk result hmem => ?_) (fun t i bytes e hmem => ?_)
  · exact .inr ⟨c, hconnections ▸ hget, rfl, hc⟩
  · rcases hcase with hmem | hup
    · cases hsilent _ hmem
    · exact .inl (by rwa [IsUp, hconnections])
  · cases hsilent _ hmem
  · cases hsilent _ hmem

/-- A new connection is on its way. -/
theorem Confirmed.adopt (h : Confirmed acts w) (hs : w.Sound) (i : Nat) (s : Token) :
    Confirmed (acts ++ [.dialed i (.opened s)]) w.adopt := by
  have hfresh : w.connections.get? w.nextToken = none :=
    Connections.get?_eq_none_iff.mpr fun hmem => Nat.lt_irrefl _ (hs.issued _ hmem).2
  have hget : ∀ t, w.adopt.connections.get? t = (w.connections.get? t).or
      (if w.nextToken = t then some { remote := w.nextAddress, entry := w.nextEntry } else none) :=
    fun t => Connections.get?_add ..
  refine h.step (fun t c hc hpast => ?_) (fun t i hcase => ?_) (by simp) (by simp)
  · rw [hget] at hc
    cases hold : w.connections.get? t with
    | some d =>
      obtain rfl : d = c := by simpa [hold] using hc
      exact .inr ⟨d, rfl, rfl, hpast⟩
    | none =>
      -- a connection that is just on its way has no past
      by_cases ht : w.nextToken = t
      · obtain rfl : _ = c := by simpa [hold, ht] using hc
        simp at hpast
      · simp [hold, ht] at hc
  · rcases hcase with hmem | ⟨c, hc, hentry, hstate⟩
    · simp at hmem
    · exact .inl ⟨c, by rw [hget, hc]; rfl, hentry, hstate⟩

/-- A connection changes, and may be confirmed by it. -/
theorem Confirmed.change (h : Confirmed acts w) (hc : w.connections.get? t = some c)
    (hentry : d.entry = c.entry)
    (hkeep : c.state = .established → d.state = .established)
    (hpast : d.state = .established ∨ 0 < d.transmitted →
      Act.probed t c.entry (.ok true) ∈ more ∨ c.state = .established ∨ 0 < c.transmitted)
    (hprobed : ∀ s i, Act.probed s i (.ok true) ∈ more →
      s = t ∧ i = c.entry ∧ d.state = .established)
    (hwritten : ∀ s i position chunk result, Act.wrote s i position chunk result ∈ more →
      Act.probed s i (.ok true) ∈ more)
    (hopen : ∀ s i bytes cause, Act.closed s i bytes cause ∉ more) :
    Confirmed (acts ++ more) (w.setConnection t d) := by
  have hself : (w.setConnection t d).connections.get? t = some d := Connections.get?_set_self hc d
  have hother : ∀ s, s ≠ t → (w.setConnection t d).connections.get? s = w.connections.get? s :=
    fun s hst => Connections.get?_set_of_ne _ hst d
  refine h.step (fun s c' hget hc' => ?_) (fun s i hcase => ?_) hwritten
    (fun s i bytes e hmem => absurd hmem (hopen s i bytes _))
  -- the connection that changes, or another one, which is as it was
  · by_cases hst : s = t
    · subst hst
      obtain rfl := Option.some.inj (hself.symm.trans hget)
      rcases hpast hc' with hmem | hold
      · exact .inl (hentry ▸ hmem)
      · exact .inr ⟨c, hc, hentry.symm, hold⟩
    · rw [hother s hst] at hget
      exact .inr ⟨c', hget, rfl, hc'⟩
  · left
    rcases hcase with hmem | ⟨c', hget, rfl, hstate⟩
    · obtain ⟨rfl, rfl, hstate⟩ := hprobed s i hmem
      exact ⟨d, hself, hentry, hstate⟩
    · by_cases hst : s = t
      · subst hst
        obtain rfl := Option.some.inj (hc.symm.trans hget)
        exact ⟨d, hself, hentry, hkeep hstate⟩
      · exact ⟨c', (hother s hst).trans hget, rfl, hstate⟩

/-- A write is offered on a connection whose connect is through. -/
theorem Confirmed.offer (h : Confirmed acts w) (hc : w.connections.get? t = some c)
    (hentry : d.entry = c.entry) (hstate : d.state = .established) (position : Nat)
    (result : Except SystemError Nat) :
    Confirmed (acts ++ [.probed t c.entry (.ok true), .wrote t c.entry position chunk result])
      (w.setConnection t d) := by
  refine h.change hc hentry (fun _ => hstate) (fun _ => .inl List.mem_cons_self) ?_ ?_ (by simp)
  · simp +contextual [hstate]
  · simp +contextual

/-- A connection ends; a confirmed one does not end with its connect. -/
theorem Confirmed.leave (h : Confirmed acts w) (hc : w.connections.get? t = some c)
    {cause : CloseCause} (hconnections : w'.connections = w.connections.remove t)
    (hclosed : Act.closed t c.entry c.transmitted cause ∈ more)
    (hcause : c.state = .established → cause.followsConnect = true)
    (hprobed : ∀ s i, Act.probed s i (.ok true) ∈ more →
      s = t ∧ i = c.entry ∧ cause.followsConnect = true)
    (hwritten : ∀ s i position chunk result, Act.wrote s i position chunk result ∈ more →
      Act.probed s i (.ok true) ∈ more)
    (hlost : ∀ s i bytes e, Act.closed s i bytes (.writeFailed e) ∈ more →
      ∃ position chunk, Act.wrote s i position chunk (.error e) ∈ more ∧ e.isPassing = false) :
    Confirmed (acts ++ more) w' := by
  have hget : ∀ s, w'.connections.get? s = if t = s then none else w.connections.get? s := by
    intro s
    rw [hconnections, Connections.get?_remove]
  refine h.step (fun s c' hc' hpast => ?_) (fun s i hcase => ?_) hwritten hlost
  · rw [hget] at hc'
    split at hc'
    · cases hc'
    · exact .inr ⟨c', hc', rfl, hpast⟩
  · rcases hcase with hmem | ⟨c', hc', rfl, hstate⟩
    · obtain ⟨rfl, rfl, hfollows⟩ := hprobed s i hmem
      exact .inr ⟨_, cause, hclosed, hfollows⟩
    · by_cases hts : t = s
      · subst hts
        obtain rfl := Option.some.inj (hc.symm.trans hc')
        exact .inr ⟨_, cause, hclosed, hcause hstate⟩
      · exact .inl ⟨c', by rw [hget, if_neg hts]; exact hc', rfl, hstate⟩

theorem socket?_of_told (notices : List Notice) : ∀ b ∈ notices.map Act.told, b.socket? = none := by
  intro b hb
  obtain ⟨n, -, rfl⟩ := List.mem_map.mp hb
  rfl

theorem Confirmed.move (h : Confirmed acts w) (hs : w.Sound) (m : Move w more w')
    (hasks : w.AsksOnce more) : Confirmed (acts ++ more) w' := by
  -- only a service confirms or ends a connection; every other move touches none
  cases m with
  | arranged => exact h.rest rfl (by simp)
  | marked hc ready => exact h.change hc rfl id .inr (by simp) (by simp) (by simp)
  | noted hquiet =>
    rename_i b
    refine h.rest rfl ?_
    cases b <;> simp_all [Act.isQuiet, Act.socket?]
  | abandoned => exact h.rest rfl (by simp [Act.socket?])
  | refused e =>
    obtain ⟨notices, hn⟩ := w.attempt.told_of_countConnectFailure w.nextEntry w.nextAddress e
    refine h.rest rfl ?_
    rw [hn, List.forall_mem_cons]
    exact ⟨rfl, socket?_of_told notices⟩
  | opened => exact h.adopt hs _ _
  | reaped hc =>
    exact h.leave hc rfl (List.mem_singleton_self _) (fun _ => rfl) (by simp) (by simp) (by simp)
  | failed hc e =>
    rename_i t c
    obtain ⟨notices, hn⟩ := w.told_of_countConnectFailure c.entry c.remote e
    -- the connect has failed just now, so the connection was still on its way
    obtain ⟨c', hc', hstate⟩ := hasks t c.entry e (by simp)
    obtain rfl := Option.some.inj (hc.symm.trans hc')
    refine h.leave hc rfl (List.mem_append_right _ (List.mem_singleton_self _))
      (fun hup => ?_) ?_ ?_ ?_
    · rw [hstate] at hup
      cases hup
    · rw [hn]
      simp
    · rw [hn]
      simp
    · rw [hn]
      simp
  | waited hc => exact h.change hc rfl id .inr (by simp) (by simp) (by simp)
  | sent hc => refine h.offer hc ?_ ?_ _ _ <;> rfl
  | held hc => refine h.offer hc ?_ ?_ _ _ <;> rfl
  | broken hc he =>
    rename_i t c e
    obtain ⟨notices, hn⟩ := w.told_of_tellWriteFailure c e
    obtain ⟨r, hr⟩ := tellWriteFailure_fst w c e
    have hpassing : e.isPassing = false := by simpa [SystemError.isPassing] using he
    have hconnections : (((w.tellWriteFailure c e).1.updateStats c.entry .recordFailure).fold t
        c).connections = w.connections.remove t := by
      rw [hr]
      rfl
    refine h.leave hc hconnections (List.mem_append_right _ (List.mem_singleton_self _))
      (fun _ => rfl) ?_ ?_ ?_
    · rw [hn]
      simp +contextual [CloseCause.followsConnect]
    · rw [hn]
      simp +contextual
    · rw [hn]
      simp +contextual [hpassing]

theorem Fresh.confirmed (hw : w.Fresh) : Confirmed [] w where
  live := by simp [hw.connections, Connections.get?]
  fate := by simp
  written := by simp
  lost := by simp

/-- **Along every course it is known where the confirmed connections are, or how they ended.** -/
theorem confirmed_of_proceeds (hw : w.Fresh) (h : w.Proceeds acts w') : Confirmed acts w' := by
  induction h with
  | refl => exact hw.confirmed
  | step h m hasks ih => exact ih.move (hw.sound.reaches h.reaches) m hasks

/-! ### Broken entries -/

/-- Writes that failed for good are those that found their peer gone, and the others. -/
theorem countP_lost (i : Nat) (acts : List Act) :
    acts.countP (Act.isWriteErrorTo i fun e => !e.isPassing) =
      acts.countP (Act.isWriteErrorTo i SystemError.isHangUp) +
        acts.countP (Act.isWriteErrorTo i SystemError.isMishap) := by
  induction acts with
  | nil => rfl
  | cons b acts ih =>
    simp only [List.countP_cons, ih]
    -- a write that fails for good is one or the other, by its kind
    cases b with
    | wrote t j position chunk result =>
      cases result with
      | ok => rfl
      | error e =>
        by_cases hpipe : e.kind = .brokenPipe
        · simp [Act.isWriteErrorTo, SystemError.isMishap, SystemError.isHangUp, hpipe,
            SystemError.isPassing_of_isHangUp hpipe]
          omega
        · simp [Act.isWriteErrorTo, SystemError.isMishap, SystemError.isHangUp, hpipe]
          omega
    | _ => rfl

/-- **What the connections to a broken entry went through.** An entry counts as broken when it had
more than ten attempts and as many failures. Then each of its attempts is a connect that failed, at
once or later on, or a write that failed for good, and no connection to it is live. Every connection
to it that was ever confirmed was closed by such a write. So the entry was reached at least once if
and only if such a write is among its failures; if none is, then at no earlier moment was any
connection to it confirmed, or had sent a byte. -/
theorem broken_entry_history {setup : WorkerSetup} {creation : CreationAnswers}
    (hcreate : Worker.create setup creation = .ok w₀) (os : List Operation)
    (h : (w₀.performAll os).worker.Proceeds more w) {a : SocketAddress}
    (ha : setup.addresses[i]? = some a) (hbroken : w.roster.isBroken i = true) :
    let acts := (w₀.performAll os).acts ++ more
    let refused := acts.countP (Act.isDialTo i DialResult.isFailed)
    let failed := acts.countP (Act.isLateFailureTo i)
    let lost := acts.countP (Act.isWriteErrorTo i fun e => !e.isPassing)
    RemoteStats.brokenThreshold < refused + failed + lost ∧
    (w.roster.stats i).attempts = refused + failed + lost ∧
    w.liveTo i = 0 ∧
    (∀ t, Act.probed t i (.ok true) ∈ acts →
      ∃ bytes e, Act.closed t i bytes (.writeFailed e) ∈ acts) ∧
    ((∃ t, Act.probed t i (.ok true) ∈ acts) ↔ 0 < lost) ∧
    (lost = 0 → ∀ earlier later v, acts = earlier ++ later → w₀.Proceeds earlier v →
      v.Proceeds later w → ∀ t c, v.connections.get? t = some c → c.entry = i →
        c.state = .connecting ∧ c.transmitted = 0) := by
  intro acts refused failed lost
  have hw := fresh_of_create hcreate
  have hproceeds : w₀.Proceeds acts w := (proceeds_performAll w₀ os).trans h
  have hconfirmed := confirmed_of_proceeds hw hproceeds
  have hfailures := (accounted_of_create hcreate ha hproceeds.reaches).failures_eq
  rw [countP_connectFailures] at hfailures
  have hlost : lost = _ := countP_lost i acts
  simp only [Roster.isBroken, RemoteStats.isBroken, Bool.and_eq_true, decide_eq_true_eq] at hbroken
  obtain ⟨-, -, -, -, hnone⟩ := attempts_balance hcreate os h.reaches i
  obtain ⟨hlive, -, hreaped⟩ := hnone (by simp [RemoteStats.isBroken, hbroken])
  -- no connection is left, and none ended with the worker
  have hended : ∀ t, Act.probed t i (.ok true) ∈ acts →
      ∃ bytes e, Act.closed t i bytes (.writeFailed e) ∈ acts := by
    intro t hmem
    rcases hconfirmed.fate t i hmem with ⟨c, hget, hentry, -⟩ | ⟨bytes, cause, hclosed, hcause⟩
    · have hin := List.countP_eq_zero.mp hlive _ (Connections.mem_of_get? hget)
      simp [hentry] at hin
    · cases cause with
      | terminating =>
        have hin := List.countP_eq_zero.mp hreaped _ hclosed
        simp [Act.isCloseTo, CloseCause.isReaping] at hin
      | connectFailed => cases hcause
      | writeFailed e => exact ⟨bytes, e, hclosed⟩
  have hreached : (∃ t, Act.probed t i (.ok true) ∈ acts) ↔ 0 < lost := by
    constructor
    · rintro ⟨t, hmem⟩
      obtain ⟨bytes, e, hclosed⟩ := hended t hmem
      obtain ⟨position, chunk, hwrote, he⟩ := hconfirmed.lost t i bytes e hclosed
      exact List.countP_pos_iff.mpr ⟨_, hwrote, by simp [Act.isWriteErrorTo, he]⟩
    · intro hpos
      obtain ⟨b, hb, herror⟩ := List.countP_pos_iff.mp hpos
      unfold Act.isWriteErrorTo at herror
      split at herror
      · next t j position chunk e =>
        obtain ⟨rfl, -⟩ : j = i ∧ _ := by simpa using herror
        exact ⟨t, hconfirmed.written _ _ _ _ _ hb⟩
      · cases herror
  refine ⟨by omega, by omega, hlive, hended, hreached, ?_⟩
  intro hzero earlier later v hsplit hbefore _ t c hget hentry
  -- whatever is confirmed or has sent something was confirmed by an act of the run
  have hpast : ¬(c.state = .established ∨ 0 < c.transmitted) := by
    intro hc
    have hmem := (confirmed_of_proceeds hw hbefore).live t c hget hc
    have hin : Act.probed t i (.ok true) ∈ acts := by
      rw [hsplit, ← hentry]
      exact List.mem_append_left _ hmem
    exact absurd (hreached.mp ⟨t, hin⟩) (by omega)
  rw [not_or, Nat.not_lt, Nat.le_zero_eq] at hpast
  refine ⟨?_, hpast.2⟩
  cases hstate : c.state with
  | connecting => rfl
  | established => exact absurd hstate hpast.1

/-- Eleven connections to one address: each sends two bytes and is then closed by its peer. -/
theorem broken_entry_history_eleven :
    let os : List Operation := (List.range 11).flatMap fun k =>
      [.handle .connect {}, Sample.turn [k + 1] 0 (.ok 2), Sample.turn [] 0 (.error .brokenPipe)]
    let acts := (Sample.worker.performAll os).acts ++ []
    let w := (Sample.worker.performAll os).worker
    Worker.create Sample.setup {} = .ok Sample.worker ∧
      Sample.setup.addresses[0]? = some Sample.address ∧
      w.roster.isBroken 0 = true ∧
      acts.countP (Act.isWriteErrorTo 0 fun e => !e.isPassing) = 11 ∧
      (∃ t, Act.probed t 0 (.ok true) ∈ acts) ∧ w.totalTransmitted = 22 := by
  intro os acts w
  have hbroken : w.roster.isBroken 0 = true := by decide +kernel
  have hlost : acts.countP (Act.isWriteErrorTo 0 fun e => !e.isPassing) = 11 := by decide +kernel
  obtain ⟨-, -, -, -, hreached, -⟩ :=
    broken_entry_history (w := w) (i := 0) Sample.create_setup os .refl
      (rfl : _ = some Sample.address) hbroken
  exact ⟨Sample.create_setup, rfl, hbroken, hlost, hreached.mpr (hlost ▸ by decide),
    by decide +kernel⟩

end Worker

end LoadGenerator
