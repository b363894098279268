/-
Tokens and the table of connections.

A token is given to one connection in a whole run, and no two live connections ever share one.

* **`Worker.Sound`** — no token twice, all of them issued, and every connection leads to the address
  of its entry;
* **`Worker.Move.kind`** — to the table of connections a move is one of four things: it leaves the
  table as it is, or it opens, feeds or closes a single connection;
* **`Worker.Fresh`** — a worker that owns nothing and has counted nothing, as every new worker does.
-/
import LoadGenerator.Proofs.History

namespace LoadGenerator

/-- An act that opens, feeds and closes no connection. -/
def Act.isIdle : Act → Bool
  | dialed _ (.opened _) | wrote _ _ _ _ (.ok _) | closed .. => false
  | _ => true

/-! ### Sound tables -/

namespace Worker

/-- No token twice, all of them issued, and every connection leads to the address of its entry. -/
structure Sound (w : Worker) : Prop where
  nodup : w.connections.tokens.Nodup
  first_le : firstConnectionToken ≤ w.nextToken
  issued : ∀ t ∈ w.connections.tokens, firstConnectionToken ≤ t ∧ t < w.nextToken
  addressed : ∀ e ∈ w.connections, w.roster.address? e.2.entry = some e.2.remote

variable {w w' : Worker} {t : Token} {c d : Connection} {acts more : List Act}

theorem Sound.lt_next (hs : w.Sound) (h : w.connections.get? t = some c) : t < w.nextToken :=
  (hs.issued t (Connections.mem_tokens_of_get? h)).2

theorem Sound.setConnection (hs : w.Sound) (h : w.connections.get? t = some c)
    (hentry : d.entry = c.entry) (hremote : d.remote = c.remote) : (w.setConnection t d).Sound where
  nodup := by simpa [Worker.setConnection] using hs.nodup
  first_le := hs.first_le
  issued := by simpa [Worker.setConnection] using hs.issued
  addressed := by
    intro e he
    rcases (Connections.mem_set_iff hs.nodup h).mp he with rfl | ⟨he, -⟩
    · show w.roster.address? d.entry = some d.remote
      rw [hentry, hremote]
      exact hs.addressed _ (Connections.mem_of_get? h)
    · exact hs.addressed e he

theorem Sound.updateStats (hs : w.Sound) (i : Nat) (f : RemoteStats → RemoteStats) :
    (w.updateStats i f).Sound where
  nodup := hs.nodup
  first_le := hs.first_le
  issued := hs.issued
  addressed := by simpa [Worker.updateStats] using hs.addressed

theorem Sound.fold (hs : w.Sound) (t : Token) (c : Connection) : (w.fold t c).Sound where
  nodup := Connections.nodup_tokens_remove hs.nodup t
  first_le := hs.first_le
  issued := fun s h => hs.issued s (Connections.mem_tokens_remove.mp h).1
  addressed := fun e h => hs.addressed e (Connections.mem_remove.mp h).1

@[simp] theorem address?_attempt (w : Worker) (i : Nat) :
    w.attempt.roster.address? i = w.roster.address? i := by
  unfold attempt
  rw [Roster.address?_updateStats]
  rfl

theorem Sound.attempt (hs : w.Sound) {next : Token} (h : w.nextToken ≤ next) :
    Sound { w.attempt with nextToken := next } where
  nodup := hs.nodup
  first_le := Nat.le_trans hs.first_le h
  issued := fun t ht => ⟨(hs.issued t ht).1, Nat.lt_of_lt_of_le (hs.issued t ht).2 h⟩
  addressed := by
    intro e h
    show w.attempt.roster.address? e.2.entry = some e.2.remote
    rw [address?_attempt]
    exact hs.addressed e h

theorem address?_nextEntry (w : Worker) :
    w.roster.address? w.nextEntry = some w.nextAddress := by
  have h : w.roster.selectNext.1.val < w.roster.remotes.size := w.roster.selectNext.1.isLt
  unfold Roster.address? nextEntry nextAddress
  rw [Array.getElem?_eq_getElem h]
  rfl

theorem Sound.adopt (hs : w.Sound) : w.adopt.Sound where
  nodup := by
    -- every token in the table was issued, and the next one was not
    have hfresh : w.nextToken ∉ w.connections.tokens := fun h =>
      Nat.lt_irrefl _ (hs.issued _ h).2
    show (w.connections.add _ _).tokens.Nodup
    rw [Connections.tokens_add, List.nodup_append]
    refine ⟨hs.nodup, by simp, fun s hmem u hu => ?_⟩
    rw [List.mem_singleton.mp hu]
    rintro rfl
    exact hfresh hmem
  first_le := Nat.le_succ_of_le hs.first_le
  issued := by
    intro s h
    have h : s ∈ (w.connections.add _ _).tokens := h
    rw [Connections.tokens_add, List.mem_append, List.mem_singleton] at h
    show _ ∧ s < w.nextToken + 1
    rcases h with h | rfl
    · exact ⟨(hs.issued s h).1, Nat.lt_succ_of_lt (hs.issued s h).2⟩
    · exact ⟨hs.first_le, Nat.lt_succ_self _⟩
  addressed := by
    intro e h
    have h : e ∈ w.connections ++ [_] := h
    show w.attempt.roster.address? e.2.entry = some e.2.remote
    rw [address?_attempt]
    rcases List.mem_append.mp h with h | h
    · exact hs.addressed e h
    · rw [List.mem_singleton.mp h]
      exact address?_nextEntry w

theorem Sound.move (hs : w.Sound) (m : Move w acts w') : w'.Sound := by
  cases m with
  | arranged => exact ⟨hs.nodup, hs.first_le, hs.issued, hs.addressed⟩
  | marked h ready => exact hs.setConnection h rfl rfl
  | noted => exact hs
  | abandoned _ _ hnext => exact hs.attempt hnext
  | refused e => exact (hs.attempt (Nat.le_refl _)).updateStats _ _
  | opened => exact hs.adopt
  | reaped => exact hs.fold _ _
  | failed => exact (hs.updateStats _ _).fold _ _
  | waited h => exact hs.setConnection h rfl rfl
  | sent h count => exact hs.setConnection h rfl rfl
  | held h _ ready => exact hs.setConnection h rfl rfl
  | broken h =>
    rename_i c e _
    -- what is told may touch the history of an entry, which soundness does not look at
    have htold : (w.tellWriteFailure c e).1.Sound := by
      rcases tellWriteFailure_cases w c e with h | h
      · rwa [h]
      · rw [h]
        exact hs.updateStats _ _
    exact (htold.updateStats _ _).fold _ _

theorem Sound.reaches (hs : w.Sound) (h : w.Reaches acts w') : w'.Sound := by
  induction h with
  | refl => exact hs
  | step _ m ih => exact ih.move m

/-! ### What a move is to the table -/

/-- What the books of a worker know of a live connection. -/
def outline (e : Token × Connection) : Token × Nat × Nat := (e.1, e.2.entry, e.2.transmitted)

/-- A move as the table of connections sees it. -/
inductive TableMove (w : Worker) : List Act → Worker → Prop
  /-- Every connection stays and sends nothing. -/
  | idle {acts : List Act} {w' : Worker} (hacts : ∀ a ∈ acts, a.isIdle = true)
      (hconnections : w'.connections.map outline = w.connections.map outline)
      (hnext : w.nextToken ≤ w'.nextToken) (htotal : w'.totalTransmitted = w.totalTransmitted)
      (hopen : w'.openConnections = w.openConnections) : TableMove w acts w'
  /-- A connection is opened under the next token. -/
  | opened : TableMove w [.dialed w.nextEntry (.opened w.nextToken)] w.adopt
  /-- A write on a connection takes some bytes. -/
  | fed {a : Act} {t : Token} {c d : Connection} {position count : Nat} {chunk : Array UInt8}
      (ha : a.isIdle = true) (h : w.connections.get? t = some c) (hentry : d.entry = c.entry)
      (hbytes : d.transmitted = c.transmitted + count) :
      TableMove w [a, .wrote t c.entry position chunk (.ok count)] (w.setConnection t d)
  /-- A connection is closed. -/
  | closed {acts : List Act} {v : Worker} {t : Token} {c : Connection} {cause : CloseCause}
      (hacts : ∀ a ∈ acts, a.isIdle = true) (h : w.connections.get? t = some c)
      (hconnections : v.connections = w.connections) (hnext : v.nextToken = w.nextToken)
      (htotal : v.totalTransmitted = w.totalTransmitted)
      (hopen : v.openConnections = w.openConnections) :
      TableMove w (acts ++ [.closed t c.entry c.transmitted cause]) (v.fold t c)

theorem map_outline_set (hs : w.Sound) (h : w.connections.get? t = some c)
    (hd : outline (t, d) = outline (t, c)) :
    (w.connections.set t d).map outline = w.connections.map outline := by
  unfold Connections.set
  rw [List.map_map]
  refine List.map_congr_left fun e he => ?_
  -- with no token twice, the entry that is changed is the one looked up
  by_cases het : e.1 = t
  · have hmem : (t, e.2) ∈ w.connections := by rwa [← het]
    rw [← Connections.get?_eq_some_iff hs.nodup, h] at hmem
    have hec : e = (t, c) := Prod.ext het (Option.some.inj hmem).symm
    simp [hec, hd]
  · simp [het]

/-- A connection whose books stay the same is changed without notice. -/
theorem TableMove.of_set (hs : w.Sound) (h : w.connections.get? t = some c)
    (hacts : ∀ a ∈ acts, a.isIdle = true) (hentry : d.entry = c.entry)
    (hbytes : d.transmitted = c.transmitted) : w.TableMove acts (w.setConnection t d) :=
  .idle hacts (map_outline_set hs h (by simp [outline, hentry, hbytes])) (Nat.le_refl _) rfl rfl

theorem isIdle_of_told (notices : List Notice) :
    ∀ a ∈ notices.map Act.told, a.isIdle = true := by
  intro a ha
  obtain ⟨n, -, rfl⟩ := List.mem_map.mp ha
  rfl

/-- **To the table a move is one of four things.** -/
theorem Move.kind (hs : w.Sound) (m : Move w acts w') : w.TableMove acts w' := by
  cases m with
  | arranged => exact .idle (by simp) rfl (Nat.le_refl _) rfl rfl
  | marked h ready => exact .of_set hs h (by simp) rfl rfl
  | noted h =>
    rename_i a
    have ha : a.isIdle = true := by
      cases a <;> first | rfl | simp [Act.isQuiet] at h
    exact .idle (by simpa using ha) rfl (Nat.le_refl _) rfl rfl
  | abandoned h next hnext =>
    rename_i result
    have ha : (Act.dialed w.nextEntry result).isIdle = true := by
      cases result <;> first | rfl | simp [DialResult.isAbandoned] at h
    exact .idle (by simpa using ha) rfl hnext rfl rfl
  | refused e =>
    obtain ⟨notices, hn⟩ := w.attempt.told_of_countConnectFailure w.nextEntry w.nextAddress e
    rw [hn]
    refine .idle ?_ rfl (Nat.le_refl _) rfl rfl
    rw [List.forall_mem_cons]
    exact ⟨rfl, isIdle_of_told notices⟩
  | opened => exact .opened
  | reaped h =>
    have hnone : ∀ a ∈ ([] : List Act), a.isIdle = true := by simp
    exact .closed hnone h rfl rfl rfl rfl
  | failed h e =>
    rename_i t c
    obtain ⟨notices, hn⟩ := w.told_of_countConnectFailure c.entry c.remote e
    rw [hn]
    refine .closed ?_ h rfl rfl rfl rfl
    rw [List.forall_mem_cons]
    exact ⟨rfl, isIdle_of_told notices⟩
  | waited h => exact .of_set hs h (by simp [Act.isIdle]) rfl rfl
  | sent h count => exact .fed rfl h rfl rfl
  | held h _ ready => exact .of_set hs h (by simp [Act.isIdle]) rfl rfl
  | broken h =>
    rename_i t c e _
    obtain ⟨r, hr⟩ := tellWriteFailure_fst w c e
    obtain ⟨notices, hn⟩ := w.told_of_tellWriteFailure c e
    rw [hr, hn]
    refine .closed ?_ h rfl rfl rfl rfl
    rw [List.forall_mem_cons, List.forall_mem_cons]
    exact ⟨rfl, rfl, isIdle_of_told notices⟩

/-! ### New workers -/

/-- A worker from which every record starts: it owns nothing, has counted nothing, and goes on. -/
structure Fresh (w : Worker) : Prop where
  connections : w.connections = []
  nextToken : w.nextToken = firstConnectionToken
  totalTransmitted : w.totalTransmitted = 0
  openConnections : w.openConnections = 0
  terminating : w.terminating = false
  stats : ∀ i, w.roster.stats i = {}

theorem Fresh.sound (h : w.Fresh) : w.Sound where
  nodup := by simp [h.connections]
  first_le := Nat.le_of_eq h.nextToken.symm
  issued := by simp [h.connections]
  addressed := by simp [h.connections]

/-- A fresh worker has made no attempt. -/
theorem Fresh.attempts (h : w.Fresh) : w.report.attempts = 0 := by
  refine total_map_eq_zero fun s hs => ?_
  obtain ⟨e, he, rfl⟩ := List.mem_map.mp hs
  obtain ⟨i, hi, rfl⟩ := Array.mem_iff_getElem.mp (Array.mem_toList_iff.mp he)
  have hstats := h.stats i
  rw [Roster.stats, Roster.stats?, Array.getElem?_eq_getElem hi] at hstats
  rw [show w.roster.remotes[i].stats = {} from hstats]

theorem stats_of_fresh {addresses : Array SocketAddress} {offset : UInt64} {r : Roster}
    (h : Roster.ofAddresses? addresses offset = some r) (i : Nat) : r.stats i = {} := by
  unfold Roster.ofAddresses? at h
  split at h
  · obtain rfl := Option.some.inj h
    simp only [Roster.stats, Roster.stats?, Array.getElem?_map, Option.map_map]
    cases addresses[i]? <;> rfl
  · cases h

theorem create_cases {setup : WorkerSetup} {answers : CreationAnswers}
    (h : Worker.create setup answers = .ok w) :
    ∃ r, Roster.ofAddresses? setup.addresses setup.index.toUInt64 = some r ∧
      w = { index := setup.index, payload := setup.payload, roster := r,
            maxEvents := max setup.maxEvents 1 } := by
  unfold create at h
  split at h
  · cases h
  · split at h
    · cases h
    · next r hr =>
      split at h
      · cases h
      · exact ⟨r, hr, (Except.ok.inj h).symm⟩

theorem fresh_of_create {setup : WorkerSetup} {answers : CreationAnswers}
    (h : Worker.create setup answers = .ok w) : w.Fresh := by
  obtain ⟨r, hr, rfl⟩ := create_cases h
  exact ⟨rfl, rfl, rfl, rfl, rfl, stats_of_fresh hr⟩

theorem payload_of_create {setup : WorkerSetup} {answers : CreationAnswers}
    (h : Worker.create setup answers = .ok w) : w.payload = setup.payload := by
  obtain ⟨r, -, rfl⟩ := create_cases h
  rfl

end Worker

/-! ### A sample -/

namespace Sample

/-- An address of this host. -/
def address : SocketAddress := .v4 ⟨127, 0, 0, 1⟩ 9000

/-- One address, and the payload `abc`. -/
def setup : WorkerSetup :=
  { index := 0, addresses := #[address], payload := ⟨#[97, 98, 99], by decide⟩, maxEvents := 1 }

/-- The worker that is made from it. -/
def worker : Worker :=
  { index := 0, payload := setup.payload, roster := ⟨#[{ address }], by decide, 0⟩, maxEvents := 1 }

theorem create_setup : Worker.create setup {} = .ok worker := by
  simp [Worker.create, Roster.ofAddresses?, setup, worker, address]

/-- A socket whose connect is through, and on which a write goes like this. -/
def socket (write : Except SystemError Nat) : SocketAnswer := { status := ⟨none, none⟩, write }

/-- A turn with these events, this byte in the pipe, and such a write. -/
def turn (events : List Token) (byte : UInt8) (write : Except SystemError Nat) : Worker.Operation :=
  .turn { poll := .ok events, control := .byte byte, dial := {}, sockets := fun _ => socket write }

/-- A connection is opened, sends four bytes in three writes, and is closed by a terminate byte. -/
def operations : List Worker.Operation :=
  [.handle .connect {}, turn [1] 0 (.ok 2), turn [] 0 (.ok 1), turn [] 0 (.error .tryAgain),
    turn [1] 0 (.ok 1), turn [controlToken] Command.terminateByte (.ok 3)]

end Sample

end LoadGenerator
