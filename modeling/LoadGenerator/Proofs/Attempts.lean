/-
Where the attempts on an address have gone.

Every attempt is on its way, has failed, was given up, or ended with the worker. Nothing is counted
twice and nothing is lost, although attempts and failures are counted at many places and long after
one another.

* **`Worker.Move.historyGrows`** — what a move adds to the history of an entry can be read off what
  is done in it;
* **`Worker.Move.live_eq`** — and so can the change in the number of its live connections;
* **`Worker.attempts_balance`** — the balance, for every run and every entry.
-/
import LoadGenerator.Proofs.Record

namespace LoadGenerator

/-! ### Histories of entries -/

namespace Roster

theorem stats_updateStats (r : Roster) {i : Nat} (hi : i < r.size) (j : Nat)
    (f : RemoteStats → RemoteStats) :
    (r.updateStats i f).stats j = if i = j then f (r.stats j) else r.stats j := by
  unfold stats
  rw [stats?_updateStats]
  by_cases h : i = j
  · subst h
    have hget : r.remotes[i]? = some r.remotes[i] := Array.getElem?_eq_getElem hi
    simp [stats?, hget]
  · simp [h]

theorem lt_size_of_address? {r : Roster} {i : Nat} {a : SocketAddress} (h : r.address? i = some a) :
    i < r.size := by
  unfold address? at h
  rw [Option.map_eq_some_iff] at h
  obtain ⟨e, he, -⟩ := h
  exact (Array.getElem?_eq_some_iff.mp he).choose

end Roster

/-! ### Kinds of dials and closes -/

/-- A dial is given up, fails, or opens a connection. -/
theorem countP_isDialTo (i : Nat) (acts : List Act) :
    acts.countP (Act.isDialTo i fun _ => true) =
      acts.countP (Act.isDialTo i DialResult.isAbandoned) +
        acts.countP (Act.isDialTo i DialResult.isFailed) +
        acts.countP (Act.isDialTo i DialResult.isOpened) := by
  induction acts with
  | nil => rfl
  | cons a acts ih =>
    simp only [List.countP_cons, ih]
    cases a with
    | dialed j result =>
      by_cases h : j = i <;> cases result <;>
        simp [Act.isDialTo, DialResult.isAbandoned, DialResult.isFailed, DialResult.isOpened, h] <;>
        omega
    | _ => rfl

/-- A close is a failure, or ends a connection with the worker. -/
theorem countP_isCloseTo (i : Nat) (acts : List Act) :
    acts.countP (Act.isCloseTo i fun _ => true) =
      acts.countP (Act.isCloseTo i CloseCause.isFailure) +
        acts.countP (Act.isCloseTo i CloseCause.isReaping) := by
  induction acts with
  | nil => rfl
  | cons a acts ih =>
    simp only [List.countP_cons, ih]
    cases a with
    | closed t j bytes cause =>
      by_cases h : j = i <;> cases cause <;>
        simp [Act.isCloseTo, CloseCause.isFailure, CloseCause.isReaping, h] <;> omega
    | _ => rfl

/-! Telling is neither a dial nor a close. -/

@[simp] theorem isDialTo_comp_told (i : Nat) (p : DialResult → Bool) :
    Act.isDialTo i p ∘ Act.told = fun _ => false := rfl

@[simp] theorem isCloseTo_comp_told (i : Nat) (p : CloseCause → Bool) :
    Act.isCloseTo i p ∘ Act.told = fun _ => false := rfl

namespace Worker

variable {w w' : Worker} {t : Token} {c d : Connection} {acts more : List Act}

/-- The live connections to an entry. -/
def liveTo (w : Worker) (i : Nat) : Nat := w.connections.countP fun e => e.2.entry = i

theorem nextEntry_lt (w : Worker) : w.nextEntry < w.roster.size := w.roster.selectNext.1.isLt

theorem stats_attempt (w : Worker) (i : Nat) :
    w.attempt.roster.stats i =
      if w.nextEntry = i then (w.roster.stats i).recordAttempt else w.roster.stats i :=
  Roster.stats_updateStats w.roster.selectNext.2 w.nextEntry_lt i _

theorem Sound.entry_lt (hs : w.Sound) (hc : w.connections.get? t = some c) :
    c.entry < w.roster.size :=
  Roster.lt_size_of_address? (hs.addressed _ (Connections.mem_of_get? hc))

/-- What is told before a write failure is counted touches neither attempts nor failures. -/
theorem stats_tellWriteFailure (hc : c.entry < w.roster.size) (e : SystemError) (i : Nat) :
    ((w.tellWriteFailure c e).1.roster.stats i).attempts = (w.roster.stats i).attempts ∧
      ((w.tellWriteFailure c e).1.roster.stats i).failures = (w.roster.stats i).failures ∧
      (w.tellWriteFailure c e).1.roster.size = w.roster.size := by
  rcases tellWriteFailure_cases w c e with h | h
  · rw [h]
    exact ⟨rfl, rfl, rfl⟩
  · rw [h, roster_updateStats, Roster.stats_updateStats _ hc, Roster.size_updateStats]
    split <;> exact ⟨rfl, rfl, rfl⟩

/-! ### What a move adds -/

/-- The history of an entry grew by what the acts say. -/
def HistoryGrows (w : Worker) (acts : List Act) (w' : Worker) (i : Nat) : Prop :=
  (w'.roster.stats i).attempts =
    (w.roster.stats i).attempts + acts.countP (Act.isDialTo i fun _ => true) ∧
  (w'.roster.stats i).failures =
    (w.roster.stats i).failures + acts.countP (Act.isDialTo i DialResult.isFailed) +
      acts.countP (Act.isCloseTo i CloseCause.isFailure)

/-- Acts without a dial or a close leave every history alone. -/
theorem HistoryGrows.of_eq {i : Nat} (hroster : w'.roster = w.roster)
    (hdial : ∀ p, acts.countP (Act.isDialTo i p) = 0)
    (hclose : acts.countP (Act.isCloseTo i CloseCause.isFailure) = 0) :
    HistoryGrows w acts w' i := by
  rw [HistoryGrows, hroster, hdial, hdial, hclose]
  exact ⟨rfl, rfl⟩

/-- What a move adds to the histories can be read off what is done in it. -/
theorem Move.historyGrows (hs : w.Sound) (m : Move w acts w') (i : Nat) :
    HistoryGrows w acts w' i := by
  cases m with
  | arranged => exact .of_eq rfl (fun _ => rfl) rfl
  | marked => exact .of_eq rfl (fun _ => rfl) rfl
  | noted h =>
    rename_i a
    cases a with
    | readControl => exact .of_eq rfl (fun _ => rfl) rfl
    | told => exact .of_eq rfl (fun _ => rfl) rfl
    | _ => simp [Act.isQuiet] at h
  | abandoned h next hnext =>
    rename_i result
    -- the attempt was counted before anything could go wrong
    have hfailed : result.isFailed = false := by
      cases result <;> first | rfl | simp [DialResult.isAbandoned] at h
    unfold HistoryGrows
    rw [show ({ w.attempt with nextToken := next } : Worker).roster = w.attempt.roster from rfl,
      stats_attempt]
    by_cases hi : w.nextEntry = i <;>
      simp [Act.isDialTo, Act.isCloseTo, RemoteStats.recordAttempt, hi, hfailed]
  | refused e =>
    obtain ⟨notices, hn⟩ := w.attempt.told_of_countConnectFailure w.nextEntry w.nextAddress e
    unfold HistoryGrows
    rw [hn, roster_countConnectFailure,
      Roster.stats_updateStats _ (by simpa [attempt] using w.nextEntry_lt), stats_attempt]
    by_cases hi : w.nextEntry = i <;>
      simp [Act.isDialTo, Act.isCloseTo, DialResult.isFailed, RemoteStats.recordAttempt,
        RemoteStats.recordFailure, hi]
  | opened =>
    unfold HistoryGrows
    rw [roster_adopt, stats_attempt]
    by_cases hi : w.nextEntry = i <;>
      simp [Act.isDialTo, Act.isCloseTo, DialResult.isFailed, RemoteStats.recordAttempt, hi]
  | reaped => exact .of_eq rfl (fun _ => rfl) (by simp [Act.isCloseTo, CloseCause.isFailure])
  | failed h e =>
    rename_i t c
    obtain ⟨notices, hn⟩ := w.told_of_countConnectFailure c.entry c.remote e
    unfold HistoryGrows
    rw [hn, roster_fold, roster_countConnectFailure, Roster.stats_updateStats _ (hs.entry_lt h)]
    by_cases hi : c.entry = i <;>
      simp [Act.isDialTo, Act.isCloseTo, CloseCause.isFailure, RemoteStats.recordFailure, hi]
  | waited => exact .of_eq rfl (fun _ => rfl) rfl
  | sent => exact .of_eq rfl (fun _ => rfl) rfl
  | held => exact .of_eq rfl (fun _ => rfl) rfl
  | broken h =>
    rename_i t c e _
    obtain ⟨notices, hn⟩ := w.told_of_tellWriteFailure c e
    -- telling may change the history of the entry, but neither of the two counters
    obtain ⟨hattempts, hfailures, hsize⟩ := stats_tellWriteFailure (hs.entry_lt h) e i
    unfold HistoryGrows
    rw [hn, roster_fold, roster_updateStats, Roster.stats_updateStats _ (hsize ▸ hs.entry_lt h)]
    by_cases hi : c.entry = i <;>
      simp [Act.isDialTo, Act.isCloseTo, CloseCause.isFailure, RemoteStats.recordFailure, hi,
        hattempts, hfailures]

/-! ### Live connections -/

theorem liveTo_eq_outline (w : Worker) (i : Nat) :
    w.liveTo i = (w.connections.map outline).countP fun e => e.2.1 = i := by
  rw [List.countP_map]
  rfl

/-- So does the number of live connections: opened ones come, and closed ones go. -/
theorem Move.live_eq (hs : w.Sound) (m : Move w acts w') (i : Nat) :
    w'.liveTo i + acts.countP (Act.isCloseTo i fun _ => true) =
      w.liveTo i + acts.countP (Act.isDialTo i DialResult.isOpened) := by
  cases m.kind hs with
  | idle hacts hconnections =>
    rw [liveTo_eq_outline, hconnections, ← liveTo_eq_outline,
      countP_of_idle (Act.isCloseTo_of_isIdle · i _) hacts,
      countP_of_idle (Act.isDialTo_of_isIdle · i) hacts]
  | opened =>
    have hlive : w.adopt.liveTo i = w.liveTo i + if w.nextEntry = i then 1 else 0 := by
      unfold liveTo adopt Connections.add
      by_cases hi : w.nextEntry = i <;> simp [hi]
    rw [hlive]
    by_cases hi : w.nextEntry = i <;>
      simp [Act.isCloseTo, Act.isDialTo, DialResult.isOpened, hi]
  | fed ha h hentry =>
    rename_i a t c d position count chunk _
    -- the connection that is fed keeps its entry, and the others are not touched
    have hlive : (w.setConnection t d).liveTo i = w.liveTo i := by
      unfold liveTo
      rw [connections_setConnection, (Connections.perm_set hs.nodup h d).countP_eq,
        (Connections.perm_cons_remove hs.nodup h).countP_eq, List.countP_cons, List.countP_cons,
        hentry]
    have hfirst : ∀ b ∈ [a], b.isIdle = true := by simpa using ha
    rw [hlive, ← List.singleton_append, List.countP_append, List.countP_append,
      countP_of_idle (Act.isCloseTo_of_isIdle · i _) hfirst,
      countP_of_idle (Act.isDialTo_of_isIdle · i) hfirst]
    rfl
  | closed hacts h hconnections =>
    rename_i acts v t c cause _ _ _
    have hlive : w.liveTo i = (v.fold t c).liveTo i + if c.entry = i then 1 else 0 := by
      unfold liveTo
      rw [connections_fold, hconnections, (Connections.perm_cons_remove hs.nodup h).countP_eq,
        List.countP_cons]
      simp
    rw [hlive, List.countP_append, List.countP_append,
      countP_of_idle (Act.isCloseTo_of_isIdle · i _) hacts,
      countP_of_idle (Act.isDialTo_of_isIdle · i) hacts]
    by_cases hi : c.entry = i <;> simp [Act.isCloseTo, Act.isDialTo, hi]

/-! ### The balance -/

/-- Along every run histories and live connections are those that the acts tell of. -/
theorem books_of_reaches (hw : w.Fresh) (h : w.Reaches acts w') (i : Nat) :
    (w'.roster.stats i).attempts = acts.countP (Act.isDialTo i fun _ => true) ∧
      (w'.roster.stats i).failures =
        acts.countP (Act.isDialTo i DialResult.isFailed) +
          acts.countP (Act.isCloseTo i CloseCause.isFailure) ∧
      w'.liveTo i + acts.countP (Act.isCloseTo i fun _ => true) =
        acts.countP (Act.isDialTo i DialResult.isOpened) := by
  induction h with
  | refl => simp [hw.stats, liveTo, hw.connections]
  | step h m ih =>
    obtain ⟨hattempts, hfailures, hlive⟩ := ih
    have hs := hw.sound.reaches h
    -- the move adds as much to each counter as its acts add to the counts
    obtain ⟨hattempted, hfailed⟩ := m.historyGrows hs i
    have hmoved := m.live_eq hs i
    simp only [List.countP_append]
    omega

/-- **Every attempt is accounted for.** At every moment of every run of a new worker, between
operations and in the middle of one, and for every entry of its roster, the attempts are the
failures, the live connections, the dials that were given up without counting as a failure, and the
connections that were closed because the worker stops. A failure is a connect that failed at once or
the end of a connection, and no connection ends twice. So an entry that counts as broken has no live
connection, and none of its attempts was given up or ended with the worker. -/
theorem attempts_balance {setup : WorkerSetup} {creation : CreationAnswers} {w₀ : Worker}
    (hcreate : Worker.create setup creation = .ok w₀) (os : List Operation) {more : List Act}
    {w : Worker} (h : (w₀.performAll os).worker.Reaches more w) (i : Nat) :
    let acts := (w₀.performAll os).acts ++ more
    let abandoned := acts.countP (Act.isDialTo i DialResult.isAbandoned)
    let reaped := acts.countP (Act.isCloseTo i CloseCause.isReaping)
    let s := w.roster.stats i
    s.attempts = s.failures + w.liveTo i + abandoned + reaped ∧
    s.failures + w.liveTo i ≤ s.attempts ∧
    s.failures = acts.countP (Act.isDialTo i DialResult.isFailed) +
      acts.countP (Act.isCloseTo i CloseCause.isFailure) ∧
    (∀ t, acts.countP (Act.isCloseOf t) ≤ 1) ∧
    (s.isBroken = true → w.liveTo i = 0 ∧ abandoned = 0 ∧ reaped = 0) := by
  intro acts abandoned reaped s
  have hw := fresh_of_create hcreate
  have hreach : w₀.Reaches acts w := (reaches_performAll w₀ os).trans h
  obtain ⟨hattempts, hfailures, hlive⟩ := books_of_reaches hw hreach i
  -- a dial that opened a connection is live or was closed, and a close is a failure or a reaping
  have hdials := countP_isDialTo i acts
  have hcloses := countP_isCloseTo i acts
  have hbalance : s.attempts = s.failures + w.liveTo i + abandoned + reaped := by
    show (w.roster.stats i).attempts = (w.roster.stats i).failures + w.liveTo i +
      acts.countP (Act.isDialTo i DialResult.isAbandoned) +
      acts.countP (Act.isCloseTo i CloseCause.isReaping)
    omega
  refine ⟨hbalance, by omega, hfailures, fun t => ?_, fun hbroken => ?_⟩
  · exact (recorded_of_reaches hw hreach).closes_le_one t
  · have hall : s.failures = s.attempts := by
      simp only [RemoteStats.isBroken, Bool.and_eq_true, decide_eq_true_eq] at hbroken
      exact hbroken.2
    omega

/-- Five attempts on one address: a refused connect, a dial without a socket, a broken connection,
one that was closed as the worker stopped, and one that is still there. -/
theorem attempts_balance_five :
    let os : List Operation :=
      [.handle .connect { connect := some .networkUnreachable },
        .handle .connect { socket := some .notPermitted }, .handle .connect {},
        .handle .connect {}, .handle .connect {}, Sample.turn [1] 0 (.error .brokenPipe),
        Sample.turn [controlToken, 2] Command.terminateByte (.ok 0)]
    let w := (Sample.worker.performAll os).worker
    Worker.create Sample.setup {} = .ok Sample.worker ∧
      (w.roster.stats 0).attempts = 5 ∧ w.liveTo 0 = 1 ∧
      (w.roster.stats 0).failures + w.liveTo 0 ≤ 5 ∧
      5 = (w.roster.stats 0).failures + 1 + 1 + 1 := by
  intro os w
  obtain ⟨hbalance, hle, -, -, -⟩ := attempts_balance Sample.create_setup os .refl 0
  exact ⟨Sample.create_setup, rfl, rfl, hle, hbalance⟩

end Worker

end LoadGenerator
