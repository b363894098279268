/-
What the log is told of the failures of an entry.

Two kinds of failures share the counter of an entry: a connect that fails, at once or later on, and
a write that fails for good. Only the counter decides whether a failed connect is told, and a flag
of its own whether a failed write is.

* **`Failure`**, **`failuresTo`** — the failures of an entry, read off what a worker did;
* **`account`** — what is told of failures that follow one another;
* **`Worker.Accounted`** — the counter, the flag and the log of an entry are those of its failures;
* **`Worker.accounted_of_reaches`** — so it is along every run.

What the log holds of an entry is thereby a function of its failures in order, and every count of
lines is a fact about `account`.
-/
import LoadGenerator.Proofs.Attempts

namespace LoadGenerator

/-! ### Failures -/

/-- What went wrong with an entry: a connect failed, or a write failed for good. -/
inductive Failure where
  | connect (error : SystemError)
  | write (error : SystemError)
  deriving DecidableEq

/-- The error only puts a write off. -/
def SystemError.isPassing (e : SystemError) : Bool :=
  e.kind = .wouldBlock || e.kind = .interrupted

namespace Failure

/-- A connect failed. -/
def isConnect : Failure → Bool
  | connect _ => true
  | write _ => false

/-- A write found that the peer had closed the connection. -/
def isHangUp : Failure → Bool
  | connect _ => false
  | write e => e.kind = .brokenPipe

/-- A write failed for another reason. -/
def isMishap : Failure → Bool
  | connect _ => false
  | write e => e.kind ≠ .brokenPipe

end Failure

/-- The failure of an entry that an act tells of. -/
def Act.failureTo? (i : Nat) : Act → Option Failure
  | dialed j (.failed e) => if j = i then some (.connect e) else none
  | probed _ j (.error e) => if j = i then some (.connect e) else none
  | wrote _ j _ _ (.error e) => if j = i ∧ e.isPassing = false then some (.write e) else none
  | _ => none

/-- The failures of an entry, in order. -/
def failuresTo (i : Nat) (acts : List Act) : List Failure := acts.filterMap (Act.failureTo? i)

/-- The notice is on the fate of a connect or of a connection to an entry. -/
def Notice.isOn (i : Nat) : Notice → Bool
  | connectFailed j .. | connectionClosedBy j _ | writeFailed j .. => j = i
  | _ => false

/-- What the log was told of an entry, in order. -/
def linesOn (i : Nat) (acts : List Act) : List Notice := (noticesOf acts).filter (Notice.isOn i)

@[simp] theorem failuresTo_nil (i : Nat) : failuresTo i [] = [] := rfl

@[simp] theorem failuresTo_cons (i : Nat) (b : Act) (acts : List Act) :
    failuresTo i (b :: acts) = (b.failureTo? i).toList ++ failuresTo i acts := by
  unfold failuresTo
  cases h : b.failureTo? i <;> simp [h]

@[simp] theorem failuresTo_append (i : Nat) (acts more : List Act) :
    failuresTo i (acts ++ more) = failuresTo i acts ++ failuresTo i more :=
  List.filterMap_append

@[simp] theorem linesOn_append (i : Nat) (acts more : List Act) :
    linesOn i (acts ++ more) = linesOn i acts ++ linesOn i more := by
  rw [linesOn, noticesOf, List.filterMap_append, List.filter_append]
  rfl

theorem linesOn_dialed (i j : Nat) (result : DialResult) (acts : List Act) :
    linesOn i (.dialed j result :: acts) = linesOn i acts := rfl

@[simp] theorem failuresTo_told (i : Nat) (notices : List Notice) :
    failuresTo i (notices.map .told) = [] := by
  simp [failuresTo, List.filterMap_map, Function.comp_def, Act.failureTo?]

/-! ### What is to be told -/

/-- What is told of a failure when others came before it: a failed connect if it is the first
failure of all, a closed peer every time, and any other failed write if it is the first of its
kind. -/
def Failure.lines (i : Nat) (a : SocketAddress) (earlier : List Failure) : Failure → List Notice
  | connect e => if earlier.isEmpty then [.connectFailed i a e] else []
  | write e =>
    if e.kind = .brokenPipe then [.connectionClosedBy i a]
    else if earlier.any isMishap then []
    else [.writeFailed i a e]

/-- What is told of failures that follow one another, behind earlier ones. -/
def account (i : Nat) (a : SocketAddress) : (earlier failures : List Failure) → List Notice
  | _, [] => []
  | earlier, f :: rest => f.lines i a earlier ++ account i a (earlier ++ [f]) rest

theorem account_append (i : Nat) (a : SocketAddress) (earlier fs gs : List Failure) :
    account i a earlier (fs ++ gs) = account i a earlier fs ++ account i a (earlier ++ fs) gs := by
  induction fs generalizing earlier with
  | nil => simp [account]
  | cons f fs ih => simp [account, ih]

/-- One more failure is told behind all others. -/
theorem account_concat (i : Nat) (a : SocketAddress) (fs : List Failure) (f : Failure) :
    account i a [] (fs ++ [f]) = account i a [] fs ++ f.lines i a fs := by
  simp [account_append, account]

namespace Worker

variable {w w' w'' : Worker} {i j : Nat} {a : SocketAddress} {t : Token} {c : Connection}
  {acts more : List Act}

/-! ### What is known of an entry -/

/-- Two workers know the same of the failures of an entry. -/
structure KnowsSame (i : Nat) (w w' : Worker) : Prop where
  size : w'.roster.size = w.roster.size
  address : w'.roster.address? i = w.roster.address? i
  failures : (w'.roster.stats i).failures = (w.roster.stats i).failures
  reported : (w'.roster.stats i).writeFailureReported = (w.roster.stats i).writeFailureReported

theorem KnowsSame.of_eq (h : w'.roster = w.roster) : KnowsSame i w w' := by
  refine ⟨?_, ?_, ?_, ?_⟩ <;> rw [h]

theorem KnowsSame.trans (h : KnowsSame i w w') (h' : KnowsSame i w' w'') : KnowsSame i w w'' :=
  ⟨h'.size.trans h.size, h'.address.trans h.address, h'.failures.trans h.failures,
    h'.reported.trans h.reported⟩

/-- A change to the history of another entry goes unnoticed. -/
theorem KnowsSame.updateStats (hj : j < w.roster.size) (hne : j ≠ i)
    (f : RemoteStats → RemoteStats) :
    KnowsSame i w (w.updateStats j f) := by
  have hstats : (w.updateStats j f).roster.stats i = w.roster.stats i := by
    rw [roster_updateStats, Roster.stats_updateStats _ hj, if_neg hne]
  exact ⟨by simp, by simp, by rw [hstats], by rw [hstats]⟩

theorem KnowsSame.attempt (w : Worker) (i : Nat) : KnowsSame i w w.attempt := by
  refine ⟨by simp [Worker.attempt], address?_attempt w i, ?_, ?_⟩
  · rw [stats_attempt]
    split <;> rfl
  · rw [stats_attempt]
    split <;> rfl

/-- The counter, the flag and the log of an entry are those of its failures. -/
structure Accounted (i : Nat) (a : SocketAddress) (acts : List Act) (w : Worker) : Prop where
  address : w.roster.address? i = some a
  failures : (w.roster.stats i).failures = (failuresTo i acts).length
  reported : (w.roster.stats i).writeFailureReported = (failuresTo i acts).any Failure.isMishap
  lines : linesOn i acts = account i a [] (failuresTo i acts)

/-- Acts without a failure of the entry leave its account as it is. -/
theorem Accounted.calm (h : Accounted i a acts w) (hsame : KnowsSame i w w')
    (hfailures : failuresTo i more = []) (hlines : linesOn i more = []) :
    Accounted i a (acts ++ more) w' where
  address := hsame.address.trans h.address
  failures := by rw [hsame.failures, h.failures, failuresTo_append, hfailures, List.append_nil]
  reported := by rw [hsame.reported, h.reported, failuresTo_append, hfailures, List.append_nil]
  lines := by
    rw [linesOn_append, failuresTo_append, hlines, hfailures, List.append_nil, List.append_nil,
      h.lines]

/-- A failure of the entry that is counted, marked and told as it should be. -/
theorem Accounted.charge (h : Accounted i a acts w) {f : Failure}
    (haddress : w'.roster.address? i = w.roster.address? i)
    (hcount : (w'.roster.stats i).failures = (w.roster.stats i).failures + 1)
    (hreported : (w'.roster.stats i).writeFailureReported =
      ((w.roster.stats i).writeFailureReported || f.isMishap))
    (hfailures : failuresTo i more = [f])
    (hlines : linesOn i more = f.lines i a (failuresTo i acts)) :
    Accounted i a (acts ++ more) w' where
  address := haddress.trans h.address
  failures := by simp [hcount, h.failures, hfailures]
  reported := by simp [hreported, h.reported, hfailures]
  lines := by rw [linesOn_append, failuresTo_append, hfailures, hlines, account_concat, h.lines]

/-! ### Failed connects -/

/-- A failed connect changes the history of its own entry. -/
theorem stats_countConnectFailure (hj : j < w.roster.size) (address : SocketAddress)
    (e : SystemError) (i : Nat) :
    (w.countConnectFailure j address e).1.roster.stats i =
      if j = i then (w.roster.stats i).recordFailure else w.roster.stats i :=
  Roster.stats_updateStats w.roster hj i _

/-- A failed connect is told when the counter of its entry was at zero. -/
theorem lines_countConnectFailure (hj : j < w.roster.size) (address : SocketAddress)
    (e : SystemError) (i : Nat) :
    linesOn i (w.countConnectFailure j address e).2 =
      if j = i ∧ (w.roster.stats i).failures = 0 then [.connectFailed i address e] else [] := by
  -- the failure is counted before the count is looked at
  have hstats : (w.updateStats j .recordFailure).roster.stats j =
      (w.roster.stats j).recordFailure := by
    rw [roster_updateStats, Roster.stats_updateStats _ hj, if_pos rfl]
  simp only [countConnectFailure, hstats, RemoteStats.isFirstFailure, RemoteStats.recordFailure]
  by_cases hi : j = i
  · subst hi
    by_cases hzero : (w.roster.stats j).failures = 0 <;>
      simp [hzero, linesOn, noticesOf, Act.notice?, Notice.isOn]
  · by_cases hzero : (w.roster.stats j).failures = 0 <;>
      simp [hzero, hi, linesOn, noticesOf, Act.notice?, Notice.isOn]

/-- A connect to the entry fails. -/
theorem Accounted.failConnect (h : Accounted i a acts w) {e : SystemError}
    (hroster : w'.roster = (w.countConnectFailure i a e).1.roster)
    (hfailures : failuresTo i more = [.connect e])
    (hlines : linesOn i more = linesOn i (w.countConnectFailure i a e).2) :
    Accounted i a (acts ++ more) w' := by
  have hi : i < w.roster.size := Roster.lt_size_of_address? h.address
  have hstats : w'.roster.stats i = (w.roster.stats i).recordFailure := by
    rw [hroster, stats_countConnectFailure hi, if_pos rfl]
  -- the counter is at zero exactly when nothing has failed before
  have hzero : (w.roster.stats i).failures = 0 ↔ (failuresTo i acts).isEmpty = true := by
    rw [h.failures, List.length_eq_zero_iff, List.isEmpty_iff]
  refine h.charge (f := .connect e) (by simp [hroster]) ?_ ?_ hfailures ?_
  · rw [hstats]
    rfl
  · rw [hstats, Failure.isMishap, Bool.or_false]
    rfl
  · simp only [hlines, lines_countConnectFailure hi, Failure.lines, true_and, hzero]

/-! ### Failed writes -/

theorem lines_tellWriteFailure (w : Worker) (c : Connection) (e : SystemError) (i : Nat) :
    linesOn i (w.tellWriteFailure c e).2 =
      if c.entry = i then
        if e.kind = .brokenPipe then [.connectionClosedBy i c.remote]
        else if (w.roster.stats i).writeFailureReported then []
        else [.writeFailed i c.remote e]
      else [] := by
  unfold tellWriteFailure
  by_cases hi : c.entry = i
  · subst hi
    by_cases hp : e.kind = .brokenPipe
    · simp [hp, linesOn, noticesOf, Act.notice?, Notice.isOn]
    · by_cases hr : (w.roster.stats c.entry).writeFailureReported = true <;>
        simp [hp, hr, linesOn, noticesOf, Act.notice?, Notice.isOn]
  · by_cases hp : e.kind = .brokenPipe
    · simp [hp, hi, linesOn, noticesOf, Act.notice?, Notice.isOn]
    · by_cases hr : (w.roster.stats c.entry).writeFailureReported = true <;>
        simp [hp, hr, hi, linesOn, noticesOf, Act.notice?, Notice.isOn]

/-- A failed write leaves the flag of its entry up, unless the peer had closed the connection. -/
theorem reported_tellWriteFailure (hc : c.entry < w.roster.size) (e : SystemError) :
    ((w.tellWriteFailure c e).1.roster.stats c.entry).writeFailureReported =
      ((w.roster.stats c.entry).writeFailureReported || decide (e.kind ≠ .brokenPipe)) := by
  unfold tellWriteFailure
  by_cases hp : e.kind = .brokenPipe
  · simp [hp]
  · by_cases hr : (w.roster.stats c.entry).writeFailureReported = true
    · simp [hp, hr]
    · simp [hp, hr, Roster.stats_updateStats _ hc, RemoteStats.claimWriteReport]

theorem address?_tellWriteFailure (w : Worker) (c : Connection) (e : SystemError) (i : Nat) :
    (w.tellWriteFailure c e).1.roster.address? i = w.roster.address? i := by
  rcases tellWriteFailure_cases w c e with h | h <;> rw [h]
  simp

theorem KnowsSame.tellWriteFailure (hc : c.entry < w.roster.size) (hne : c.entry ≠ i)
    (e : SystemError) : KnowsSame i w (w.tellWriteFailure c e).1 := by
  rcases tellWriteFailure_cases w c e with h | h <;> rw [h]
  · exact .of_eq rfl
  · exact .updateStats hc hne _

/-- A write on a connection to the entry fails for good. -/
theorem Accounted.failWrite (h : Accounted c.entry c.remote acts w) {e : SystemError}
    (hroster : w'.roster = ((w.tellWriteFailure c e).1.updateStats c.entry .recordFailure).roster)
    (hfailures : failuresTo c.entry more = [.write e])
    (hlines : linesOn c.entry more = linesOn c.entry (w.tellWriteFailure c e).2) :
    Accounted c.entry c.remote (acts ++ more) w' := by
  have hi : c.entry < w.roster.size := Roster.lt_size_of_address? h.address
  obtain ⟨-, hcount, hsize⟩ := stats_tellWriteFailure hi e c.entry
  -- telling has an effect on the flag of the entry only, and counting comes after it
  have hstats : w'.roster.stats c.entry =
      ((w.tellWriteFailure c e).1.roster.stats c.entry).recordFailure := by
    rw [hroster, roster_updateStats, Roster.stats_updateStats _ (hsize ▸ hi), if_pos rfl]
  refine h.charge (f := .write e) ?_ ?_ ?_ hfailures ?_
  · rw [hroster, roster_updateStats, Roster.address?_updateStats, address?_tellWriteFailure]
  · rw [hstats, ← hcount]
    rfl
  · rw [hstats]
    exact reported_tellWriteFailure hi e
  · simp only [hlines, lines_tellWriteFailure, if_true, Failure.lines, h.reported]

/-! ### Moves -/

theorem Sound.remote_eq (hs : w.Sound) (hc : w.connections.get? t = some c)
    (h : w.roster.address? c.entry = some a) : c.remote = a := by
  have haddressed := hs.addressed _ (Connections.mem_of_get? hc)
  exact Option.some.inj (haddressed.symm.trans h)

/-- Every move keeps the account of every entry. -/
theorem Accounted.move (hs : w.Sound) (h : Accounted i a acts w) (m : Move w more w') :
    Accounted i a (acts ++ more) w' := by
  -- moves on other entries leave the account alone; a failure on this one is put down in it
  cases m with
  | arranged => exact h.calm (.of_eq rfl) rfl rfl
  | marked => exact h.calm (.of_eq rfl) rfl rfl
  | noted hquiet =>
    rename_i b
    cases b with
    | readControl => exact h.calm (.of_eq rfl) rfl rfl
    | told n =>
      -- what is told quietly is on no entry's failures
      have hn : n.isOn i = false := by
        cases n <;> simp_all [Act.isQuiet, Notice.isRationed, Notice.isOn]
      exact h.calm (.of_eq rfl) rfl (by simp [linesOn, noticesOf, Act.notice?, hn])
    | _ => cases hquiet
  | abandoned hgiven next hnext =>
    rename_i result
    -- a dial that is given up has no failure of the connect
    have hnone : failuresTo i [.dialed w.nextEntry result] = [] := by
      cases result <;> first | rfl | exact absurd hgiven Bool.false_ne_true
    exact h.calm ((KnowsSame.attempt w i).trans (.of_eq rfl)) hnone rfl
  | refused e =>
    have hattempt : Accounted i a (acts ++ []) w.attempt := h.calm (.attempt w i) rfl rfl
    rw [List.append_nil] at hattempt
    obtain ⟨notices, hn⟩ := w.attempt.told_of_countConnectFailure w.nextEntry w.nextAddress e
    by_cases hentry : w.nextEntry = i
    · -- the address that was dialed is the one of the entry
      subst hentry
      obtain rfl : w.nextAddress = a := Option.some.inj (w.address?_nextEntry.symm.trans h.address)
      refine hattempt.failConnect (e := e) rfl ?_ (linesOn_dialed ..)
      rw [hn]
      simp [Act.failureTo?]
    -- the counter of another entry goes up, and the line that is told is on that entry
    · have hnext : w.nextEntry < w.attempt.roster.size := by
        simpa [attempt] using w.nextEntry_lt
      have hlines := lines_countConnectFailure hnext w.nextAddress e i
      rw [if_neg fun hand => hentry hand.1] at hlines
      refine hattempt.calm (.updateStats hnext hentry .recordFailure) ?_
        ((linesOn_dialed ..).trans hlines)
      rw [hn]
      simp [Act.failureTo?, hentry]
  | opened => exact h.calm ((KnowsSame.attempt w i).trans (.of_eq rfl)) rfl rfl
  | reaped => exact h.calm (.of_eq rfl) rfl rfl
  | failed hget e =>
    rename_i t c
    obtain ⟨notices, hn⟩ := w.told_of_countConnectFailure c.entry c.remote e
    have hfailures : failuresTo i ([.probed t c.entry (.error e)] ++
        (w.countConnectFailure c.entry c.remote e).2 ++
          [.closed t c.entry c.transmitted (.connectFailed e)]) =
        if c.entry = i then [.connect e] else [] := by
      rw [failuresTo_append, failuresTo_append, hn, failuresTo_told]
      by_cases hentry : c.entry = i <;> simp [Act.failureTo?, hentry]
    have hlines : linesOn i ([.probed t c.entry (.error e)] ++
        (w.countConnectFailure c.entry c.remote e).2 ++
          [.closed t c.entry c.transmitted (.connectFailed e)]) =
        linesOn i (w.countConnectFailure c.entry c.remote e).2 := by
      rw [linesOn_append]
      exact List.append_nil _
    by_cases hentry : c.entry = i
    · subst hentry
      obtain rfl := hs.remote_eq hget h.address
      rw [if_pos rfl] at hfailures
      exact h.failConnect rfl hfailures hlines
    · have hc := hs.entry_lt hget
      rw [lines_countConnectFailure hc, if_neg fun hand => hentry hand.1] at hlines
      rw [if_neg hentry] at hfailures
      have hsame := KnowsSame.updateStats hc hentry .recordFailure
      exact h.calm (hsame.trans (.of_eq rfl)) hfailures hlines
  | waited => exact h.calm (.of_eq rfl) rfl rfl
  | sent => exact h.calm (.of_eq rfl) rfl rfl
  | held hget he ready =>
    -- a write that is put off is no failure
    rename_i t c e
    have hpassing : e.isPassing = true := by simpa [SystemError.isPassing] using he
    exact h.calm (.of_eq rfl) (by simp [Act.failureTo?, hpassing]) rfl
  | broken hget he =>
    rename_i t c e
    obtain ⟨notices, hn⟩ := w.told_of_tellWriteFailure c e
    have hpassing : e.isPassing = false := by simpa [SystemError.isPassing] using he
    have hfailures : failuresTo i ([.probed t c.entry (.ok true),
        w.offered t c (.error e)] ++
          (w.tellWriteFailure c e).2 ++ [.closed t c.entry c.transmitted (.writeFailed e)]) =
        if c.entry = i then [.write e] else [] := by
      rw [failuresTo_append, failuresTo_append, hn, failuresTo_told]
      by_cases hentry : c.entry = i <;> simp [Act.failureTo?, hentry, hpassing]
    have hlines : linesOn i ([.probed t c.entry (.ok true),
        w.offered t c (.error e)] ++
          (w.tellWriteFailure c e).2 ++ [.closed t c.entry c.transmitted (.writeFailed e)]) =
        linesOn i (w.tellWriteFailure c e).2 := by
      rw [linesOn_append]
      exact List.append_nil _
    -- the failure is on this entry, with the address of its connection, or on another one
    by_cases hentry : c.entry = i
    · subst hentry
      obtain rfl := hs.remote_eq hget h.address
      rw [if_pos rfl] at hfailures
      exact h.failWrite rfl hfailures hlines
    · have hc := hs.entry_lt hget
      obtain ⟨-, -, hsize⟩ := stats_tellWriteFailure hc e i
      rw [lines_tellWriteFailure, if_neg hentry] at hlines
      rw [if_neg hentry] at hfailures
      have hsame := (KnowsSame.tellWriteFailure hc hentry e).trans
        (.updateStats (hsize ▸ hc) hentry .recordFailure)
      exact h.calm (hsame.trans (.of_eq rfl)) hfailures hlines

theorem Fresh.accounted (hw : w.Fresh) (h : w.roster.address? i = some a) : Accounted i a [] w where
  address := h
  failures := by
    rw [hw.stats]
    rfl
  reported := by
    rw [hw.stats]
    rfl
  lines := rfl

/-- **Along every run the counter, the flag and the log of an entry are those of its failures.** -/
theorem accounted_of_reaches (hw : w.Fresh) (ha : w.roster.address? i = some a)
    (h : w.Reaches acts w') : Accounted i a acts w' := by
  induction h with
  | refl => exact hw.accounted ha
  | step h m ih => exact ih.move (hw.sound.reaches h) m

end Worker

end LoadGenerator
