/-
How often the log is told of the failures of an entry.

A closed peer is told every time, and any other failed write once for each entry. A failed connect
is told when it is the first failure of its entry, whatever failed: behind a failed write it is not
told at all.

* **`Worker.connect_failure_told_if_first`** — when failed connects are told, and when that is once
  for every entry that has any;
* **`Worker.write_failures_told_exactly`** — how often failed writes are told, and that a write that
  is only put off leaves no trace.
-/
import LoadGenerator.Proofs.Failures

namespace LoadGenerator

/-! ### Kinds of lines and of writes -/

namespace Notice

/-- A failed connect to an entry is told. -/
def isConnectFailedOf (i : Nat) : Notice → Bool
  | connectFailed j .. => j = i
  | _ => false

/-- The end of a connection to an entry, closed by its peer, is told. -/
def isClosedByOf (i : Nat) : Notice → Bool
  | connectionClosedBy j _ => j = i
  | _ => false

/-- A failed write on a connection to an entry is told. -/
def isWriteFailedOf (i : Nat) : Notice → Bool
  | writeFailed j .. => j = i
  | _ => false

end Notice

namespace Act

/-- A write on a connection to an entry gives a certain error. -/
def isWriteErrorTo (i : Nat) (p : SystemError → Bool) : Act → Bool
  | wrote _ j _ _ (.error e) => j = i && p e
  | _ => false

/-- A connect to an entry turns out to have failed. -/
def isLateFailureTo (i : Nat) : Act → Bool
  | probed _ j (.error _) => j = i
  | _ => false

end Act

/-- The peer has closed the connection. -/
def SystemError.isHangUp (e : SystemError) : Bool := e.kind = .brokenPipe

/-- A write fails for good, and not because the peer has closed the connection. -/
def SystemError.isMishap (e : SystemError) : Bool := !e.isPassing && !e.isHangUp

theorem SystemError.isPassing_of_isHangUp {e : SystemError} (h : e.kind = .brokenPipe) :
    e.isPassing = false := by
  simp [isPassing, h]

/-- Lines of a kind on an entry are among all lines on the entry. -/
theorem filter_linesOn {i : Nat} {p : Notice → Bool} (hp : ∀ n, p n = true → n.isOn i = true)
    (acts : List Act) : (linesOn i acts).filter p = (noticesOf acts).filter p := by
  rw [linesOn, List.filter_filter]
  refine List.filter_congr fun n _ => ?_
  cases h : p n
  · rfl
  · rw [Bool.true_and, hp n h]

/-! ### Failures counted by kind -/

/-- What failed writes say of an act: a write that found its peer gone, or failed in another way. -/
theorem Act.failureTo?_write (i : Nat) (b : Act) :
    (b.failureTo? i).any Failure.isHangUp = b.isWriteErrorTo i SystemError.isHangUp ∧
      (b.failureTo? i).any Failure.isMishap = b.isWriteErrorTo i SystemError.isMishap := by
  -- only a failed write is one of either sort; whether it hangs up is read off its kind
  cases b with
  | dialed j result =>
    cases result with
    | failed e =>
      by_cases hj : j = i <;>
        simp [failureTo?, isWriteErrorTo, hj, Failure.isHangUp, Failure.isMishap]
    | _ => exact ⟨rfl, rfl⟩
  | probed t j result =>
    cases result with
    | error e =>
      by_cases hj : j = i <;>
        simp [failureTo?, isWriteErrorTo, hj, Failure.isHangUp, Failure.isMishap]
    | ok => exact ⟨rfl, rfl⟩
  | wrote t j position chunk result =>
    cases result with
    | error e =>
      by_cases hj : j = i
      · by_cases hpipe : e.kind = .brokenPipe
        · simp [failureTo?, isWriteErrorTo, hj, Failure.isHangUp, Failure.isMishap,
            SystemError.isHangUp, SystemError.isMishap, SystemError.isPassing_of_isHangUp hpipe,
            hpipe]
        · cases hpassing : e.isPassing <;>
            simp [failureTo?, isWriteErrorTo, hj, Failure.isHangUp, Failure.isMishap,
              SystemError.isHangUp, SystemError.isMishap, hpipe, hpassing]
      · simp [failureTo?, isWriteErrorTo, hj]
    | ok => exact ⟨rfl, rfl⟩
  | _ => exact ⟨rfl, rfl⟩

/-- A failed connect shows at once or when the connect is asked for. -/
theorem Act.failureTo?_connect (i : Nat) (b : Act) :
    (b.failureTo? i).any Failure.isConnect =
      (b.isDialTo i DialResult.isFailed || b.isLateFailureTo i) := by
  cases b with
  | dialed j result =>
    cases result with
    | failed e =>
      by_cases hj : j = i <;>
        simp [failureTo?, isDialTo, isLateFailureTo, DialResult.isFailed, Failure.isConnect, hj]
    | _ => simp [failureTo?, isDialTo, isLateFailureTo, DialResult.isFailed]
  | probed t j result =>
    cases result with
    | error e =>
      by_cases hj : j = i <;> simp [failureTo?, isDialTo, isLateFailureTo, Failure.isConnect, hj]
    | ok => rfl
  | wrote t j position chunk result =>
    cases result with
    | error e =>
      by_cases hj : j = i ∧ e.isPassing = false <;>
        simp [failureTo?, isDialTo, isLateFailureTo, Failure.isConnect, hj]
    | ok => rfl
  | _ => rfl

/-- A kind of failures is counted among the acts that tell of it. -/
theorem countP_failuresTo {i : Nat} {p : Failure → Bool} {q : Act → Bool}
    (h : ∀ b : Act, (b.failureTo? i).any p = q b) (acts : List Act) :
    (failuresTo i acts).countP p = acts.countP q := by
  rw [failuresTo, List.countP_filterMap]
  refine List.countP_congr fun b _ => ?_
  rw [← h b]
  cases b.failureTo? i <;> simp

/-- Every failure is of one of three kinds. -/
theorem Failure.length_eq (fs : List Failure) :
    fs.length = fs.countP isConnect + fs.countP isHangUp + fs.countP isMishap := by
  induction fs with
  | nil => rfl
  | cons f fs ih =>
    simp only [List.length_cons, List.countP_cons, ih]
    -- a failed write hangs up or is a mishap, never both
    cases f with
    | connect e =>
      simp [isConnect, isHangUp, isMishap]
      omega
    | write e =>
      by_cases hpipe : e.kind = .brokenPipe <;>
        simp [isConnect, isHangUp, isMishap, hpipe] <;> omega

/-! ### Lines counted by kind -/

/-- What is told of failed connects when these are all failures: the first failure, if it is one. -/
def connectLines (i : Nat) (a : SocketAddress) : List Failure → List Notice
  | .connect e :: _ => [.connectFailed i a e]
  | _ => []

theorem length_connectLines (i : Nat) (a : SocketAddress) (fs : List Failure) :
    (connectLines i a fs).length = if fs.head?.any Failure.isConnect then 1 else 0 := by
  rcases fs with _ | ⟨_ | _, _⟩ <;> rfl

/-- Of all failed connects the one that is the first failure is told, and no other. -/
theorem filter_account_connect (i : Nat) (a : SocketAddress) (earlier fs : List Failure) :
    (account i a earlier fs).filter (Notice.isConnectFailedOf i) =
      if earlier.isEmpty then connectLines i a fs else [] := by
  -- induction on the failures: for the later ones, this one is among the earlier
  induction fs generalizing earlier with
  | nil => simp [account, connectLines]
  | cons f fs ih =>
    rw [account, List.filter_append, ih]
    cases f with
    | connect e => cases earlier <;> simp [Failure.lines, Notice.isConnectFailedOf, connectLines]
    -- a failed write may be told, but not as a failed connect
    | write e =>
      have hnone : ((Failure.write e).lines i a earlier).filter
          (Notice.isConnectFailedOf i) = [] := by
        simp only [Failure.lines]
        split
        · rfl
        · split <;> rfl
      simp [hnone, connectLines]

/-- A closed peer is told every time. -/
theorem countP_account_closedBy (i : Nat) (a : SocketAddress) (earlier fs : List Failure) :
    (account i a earlier fs).countP (Notice.isClosedByOf i) = fs.countP Failure.isHangUp := by
  induction fs generalizing earlier with
  | nil => rfl
  | cons f fs ih =>
    rw [account, List.countP_append, ih, List.countP_cons, Nat.add_comm]
    congr 1
    cases f with
    | connect e =>
      cases earlier <;> simp [Failure.lines, Failure.isHangUp, Notice.isClosedByOf]
    | write e =>
      by_cases hpipe : e.kind = .brokenPipe
      · simp [Failure.lines, Failure.isHangUp, Notice.isClosedByOf, hpipe]
      · cases h : earlier.any Failure.isMishap <;>
          simp [Failure.lines, Failure.isHangUp, Notice.isClosedByOf, hpipe, h]

/-- Another failed write is told when there was none before. -/
theorem countP_account_writeFailed (i : Nat) (a : SocketAddress) (earlier fs : List Failure) :
    (account i a earlier fs).countP (Notice.isWriteFailedOf i) =
      if earlier.any Failure.isMishap then 0 else min 1 (fs.countP Failure.isMishap) := by
  induction fs generalizing earlier with
  | nil => simp [account]
  | cons f fs ih =>
    rw [account, List.countP_append, ih, List.countP_cons, List.any_append]
    cases f with
    | connect e =>
      cases earlier <;> simp [Failure.lines, Failure.isMishap, Notice.isWriteFailedOf]
    | write e =>
      by_cases hpipe : e.kind = .brokenPipe
      · simp [Failure.lines, Failure.isMishap, Notice.isWriteFailedOf, hpipe]
      -- a mishap is told unless there was one before
      · cases h : earlier.any Failure.isMishap <;>
          simp [Failure.lines, Failure.isMishap, Notice.isWriteFailedOf, hpipe, h]

namespace Worker

variable {w w' : Worker} {i : Nat} {a : SocketAddress} {t : Token} {c : Connection}
  {acts more : List Act}

/-- The addresses of a new worker are those that it is made from. -/
theorem address?_of_create {setup : WorkerSetup} {answers : CreationAnswers}
    (h : Worker.create setup answers = .ok w) (i : Nat) :
    w.roster.address? i = setup.addresses[i]? := by
  obtain ⟨r, hr, rfl⟩ := create_cases h
  unfold Roster.ofAddresses? at hr
  split at hr
  · obtain rfl := Option.some.inj hr
    simp [Roster.address?, Function.comp_def]
  · cases hr

/-! ### What is told along a run -/

/-- Of the failed connects to an entry the one that is its first failure is told, and no other. -/
theorem Accounted.connectLines (h : Accounted i a acts w) :
    (noticesOf acts).filter (Notice.isConnectFailedOf i) =
      connectLines i a (failuresTo i acts) := by
  have hon : ∀ n, Notice.isConnectFailedOf i n = true → n.isOn i = true := by
    intro n hn
    cases n <;> first | exact hn | cases hn
  rw [← filter_linesOn hon, h.lines, filter_account_connect]
  rfl

/-- A closed peer is told every time. -/
theorem Accounted.countP_closedBy (h : Accounted i a acts w) :
    (noticesOf acts).countP (Notice.isClosedByOf i) =
      acts.countP (Act.isWriteErrorTo i SystemError.isHangUp) := by
  have hon : ∀ n, Notice.isClosedByOf i n = true → n.isOn i = true := by
    intro n hn
    cases n <;> first | exact hn | cases hn
  rw [List.countP_eq_length_filter, ← filter_linesOn hon, ← List.countP_eq_length_filter, h.lines,
    countP_account_closedBy, countP_failuresTo fun b => (b.failureTo?_write i).1]

/-- Any other failed write is told once. -/
theorem Accounted.countP_writeFailed (h : Accounted i a acts w) :
    (noticesOf acts).countP (Notice.isWriteFailedOf i) =
      min 1 (acts.countP (Act.isWriteErrorTo i SystemError.isMishap)) := by
  have hon : ∀ n, Notice.isWriteFailedOf i n = true → n.isOn i = true := by
    intro n hn
    cases n <;> first | exact hn | cases hn
  rw [List.countP_eq_length_filter, ← filter_linesOn hon, ← List.countP_eq_length_filter, h.lines,
    countP_account_writeFailed, countP_failuresTo fun b => (b.failureTo?_write i).2]
  rfl

/-- The flag of an entry is up once such a write has failed. -/
theorem Accounted.reported_iff (h : Accounted i a acts w) :
    (w.roster.stats i).writeFailureReported = true ↔
      1 ≤ acts.countP (Act.isWriteErrorTo i SystemError.isMishap) := by
  rw [h.reported, ← countP_failuresTo fun b => (b.failureTo?_write i).2, List.any_eq_true,
    Nat.one_le_iff_ne_zero, ← Nat.pos_iff_ne_zero, List.countP_pos_iff]

/-- The counter of an entry is the sum of its failures by kind. -/
theorem Accounted.failures_eq (h : Accounted i a acts w) :
    (w.roster.stats i).failures =
      acts.countP (fun b => b.isDialTo i DialResult.isFailed || b.isLateFailureTo i) +
        acts.countP (Act.isWriteErrorTo i SystemError.isHangUp) +
        acts.countP (Act.isWriteErrorTo i SystemError.isMishap) := by
  rw [h.failures, Failure.length_eq, countP_failuresTo (Act.failureTo?_connect i),
    countP_failuresTo fun b => (b.failureTo?_write i).1,
    countP_failuresTo fun b => (b.failureTo?_write i).2]

/-- A connect that fails at once is no connect that fails later on. -/
theorem countP_connectFailures (i : Nat) (acts : List Act) :
    acts.countP (fun b => b.isDialTo i DialResult.isFailed || b.isLateFailureTo i) =
      acts.countP (Act.isDialTo i DialResult.isFailed) + acts.countP (Act.isLateFailureTo i) := by
  induction acts with
  | nil => rfl
  | cons b acts ih =>
    simp only [List.countP_cons, ih]
    cases b with
    | dialed j result => simp [Act.isLateFailureTo]; omega
    | probed t j result => simp [Act.isDialTo]; omega
    | _ => rfl

/-- What is known of an entry after any course of a new worker. -/
theorem accounted_of_create {setup : WorkerSetup} {creation : CreationAnswers} {w₀ : Worker}
    (hcreate : Worker.create setup creation = .ok w₀) (ha : setup.addresses[i]? = some a)
    (h : w₀.Reaches acts w) : Accounted i a acts w :=
  accounted_of_reaches (fresh_of_create hcreate) ((address?_of_create hcreate i).trans ha) h

/-- **A failed connect is told when it is the first failure of its entry.** Along every run of a new
worker the log is told of the failed connects to an entry at most once. It is told when nothing, not
even a write, had failed on the entry before the first of them. So failed connects are told exactly
once for an entry that has any, if and only if the first failure of the entry is one of them; and
this is so whenever no write on its connections failed for good. -/
theorem connect_failure_told_if_first {setup : WorkerSetup} {creation : CreationAnswers}
    {w₀ : Worker} (hcreate : Worker.create setup creation = .ok w₀) (os : List Operation)
    (h : (w₀.performAll os).worker.Reaches more w) (ha : setup.addresses[i]? = some a) :
    let acts := (w₀.performAll os).acts ++ more
    let failures := failuresTo i acts
    let told := (noticesOf acts).filter (Notice.isConnectFailedOf i)
    let connects := acts.countP fun b => b.isDialTo i DialResult.isFailed || b.isLateFailureTo i
    let expected := if 0 < connects then 1 else 0
    told = connectLines i a failures ∧
    told.length ≤ expected ∧
    (told.length = expected ↔ 0 < connects → failures.head?.any Failure.isConnect) ∧
    (acts.countP (Act.isWriteErrorTo i SystemError.isHangUp) = 0 →
      acts.countP (Act.isWriteErrorTo i SystemError.isMishap) = 0 → told.length = expected) := by
  intro acts failures told connects expected
  -- the log is an account of the failures in order, and so the first line is of the first
  have hacc : Accounted i a acts w :=
    accounted_of_create hcreate ha ((reaches_performAll w₀ os).trans h)
  have htold := hacc.connectLines
  have hconnects : failures.countP Failure.isConnect = connects :=
    countP_failuresTo (Act.failureTo?_connect i) acts
  have hlength : told.length = if failures.head?.any Failure.isConnect then 1 else 0 := by
    rw [show told = _ from htold, length_connectLines]
  have hhead : failures.head?.any Failure.isConnect = true → 0 < connects := by
    intro hfirst
    rw [← hconnects, List.countP_pos_iff]
    obtain ⟨f, hf, hp⟩ := (Option.any_eq_true _ _).mp hfirst
    exact ⟨f, List.mem_of_mem_head? hf, hp⟩
  have hexact : told.length = expected ↔ 0 < connects → failures.head?.any Failure.isConnect := by
    rw [hlength]
    grind
  refine ⟨htold, ?_, hexact, fun hhang hmishap => hexact.mpr fun hpos => ?_⟩
  · rw [hlength]
    grind
  · -- without a failed write every failure is a failed connect, and so is the first one
    have hall : failures.length = failures.countP Failure.isConnect := by
      rw [Failure.length_eq, countP_failuresTo fun b => (b.failureTo?_write i).1,
        countP_failuresTo fun b => (b.failureTo?_write i).2, hhang, hmishap]
      rfl
    rw [← hconnects, ← hall] at hpos
    obtain ⟨f, rest, hf⟩ := List.exists_cons_of_length_pos hpos
    rw [eq_comm, List.countP_eq_length] at hall
    rw [hf]
    exact hall f (hf ▸ List.mem_cons_self)

/-- A connect that is refused after a peer has closed its connection: it is not told. -/
theorem connect_failure_told_if_first_hangUp :
    let os : List Operation :=
      [.handle .connect {}, Sample.turn [1] 0 (.error .brokenPipe),
        .handle .connect { connect := some .networkUnreachable }]
    let acts := (Sample.worker.performAll os).acts ++ []
    let told := (noticesOf acts).filter (Notice.isConnectFailedOf 0)
    Worker.create Sample.setup {} = .ok Sample.worker ∧
      Sample.setup.addresses[0]? = some Sample.address ∧
      failuresTo 0 acts = [.write .brokenPipe, .connect .networkUnreachable] ∧
      told = [] ∧ told.length ≠ 1 := by
  intro os acts told
  obtain ⟨htold, -, -, -⟩ :=
    connect_failure_told_if_first (i := 0) Sample.create_setup os .refl
      (rfl : _ = some Sample.address)
  have hnone : told = [] := htold
  refine ⟨Sample.create_setup, rfl, rfl, hnone, ?_⟩
  rw [hnone]
  nofun

/-! ### Failed writes -/

/-- A write that is only put off leaves the roster and the log alone and closes nothing. -/
theorem serve_passing (hgoes : w.terminating = false) (hget : w.connections.get? t = some c)
    {answer : SocketAnswer} (hthrough : (c.finish answer.status).2 = .ok true) {e : SystemError}
    (hwrite : answer.write = .error e) (hpassing : e.isPassing = true) :
    (w.serve t answer).2 = [.probed t c.entry (.ok true),
        w.offered t c (.error e)] ∧
      (w.serve t answer).1.roster = w.roster ∧
      (w.serve t answer).1.connections.tokens = w.connections.tokens ∧
      (w.serve t answer).1.openConnections = w.openConnections := by
  -- the connect is through, so the chunk is offered and the result is that of the write
  have hfinish : c.finish answer.status = (c.confirmed, .ok true) := by
    rcases finish_cases c answer.status with hf | hf | ⟨e, hf⟩
    · exact hf
    · rw [hf] at hthrough
      cases hthrough
    · rw [hf] at hthrough
      cases hthrough
  simp only [SystemError.isPassing, Bool.or_eq_true, decide_eq_true_eq] at hpassing
  simp only [serve, hgoes, hget, hfinish, writeChunk, hwrite]
  rcases hpassing with hb | hi
  · simp [hb, park, setConnection, Connection.seek, Connection.confirmed]
  · simp [hi, keepReady, setConnection, Connection.seek, Connection.confirmed]

/-- **What the log is told of failed writes.** Along every run of a new worker the end of a
connection whose peer is gone is told every time, and any other write that fails for good once for
each entry, which the flag of the entry remembers. A write that is only put off is no failure of its
entry and closes nothing: failures are the failed connects and the other failed writes alone, and as
many connections were closed for a failure as were lost by them. No more than one failed connect is
told. -/
theorem write_failures_told_exactly {setup : WorkerSetup} {creation : CreationAnswers}
    {w₀ : Worker} (hcreate : Worker.create setup creation = .ok w₀) (os : List Operation)
    (h : (w₀.performAll os).worker.Reaches more w) (ha : setup.addresses[i]? = some a) :
    let acts := (w₀.performAll os).acts ++ more
    let hangUps := acts.countP (Act.isWriteErrorTo i SystemError.isHangUp)
    let mishaps := acts.countP (Act.isWriteErrorTo i SystemError.isMishap)
    let refused := acts.countP (Act.isDialTo i DialResult.isFailed)
    let lost := acts.countP (Act.isLateFailureTo i)
    (noticesOf acts).countP (Notice.isClosedByOf i) = hangUps ∧
    (noticesOf acts).countP (Notice.isWriteFailedOf i) = min 1 mishaps ∧
    ((w.roster.stats i).writeFailureReported = true ↔ 1 ≤ mishaps) ∧
    (w.roster.stats i).failures = refused + lost + hangUps + mishaps ∧
    acts.countP (Act.isCloseTo i CloseCause.isFailure) = lost + hangUps + mishaps ∧
    (∀ t c answer e, w.terminating = false → w.connections.get? t = some c →
      (c.finish answer.status).2 = .ok true → answer.write = .error e → e.isPassing = true →
      (w.serve t answer).2 = [.probed t c.entry (.ok true),
          w.offered t c (.error e)] ∧
        (w.serve t answer).1.roster = w.roster ∧
        (w.serve t answer).1.connections.tokens = w.connections.tokens ∧
        (w.serve t answer).1.openConnections = w.openConnections) ∧
    (noticesOf acts).countP (Notice.isConnectFailedOf i) ≤ 1 := by
  intro acts hangUps mishaps refused lost
  have hreach : w₀.Reaches acts w := (reaches_performAll w₀ os).trans h
  have hacc : Accounted i a acts w := accounted_of_create hcreate ha hreach
  have hfailures := hacc.failures_eq
  rw [countP_connectFailures] at hfailures
  -- the books say the same of the failures, in terms of what was closed
  have hbooks := (books_of_reaches (fresh_of_create hcreate) hreach i).2.1
  -- what is closed for a failure and what failed differ by the dials alone
  refine ⟨hacc.countP_closedBy, hacc.countP_writeFailed, hacc.reported_iff, hfailures, by omega,
    fun t c answer e hgoes hget hthrough hwrite hpassing =>
      serve_passing hgoes hget hthrough hwrite hpassing, ?_⟩
  rw [List.countP_eq_length_filter, hacc.connectLines, length_connectLines]
  split <;> decide

/-- Four connections: one peer hangs up, two are reset, and a write on the fourth is put off. -/
theorem write_failures_told_exactly_four :
    let reset : SystemError := .number 104
    let os : List Operation :=
      [.handle .connect {}, .handle .connect {}, .handle .connect {}, .handle .connect {},
        Sample.turn [1] 0 (.error .brokenPipe), Sample.turn [2] 0 (.error reset),
        Sample.turn [3] 0 (.error reset), Sample.turn [4] 0 (.error .tryAgain)]
    let acts := (Sample.worker.performAll os).acts ++ []
    let w := (Sample.worker.performAll os).worker
    Worker.create Sample.setup {} = .ok Sample.worker ∧
      Sample.setup.addresses[0]? = some Sample.address ∧
      (noticesOf acts).countP (Notice.isClosedByOf 0) = 1 ∧
      (noticesOf acts).countP (Notice.isWriteFailedOf 0) = 1 ∧
      (w.roster.stats 0).writeFailureReported = true ∧
      (w.roster.stats 0).failures = 0 + 0 + 1 + 2 ∧
      (w.serve 4 (Sample.socket (.error .tryAgain))).1.roster = w.roster := by
  intro reset os acts w
  obtain ⟨hclosed, htold, hflag, hfailures, -, hpassing, -⟩ :=
    write_failures_told_exactly (w := w) (i := 0) Sample.create_setup os .refl
      (rfl : _ = some Sample.address)
  have hget : w.connections.get? 4 = some
      { remote := Sample.address, entry := 0, state := .established } := by decide +kernel
  have hserve := hpassing 4 _ (Sample.socket (.error .tryAgain)) .tryAgain (by decide +kernel) hget
    rfl rfl rfl
  exact ⟨Sample.create_setup, rfl, hclosed.trans (by decide +kernel),
    htold.trans (by decide +kernel), hflag.mpr (by decide +kernel),
    hfailures.trans (by decide +kernel), hserve.2.1⟩

end Worker

end LoadGenerator
