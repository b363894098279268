/-
Where the bytes and the connections of a worker have gone.

The worker counts its open connections beside the table that holds them, and adds the bytes of a
connection to its total when it closes it. Neither count ever drifts away from what it stands for.

* **`Worker.OpenExact`** — the counter of open connections is the length of the table;
* **`Worker.Conserves`** — between two states, what came in is what is there or went out;
* **`Worker.conserves_of_reaches`** — so it is between any two states of a run;
* **`Worker.settled_of_isFinished`** — a finished worker has added everything to its total.
-/
import LoadGenerator.Proofs.Record

namespace LoadGenerator

namespace Worker

variable {w w' w'' : Worker} {t : Token} {c d : Connection} {acts more : List Act}
  {chunk : Array UInt8}

/-- The counter of open connections is the length of the table. -/
def OpenExact (w : Worker) : Prop := w.openConnections = w.connections.length

/-- The bytes sent on all connections of the worker, live and closed. -/
def sentSoFar (w : Worker) : Nat := w.totalTransmitted + w.liveTransmitted

/-- What came in between two states is there, or went out. -/
structure Conserves (w : Worker) (acts : List Act) (w' : Worker) : Prop where
  connections : w'.connections.length + acts.countP Act.isClosing =
    w.connections.length + acts.countP Act.isOpening
  sent : w'.sentSoFar = w.sentSoFar + tally Act.sent acts
  folded : w'.totalTransmitted = w.totalTransmitted + tally Act.folded acts

theorem Conserves.refl (w : Worker) : Conserves w [] w := ⟨rfl, rfl, rfl⟩

theorem Conserves.trans (h : Conserves w acts w') (h' : Conserves w' more w'') :
    Conserves w (acts ++ more) w'' where
  connections := by
    have hfirst := h.connections
    have hlast := h'.connections
    rw [List.countP_append, List.countP_append]
    omega
  sent := by rw [h'.sent, h.sent, tally_append, Nat.add_assoc]
  folded := by rw [h'.folded, h.folded, tally_append, Nat.add_assoc]

/-! ### What a move does to the sums -/

theorem liveTransmitted_eq_outline (w : Worker) :
    w.liveTransmitted = total ((w.connections.map outline).map fun e => e.2.2) := by
  rw [List.map_map]
  rfl

theorem length_eq_outline (w : Worker) :
    w.connections.length = (w.connections.map outline).length :=
  (List.length_map _).symm

/-- A live connection holds some of the live bytes, and the others hold the rest. -/
theorem liveTransmitted_split (hnd : w.connections.tokens.Nodup)
    (h : w.connections.get? t = some c) :
    w.liveTransmitted = c.transmitted + (w.connections.remove t).transmitted := by
  have hperm := Connections.perm_cons_remove hnd h
  exact total_perm (hperm.map fun e : Token × Connection => e.2.transmitted)

theorem liveTransmitted_set (hnd : w.connections.tokens.Nodup)
    (h : w.connections.get? t = some c) :
    (w.setConnection t d).liveTransmitted =
      d.transmitted + (w.connections.remove t).transmitted := by
  have hperm := Connections.perm_set hnd h d
  exact total_perm (hperm.map fun e : Token × Connection => e.2.transmitted)

theorem length_split (hnd : w.connections.tokens.Nodup) (h : w.connections.get? t = some c) :
    w.connections.length = (w.connections.remove t).length + 1 :=
  (Connections.perm_cons_remove hnd h).length_eq

theorem Conserves.idle (hacts : ∀ a ∈ acts, a.isIdle = true)
    (hconnections : w'.connections.map outline = w.connections.map outline)
    (htotal : w'.totalTransmitted = w.totalTransmitted) : Conserves w acts w' := by
  refine ⟨?_, ?_, ?_⟩
  · rw [length_eq_outline, hconnections, ← length_eq_outline,
      countP_of_idle Act.isClosing_of_isIdle hacts, countP_of_idle Act.isOpening_of_isIdle hacts]
  · rw [tally_of_idle Act.sent_of_isIdle hacts, sentSoFar, liveTransmitted_eq_outline,
      hconnections, ← liveTransmitted_eq_outline, htotal]
    rfl
  · rw [tally_of_idle Act.folded_of_isIdle hacts, htotal]
    rfl

theorem Conserves.opened (w : Worker) (i : Nat) (s : Token) :
    Conserves w [.dialed i (.opened s)] w.adopt := by
  refine ⟨?_, ?_, rfl⟩
  · simp [adopt, Connections.add, Act.isClosing, Act.isOpening]
  · simp [sentSoFar, liveTransmitted, adopt, attempt, Connections.add, Connections.transmitted,
      Act.sent, total]

theorem Conserves.fed (hnd : w.connections.tokens.Nodup) (h : w.connections.get? t = some c)
    {count : Nat} (hbytes : d.transmitted = c.transmitted + count) (i position : Nat) :
    Conserves w [.wrote t i position chunk (.ok count)] (w.setConnection t d) := by
  have hsplit := liveTransmitted_split hnd h
  have hset := liveTransmitted_set (d := d) hnd h
  refine ⟨?_, ?_, rfl⟩
  · rw [connections_setConnection, Connections.set, List.length_map]
    rfl
  · show w.totalTransmitted + (w.setConnection t d).liveTransmitted = _ + count
    rw [sentSoFar, hset, hsplit, hbytes]
    omega

/-- What leaves the table goes to the total. -/
theorem Conserves.closed (hnd : w.connections.tokens.Nodup) (h : w.connections.get? t = some c)
    (i : Nat) (cause : CloseCause) :
    Conserves w [.closed t i c.transmitted cause] (w.fold t c) := by
  have hsplit := liveTransmitted_split hnd h
  refine ⟨?_, ?_, rfl⟩
  · rw [connections_fold, length_split hnd h]
    rfl
  · show w.totalTransmitted + c.transmitted + (w.connections.remove t).transmitted = _ + 0
    rw [sentSoFar, hsplit]
    omega

theorem Move.conserves (hs : w.Sound) (m : Move w acts w') : Conserves w acts w' := by
  cases m.kind hs with
  | idle hacts hconnections _ htotal => exact .idle hacts hconnections htotal
  | opened => exact .opened w _ _
  | fed ha h _ hbytes =>
    rename_i a t c d position count chunk _
    -- the connect is asked for first, and that is idle
    have hidle : Conserves w [a] w := .idle (by simpa using ha) rfl rfl
    exact hidle.trans (.fed hs.nodup h hbytes c.entry position)
  | closed hacts h hconnections _ htotal =>
    -- what is told before the close moves no byte
    have hidle := Conserves.idle hacts (congrArg _ hconnections) htotal
    rw [← hconnections] at h
    exact hidle.trans (.closed (hconnections ▸ hs.nodup) h _ _)

/-- The counter goes down only when a connection leaves the table, so it never stops at zero
early. -/
theorem OpenExact.move (hs : w.Sound) (h : w.OpenExact) (m : Move w acts w') : w'.OpenExact := by
  unfold OpenExact at h ⊢
  cases m.kind hs with
  | idle _ hconnections _ _ hopen =>
    rw [hopen, h, length_eq_outline, ← hconnections, ← length_eq_outline]
  | opened => simp [adopt, Connections.add, h]
  | fed => simpa [setConnection, Connections.set] using h
  | closed _ hc hconnections _ _ hopen =>
    rename_i acts v t c cause _ _ _
    rw [openConnections_fold, connections_fold, hopen, h, length_split hs.nodup hc, hconnections]
    rfl

/-! ### Runs -/

theorem conserves_of_reaches (hs : w.Sound) (h : w.Reaches acts w') : Conserves w acts w' := by
  induction h with
  | refl => exact .refl w
  | step h m ih => exact ih.trans (m.conserves (hs.reaches h))

theorem OpenExact.reaches (hs : w.Sound) (h : w.OpenExact) (hreach : w.Reaches acts w') :
    w'.OpenExact := by
  induction hreach with
  | refl => exact h
  | step hreach m ih => exact ih.move (hs.reaches hreach) m

theorem Fresh.openExact (h : w.Fresh) : w.OpenExact := by
  rw [OpenExact, h.openConnections, h.connections]
  rfl

theorem Fresh.sentSoFar (h : w.Fresh) : w.sentSoFar = 0 := by
  rw [Worker.sentSoFar, h.totalTransmitted, liveTransmitted, h.connections]
  rfl

/-- A finished worker owns nothing, and everything it sent is in its total. -/
theorem settled_of_isFinished (hopen : w.OpenExact) (h : w.isFinished = true) :
    w.openConnections = 0 ∧ w.totalTransmitted = w.sentSoFar := by
  have hempty : w.connections = [] := by
    simp only [isFinished, Bool.and_eq_true, List.isEmpty_iff] at h
    exact h.2
  -- with an empty table both the counter and the live bytes are zero
  rw [OpenExact, hempty] at hopen
  refine ⟨hopen, ?_⟩
  rw [sentSoFar, liveTransmitted, hempty]
  rfl

/-- A run that ends well ends with a finished worker. -/
theorem isFinished_of_run {answers : List TurnAnswers} (h : (w.run answers).ending = .finished) :
    (w.run answers).worker.isFinished = true := by
  induction answers generalizing w with
  | nil =>
    unfold run at h ⊢
    split
    · assumption
    · simp_all
  | cons a rest ih =>
    unfold run at h ⊢
    split
    · assumption
    · next hbusy =>
      rw [if_neg hbusy] at h
      simp only at h ⊢
      split at h
      · next hend =>
        exact ih h
      · cases h
      · cases h

end Worker

end LoadGenerator
