/-
What a connection carries: its payload, over and over.

A write may take any part of the chunk that it is offered, or nothing, and what happens on other
connections does not matter. Whatever the writes take, one after the other, is a beginning of the
endless repetition of the payload.

* **`Payload.endless`** — the first bytes of the repetition;
* **`streamOn`** — what went out on a connection;
* **`Worker.Paced`** — every cursor stands where the bytes sent so far say it should, up to whole
  laps;
* **`WellPlaced`** — so every write starts where the stream has got to;
* **`Worker.connections_carry_payload`** — the two together, for every run.

The cursor is brought back into the payload by the next look-up only, so on a lap boundary it stands
behind the last byte until then. This is why `Worker.Paced` has `≤`, and speaks of remainders.
-/
import LoadGenerator.Proofs.Record

namespace LoadGenerator

/-! ### The repetition -/

namespace Payload

variable (p : Payload)

/-- The first bytes of the endless repetition. -/
def endless (count : Nat) : List UInt8 := (List.range count).map p.byteAt

theorem byteAt_congr {i j : Nat} (h : i % p.size = j % p.size) : p.byteAt i = p.byteAt j := by
  unfold byteAt
  exact getElem_congr_idx h

theorem endless_add (m n : Nat) :
    p.endless (m + n) = p.endless m ++ (List.range n).map fun k => p.byteAt (m + k) := by
  simp [endless, List.range_add, List.map_map, Function.comp_def]

/-- The first bytes of a chunk are those of the repetition from its position on. -/
theorem take_chunk {position count : Nat} (h : position + count ≤ p.size) :
    (p.chunk position).toList.take count =
      (List.range count).map fun k => p.byteAt (position + k) := by
  have hsize : position + count ≤ p.data.size := h
  rw [toList_chunk]
  apply List.ext_getElem
  · simp only [List.length_take, List.length_drop, Array.length_toList, List.length_map,
      List.length_range]
    omega
  · intro k hk hk'
    have hlt : k < count := by simpa using hk'
    -- no lap ends within a chunk
    have hmod : (position + k) % p.size = position + k := Nat.mod_eq_of_lt (by omega)
    simp [byteAt, hmod]

/-- What is taken of a chunk where the stream has got to continues the stream. -/
theorem endless_append_take {sofar position count : Nat} (hplace : position = sofar % p.size)
    (h : position + count ≤ p.size) :
    p.endless sofar ++ (p.chunk position).toList.take count = p.endless (sofar + count) := by
  rw [endless_add, take_chunk p h]
  congr 1
  refine List.map_congr_left fun k _ => p.byteAt_congr ?_
  rw [hplace, Nat.mod_add_mod]

end Payload

/-! ### Writes in their places -/

namespace Act

/-- The bytes that an act put on a connection: of the chunk that was offered, as many as were
taken. -/
def bytesOn (t : Token) : Act → List UInt8
  | wrote s _ _ chunk (.ok count) => if s = t then chunk.toList.take count else []
  | _ => []

/-- If the act is a write, it takes no more than it is offered. -/
def fits : Act → Bool
  | wrote _ _ _ chunk (.ok count) => count ≤ chunk.size
  | _ => true

/-- A chunk is offered, with whatever result. -/
def isWrite : Act → Bool
  | wrote .. => true
  | _ => false

end Act

/-- What went out on a connection, in order. -/
def streamOn (t : Token) (acts : List Act) : List UInt8 := acts.flatMap (Act.bytesOn t)

/-- No write takes more than it is offered. -/
def WritesFit (acts : List Act) : Prop := ∀ a ∈ acts, a.fits = true

/-- Every write starts where the stream of its connection has got to, and offers the payload from
there on. -/
def WellPlaced (p : Payload) (acts : List Act) : Prop :=
  ∀ before t i position chunk result after,
    acts = before ++ .wrote t i position chunk result :: after →
      position = tally (Act.sentOn t) before % p.size ∧ chunk = p.chunk position

section Placing

variable {p : Payload} {acts more : List Act} {t : Token} {chunk : Array UInt8}

theorem writesFit_append : WritesFit (acts ++ more) ↔ WritesFit acts ∧ WritesFit more :=
  List.forall_mem_append

theorem WritesFit.le_chunk (h : WritesFit acts) {i position count : Nat}
    (hmem : Act.wrote t i position chunk (.ok count) ∈ acts) : count ≤ chunk.size := by
  simpa [Act.fits] using h _ hmem

/-- An element of two lists together belongs to one of them. -/
theorem split_append {before after : List Act} {a : Act}
    (h : acts ++ more = before ++ a :: after) :
    (∃ rest, acts = before ++ a :: rest) ∨
      ∃ front, before = acts ++ front ∧ more = front ++ a :: after := by
  rcases List.append_eq_append_iff.mp h with ⟨front, hbefore, hmore⟩ | ⟨rest, hacts, hafter⟩
  · exact .inr ⟨front, hbefore, hmore⟩
  · cases rest with
    | nil => exact .inr ⟨[], by simpa using hacts.symm, by simpa using hafter.symm⟩
    | cons b rest =>
      rw [List.cons_append] at hafter
      obtain ⟨rfl, -⟩ := List.cons.inj hafter
      exact .inl ⟨rest, hacts⟩

theorem WellPlaced.nil : WellPlaced p [] := by
  intro before t i position chunk result after h
  simp at h

theorem WellPlaced.append (h : WellPlaced p acts) (hmore : ∀ a ∈ more, a.isWrite = false) :
    WellPlaced p (acts ++ more) := by
  intro before t i position chunk result after heq
  rcases split_append heq with ⟨rest, hacts⟩ | ⟨front, -, hfront⟩
  · exact h before t i position chunk result rest hacts
  · have hmem : Act.wrote t i position chunk result ∈ more := by simp [hfront]
    exact absurd (hmore _ hmem) (by simp [Act.isWrite])

theorem WellPlaced.write (h : WellPlaced p acts) {i position : Nat}
    {result : Except SystemError Nat} (hplace : position = tally (Act.sentOn t) acts % p.size)
    (hchunk : chunk = p.chunk position) :
    WellPlaced p (acts ++ [.wrote t i position chunk result]) := by
  intro before s j position' chunk' result' after heq
  rcases split_append heq with ⟨rest, hacts⟩ | ⟨front, hbefore, hfront⟩
  · exact h before s j position' chunk' result' rest hacts
  · -- the write asked about is the one just appended
    cases front with
    | nil =>
      obtain ⟨hact, -⟩ := List.cons.inj hfront
      obtain ⟨rfl, rfl, rfl, rfl, rfl⟩ := Act.wrote.inj hact
      rw [hbefore, List.append_nil]
      exact ⟨hplace, hchunk⟩
    | cons b front => simp at hfront

/-- An act continues the repetition: only a write that took something on this very connection adds
to it. -/
theorem endless_append_bytesOn {a : Act} {sofar : Nat}
    (h : ∀ i position chunk count, a = .wrote t i position chunk (.ok count) →
      (position = sofar % p.size ∧ chunk = p.chunk position) ∧ position + count ≤ p.size) :
    p.endless sofar ++ a.bytesOn t = p.endless (sofar + a.sentOn t) := by
  cases a with
  | wrote s i position chunk result =>
    cases result with
    | error e => simp [Act.bytesOn, Act.sentOn]
    | ok count =>
      by_cases hst : s = t
      · subst hst
        obtain ⟨⟨hplace, rfl⟩, hroom⟩ := h i position chunk count rfl
        simpa [Act.bytesOn, Act.sentOn] using p.endless_append_take hplace hroom
      · simp [Act.bytesOn, Act.sentOn, hst]
  | _ => simp [Act.bytesOn, Act.sentOn]

/-- A write in its place that takes no more than it is offered ends within the payload. -/
theorem WritesFit.le_size (hfit : WritesFit acts) (hplaced : WellPlaced p acts) {i : Nat}
    {position count : Nat} (h : Act.wrote t i position chunk (.ok count) ∈ acts) :
    position + count ≤ p.size := by
  obtain ⟨before, after, heq⟩ := List.append_of_mem h
  obtain ⟨hplace, hchunk⟩ := hplaced before t i position chunk (.ok count) after heq
  have hlt : position < p.size := hplace ▸ Nat.mod_lt _ p.size_pos
  have hcount : count ≤ p.size - position := by
    rw [← p.size_chunk, ← hchunk]
    exact hfit.le_chunk h
  omega

/-- Writes that start where the stream has got to, and fit, go on with the repetition. -/
theorem streamOn_append (hfit : WritesFit (acts ++ more)) (hplaced : WellPlaced p (acts ++ more))
    (h : streamOn t acts = p.endless (tally (Act.sentOn t) acts)) :
    streamOn t (acts ++ more) = p.endless (tally (Act.sentOn t) (acts ++ more)) := by
  induction more generalizing acts with
  | nil => simpa using h
  | cons a more ih =>
    rw [List.append_cons] at hfit hplaced ⊢
    -- the first act goes on with the repetition, and the others go on from there
    refine ih hfit hplaced ?_
    have hstep : p.endless (tally (Act.sentOn t) acts) ++ a.bytesOn t =
        p.endless (tally (Act.sentOn t) acts + a.sentOn t) := by
      refine endless_append_bytesOn fun i position chunk count ha => ?_
      subst ha
      have hmem : Act.wrote t i position chunk (.ok count) ∈
          acts ++ [.wrote t i position chunk (.ok count)] ++ more := by simp
      exact ⟨hplaced acts t i position chunk (.ok count) more (by simp), hfit.le_size hplaced hmem⟩
    rw [streamOn, List.flatMap_append, ← streamOn, h, tally_append]
    simpa using hstep

/-- **The stream of every connection is a beginning of the endless repetition.** -/
theorem streamOn_eq_endless (hfit : WritesFit acts) (hplaced : WellPlaced p acts) (t : Token) :
    streamOn t acts = p.endless (tally (Act.sentOn t) acts) := by
  have hempty : streamOn t [] = p.endless (tally (Act.sentOn t) []) := rfl
  exact streamOn_append (by simpa using hfit) (by simpa using hplaced) hempty

end Placing

/-! ### Cursors -/

namespace Worker

/-- A connection's cursor is at most at the end of the payload, and stands, up to whole laps, where
the bytes sent so far say it should. -/
def Paced (p : Payload) (w : Worker) : Prop :=
  ∀ e ∈ w.connections, e.2.cursor ≤ p.size ∧ e.2.cursor % p.size = e.2.transmitted % p.size

variable {p : Payload} {w w' : Worker} {t : Token} {c d : Connection} {acts more : List Act}

theorem Paced.setConnection (hs : w.Sound) (h : w.Paced p) (hc : w.connections.get? t = some c)
    (hle : d.cursor ≤ p.size) (hmod : d.cursor % p.size = d.transmitted % p.size) :
    (w.setConnection t d).Paced p := by
  intro e he
  rcases (Connections.mem_set_iff hs.nodup hc).mp he with rfl | ⟨he, -⟩
  · exact ⟨hle, hmod⟩
  · exact h e he

theorem Paced.of_subset (h : w.Paced p) (hsub : ∀ e ∈ w'.connections, e ∈ w.connections) :
    w'.Paced p :=
  fun e he => h e (hsub e he)

/-- Where a look-up finds the cursor, the stream has got to. -/
theorem Paced.rewind_eq (h : w.Paced p) (hc : w.connections.get? t = some c) :
    p.rewind c.cursor = c.transmitted % p.size := by
  rw [Payload.rewind_eq_mod]
  exact (h _ (Connections.mem_of_get? hc)).2

theorem Paced.seek (h : w.Paced p) (hc : w.connections.get? t = some c) :
    p.rewind c.cursor ≤ p.size ∧ p.rewind c.cursor % p.size = c.transmitted % p.size := by
  refine ⟨Nat.le_of_lt (p.rewind_lt _), ?_⟩
  rw [h.rewind_eq hc, Nat.mod_mod]

theorem Move.payload_eq (m : Move w acts w') : w'.payload = w.payload := by
  cases m with
  | broken =>
    rename_i t c _ e _
    obtain ⟨r, hr⟩ := tellWriteFailure_fst w c e
    rw [hr]
    rfl
  | _ => rfl

theorem Paced.move (hs : w.Sound) (h : w.Paced w.payload) (m : Move w acts w')
    (hfit : WritesFit acts) : w'.Paced w.payload := by
  cases m with
  | arranged => exact h
  | marked hc ready =>
    have hold := h _ (Connections.mem_of_get? hc)
    exact h.setConnection hs hc hold.1 hold.2
  | noted => exact h
  | abandoned => exact h
  | refused => exact h
  | opened =>
    intro e he
    have he : e ∈ w.connections ++ [_] := he
    rcases List.mem_append.mp he with he | he
    · exact h e he
    · rw [List.mem_singleton.mp he]
      exact ⟨Nat.zero_le _, rfl⟩
  | reaped => exact h.of_subset fun e he => (Connections.mem_remove.mp he).1
  | failed => exact h.of_subset fun e he => (Connections.mem_remove.mp he).1
  | waited hc =>
    have hold := h _ (Connections.mem_of_get? hc)
    exact h.setConnection hs hc hold.1 hold.2
  | sent hc count =>
    rename_i t c
    have hmem : w.offered t c (.ok count) ∈
        [.probed t c.entry (.ok true), w.offered t c (.ok count)] := by simp
    have hroom : count ≤ w.payload.size - w.payload.rewind c.cursor := by
      rw [← w.payload.size_chunk]
      exact hfit.le_chunk hmem
    have hlt := w.payload.rewind_lt c.cursor
    -- the look-up has brought the cursor back into the payload, and the write fits behind it
    refine h.setConnection hs hc ?_ ?_
    · show w.payload.rewind c.cursor + count ≤ w.payload.size
      omega
    · show (w.payload.rewind c.cursor + count) % _ = (c.transmitted + count) % _
      rw [h.rewind_eq hc, Nat.mod_add_mod]
  | held hc _ ready => exact h.setConnection hs hc (h.seek hc).1 (h.seek hc).2
  | broken =>
    rename_i t c _ e _
    obtain ⟨r, hr⟩ := tellWriteFailure_fst w c e
    rw [hr]
    exact h.of_subset fun f hf => (Connections.mem_remove.mp hf).1

theorem isWrite_of_told (notices : List Notice) :
    ∀ a ∈ notices.map Act.told, a.isWrite = false := by
  intro a ha
  obtain ⟨n, -, rfl⟩ := List.mem_map.mp ha
  rfl

theorem isWrite_of_isQuiet {a : Act} (h : a.isQuiet = true) : a.isWrite = false := by
  cases a with
  | wrote => simp [Act.isQuiet] at h
  | _ => rfl

/-- In a move that offers a chunk, the connect is asked for first, and nothing is offered after. -/
theorem wellPlaced_offer (h : WellPlaced p acts) (hrec : Recorded acts w) (hp : w.Paced p)
    (hc : w.connections.get? t = some c) (result : Except SystemError Nat)
    (hmore : ∀ a ∈ more, a.isWrite = false) :
    WellPlaced p (acts ++ .probed t c.entry (.ok true) ::
      .wrote t c.entry (p.rewind c.cursor) (p.chunk (p.rewind c.cursor)) result :: more) := by
  -- asking for the connect sends nothing
  have hprobed : WellPlaced p (acts ++ [.probed t c.entry (.ok true)]) :=
    h.append (by simp [Act.isWrite])
  have hplace : p.rewind c.cursor =
      tally (Act.sentOn t) (acts ++ [.probed t c.entry (.ok true)]) % p.size := by
    rw [tally_append, (hrec.live t c (Connections.mem_of_get? hc)).1, hp.rewind_eq hc]
    rfl
  have hwrote : WellPlaced p (acts ++ [.probed t c.entry (.ok true)] ++
      [.wrote t c.entry (p.rewind c.cursor) (p.chunk (p.rewind c.cursor)) result]) :=
    hprobed.write hplace rfl
  simpa using hwrote.append hmore

theorem wellPlaced_move (hrec : Recorded acts w) (hp : w.Paced w.payload)
    (h : WellPlaced w.payload acts) (m : Move w more w') : WellPlaced w.payload (acts ++ more) := by
  cases m with
  | arranged => exact h.append (by simp)
  | marked => exact h.append (by simp)
  | noted hquiet => exact h.append (by simpa using isWrite_of_isQuiet hquiet)
  | abandoned => exact h.append (by simp [Act.isWrite])
  | refused e =>
    obtain ⟨notices, hn⟩ := w.attempt.told_of_countConnectFailure w.nextEntry w.nextAddress e
    rw [hn]
    refine h.append ?_
    rw [List.forall_mem_cons]
    exact ⟨rfl, isWrite_of_told notices⟩
  | opened => exact h.append (by simp [Act.isWrite])
  | reaped => exact h.append (by simp [Act.isWrite])
  | failed hc e =>
    rename_i t c
    obtain ⟨notices, hn⟩ := w.told_of_countConnectFailure c.entry c.remote e
    rw [hn]
    refine h.append ?_
    rw [List.cons_append, List.forall_mem_cons, List.forall_mem_append]
    exact ⟨rfl, isWrite_of_told notices, by simp [Act.isWrite]⟩
  | waited => exact h.append (by simp [Act.isWrite])
  | sent hc count => exact wellPlaced_offer h hrec hp hc (.ok count) (by simp)
  | held hc => exact wellPlaced_offer h hrec hp hc _ (by simp)
  | broken hc =>
    rename_i t c e _
    obtain ⟨notices, hn⟩ := w.told_of_tellWriteFailure c e
    rw [hn]
    have hrest : ∀ a ∈ notices.map Act.told ++ [.closed t c.entry c.transmitted (.writeFailed e)],
        a.isWrite = false := by
      rw [List.forall_mem_append]
      exact ⟨isWrite_of_told notices, by simp [Act.isWrite]⟩
    exact wellPlaced_offer h hrec hp hc _ hrest

/-- Along every run cursors and writes are where they should be, as long as no write takes more than
it is offered. -/
theorem placed_of_reaches (hw : w.Fresh) (h : w.Reaches acts w')
    (hfit : WritesFit acts) :
    w'.payload = w.payload ∧ w'.Paced w.payload ∧ WellPlaced w.payload acts := by
  induction h with
  | refl => exact ⟨rfl, by simp [Paced, hw.connections], .nil⟩
  | step h m ih =>
    obtain ⟨hfit, hmore⟩ := writesFit_append.mp hfit
    obtain ⟨hpayload, hpaced, hplaced⟩ := ih hfit
    have hs := hw.sound.reaches h
    have hrec := recorded_of_reaches hw h
    rw [← hpayload] at hpaced hplaced ⊢
    exact ⟨m.payload_eq, hpaced.move hs m hmore, wellPlaced_move hrec hpaced hplaced m⟩

/-- **Every connection carries its payload, over and over.** This holds at every moment of every
run: after any operations, and any moves of the one that is going on. What went out under a token is
a beginning of the repetition, and the counter of its connection, live or closed, is the length of
it; a live connection's cursor is at most at the end of the payload and congruent to its counter;
and every chunk that was offered is the payload from where the stream had got to, up to its end,
which is at least one byte. -/
theorem connections_carry_payload {setup : WorkerSetup} {creation : CreationAnswers} {w₀ : Worker}
    (hcreate : Worker.create setup creation = .ok w₀) (os : List Operation) {more : List Act}
    {w : Worker} (h : (w₀.performAll os).worker.Reaches more w)
    (hfit : WritesFit ((w₀.performAll os).acts ++ more)) :
    let p := setup.payload
    let acts := (w₀.performAll os).acts ++ more
    (∀ t, streamOn t acts = p.endless (tally (Act.sentOn t) acts)) ∧
    (∀ t c, (t, c) ∈ w.connections →
      c.transmitted = tally (Act.sentOn t) acts ∧ c.cursor ≤ p.size ∧
        c.cursor % p.size = c.transmitted % p.size) ∧
    (∀ t i bytes cause, .closed t i bytes cause ∈ acts → bytes = tally (Act.sentOn t) acts) ∧
    (∀ before t i position chunk result after,
      acts = before ++ .wrote t i position chunk result :: after →
        position = tally (Act.sentOn t) before % p.size ∧
        chunk.toList = p.data.toList.drop position ∧
        0 < chunk.size ∧ position + chunk.size = p.size ∧
        ∀ count, result = .ok count →
          position + count ≤ p.size ∧
          (position + count) % p.size =
            tally (Act.sentOn t) (before ++ [.wrote t i position chunk result]) % p.size) := by
  have hw := fresh_of_create hcreate
  have hall := (reaches_performAll w₀ os).trans h
  rw [← payload_of_create hcreate]
  obtain ⟨-, hpaced, hplaced⟩ := placed_of_reaches hw hall hfit
  have hrec := recorded_of_reaches hw hall
  refine ⟨streamOn_eq_endless hfit hplaced, fun t c hc => ?_, fun t i bytes cause hclosed => ?_,
    fun before t i position chunk result after heq => ?_⟩
  · exact ⟨(hrec.live t c hc).1.symm, hpaced _ hc⟩
  · exact (hrec.closed t i bytes cause hclosed).1
  · obtain ⟨hplace, rfl⟩ := hplaced before t i position chunk result after heq
    have hlt : position < w₀.payload.size := hplace ▸ Nat.mod_lt _ w₀.payload.size_pos
    rw [Payload.size_chunk]
    refine ⟨hplace, Payload.toList_chunk _ _, by omega, by omega, ?_⟩
    rintro count rfl
    have hmem : Act.wrote t i position (w₀.payload.chunk position) (.ok count) ∈
        (w₀.performAll os).acts ++ more := by
      rw [heq]
      simp
    refine ⟨hfit.le_size hplaced hmem, ?_⟩
    rw [tally_append, hplace, Nat.mod_add_mod]
    simp [Act.sentOn]

/-- The three letters of a payload, and the first again: three writes and a refusal between them. -/
theorem connections_carry_payload_abc :
    let acts := (Sample.worker.performAll Sample.operations).acts ++ []
    Worker.create Sample.setup {} = .ok Sample.worker ∧ WritesFit acts ∧
      Act.closed 1 0 4 .terminating ∈ acts ∧ 4 = tally (Act.sentOn 1) acts ∧
      streamOn 1 acts = Sample.setup.payload.endless 4 ∧
      Sample.setup.payload.endless 4 = [97, 98, 99, 97] := by
  intro acts
  let chunk := Sample.setup.payload.chunk
  have hacts : acts =
      [.dialed 0 (.opened 1), .probed 1 0 (.ok true), .wrote 1 0 0 (chunk 0) (.ok 2),
        .probed 1 0 (.ok true), .wrote 1 0 2 (chunk 2) (.ok 1), .probed 1 0 (.ok true),
        .wrote 1 0 0 (chunk 0) (.error .tryAgain), .probed 1 0 (.ok true),
        .wrote 1 0 0 (chunk 0) (.ok 1), .readControl (.byte Command.terminateByte),
        .closed 1 0 4 .terminating] := rfl
  have hfit : WritesFit acts := by
    rw [hacts]
    unfold WritesFit
    decide
  have hclosed : Act.closed 1 0 4 .terminating ∈ acts := by
    rw [hacts]
    simp
  obtain ⟨hstream, -, htotal, -⟩ :=
    connections_carry_payload Sample.create_setup Sample.operations .refl hfit
  exact ⟨Sample.create_setup, hfit, hclosed, htotal 1 0 4 .terminating hclosed, hstream 1, rfl⟩

end Worker

end LoadGenerator
