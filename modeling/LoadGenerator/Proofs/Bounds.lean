/-
Tokens and entries that a worker looks up.

A worker names its connections by tokens and its addresses by positions in the roster, and both are
plain numbers. What is done with them is in order all the same: a token is taken anew for every
connection, and an entry is named only where the roster has one.

* **`Act.isOpeningOf`**, **`Act.entry?`** — the token that an act gives away, and the entry that it
  looks up;
* **`LifeStage.countP_opening_le`** — a token is given to one connection at most;
* **`Worker.Reaches.entry_lt`** — every entry that is looked up is in the roster;
* **`Worker.tokens_and_entries_stay_sound`** — both together, at every moment of every run, with the
  events of tokens that are out of use.
-/
import LoadGenerator.Proofs.Dialing

namespace LoadGenerator

namespace Act

/-- A connection is opened under a token. -/
def isOpeningOf (t : Token) : Act → Bool
  | dialed _ (.opened s) => s = t
  | _ => false

/-- The roster entry whose address or history an act looks up. -/
def entry? : Act → Option Nat
  | dialed i _ | probed _ i _ | wrote _ i _ _ _ | closed _ i _ _ => some i
  | readControl _ | told _ => none

theorem isOpeningOf_eq_false {a : Act} {t : Token} (h : a.connection? ≠ some t) :
    a.isOpeningOf t = false := by
  unfold isOpeningOf
  split
  · next s => exact decide_eq_false fun hst => h (congrArg some hst)
  · rfl

end Act

/-! ### Tokens -/

namespace LifeStage

variable {t : Token} {s s' : LifeStage} {a : Act} {acts : List Act}

theorem isOpeningOf_of_ne_unopened (hs : s ≠ unopened) (h : s.next? a = some s') :
    a.isOpeningOf t = false := by
  unfold next? at h
  split at h <;> first | rfl | exact absurd rfl hs | cases h

/-- **A token is given to one connection at most**, and to none once it has been opened. -/
theorem countP_opening_le (h : follow? t s acts = some s') :
    acts.countP (Act.isOpeningOf t) ≤ if s = unopened then 1 else 0 := by
  -- induction on the acts: no act leads back to where a token is unopened
  induction acts generalizing s with
  | nil => exact Nat.zero_le _
  | cons a acts ih =>
    by_cases ha : a.connection? = some t
    · rw [follow?, if_pos ha, Option.bind_eq_some_iff] at h
      obtain ⟨s₁, hnext, hrest⟩ := h
      have hlater := ih hrest
      rw [if_neg (next?_ne_unopened hnext)] at hlater
      by_cases hs : s = unopened
      · rw [if_pos hs, List.countP_cons]
        split <;> omega
      -- the token was opened before, and no second opening may follow
      · rw [if_neg hs, List.countP_cons, isOpeningOf_of_ne_unopened hs hnext]
        exact hlater
    · rw [follow?_cons_of_ne ha] at h
      rw [List.countP_cons, Act.isOpeningOf_eq_false ha]
      exact ih h

/-- A token whose connection was closed has come to its end. -/
theorem follow?_of_mem_closed {i bytes : Nat} {cause : CloseCause}
    (hmem : Act.closed t i bytes cause ∈ acts) (h : follow? t s acts = some s') : s' = ended := by
  obtain ⟨before, after, rfl⟩ := List.append_of_mem hmem
  obtain ⟨s₁, s₂, -, hnext, hafter⟩ := follow?_split rfl h
  have hended : s₂ = ended := by
    cases s₁ <;> cases cause <;> first | exact (Option.some.inj hnext).symm | cases hnext
  refine follow?_keeps (p := (· = ended)) ?_ hended hafter
  rintro s a - s' rfl - hlater
  cases hlater

end LifeStage

/-! ### Entries -/

namespace Worker

variable {w₀ w w' : Worker} {t : Token} {acts more : List Act}

theorem entry?_of_told (notices : List Notice) : ∀ a ∈ notices.map Act.told, a.entry? = none := by
  intro a ha
  obtain ⟨n, -, rfl⟩ := List.mem_map.mp ha
  rfl

/-- The entries that a move looks up are in the roster. -/
theorem Move.entry_lt (hs : w.Sound) (m : Move w acts w') :
    ∀ a ∈ acts, ∀ i ∈ a.entry?, i < w.roster.size := by
  -- a move looks up a single entry, the one that is dialed or the one of its connection
  have hone : ∀ {j : Nat}, j < w.roster.size → (∀ a ∈ acts, a.entry? = none ∨ a.entry? = some j) →
      ∀ a ∈ acts, ∀ i ∈ a.entry?, i < w.roster.size := by
    intro j hj hacts a ha i hi
    rcases hacts a ha with hnone | hsome
    · rw [hnone] at hi
      cases hi
    · rw [hsome] at hi
      obtain rfl := Option.some.inj hi
      exact hj
  have htold : ∀ (j : Nat) (notices : List Notice),
      ∀ a ∈ notices.map Act.told, a.entry? = none ∨ a.entry? = some j :=
    fun j notices a ha => .inl (entry?_of_told notices a ha)
  -- telling looks up nothing; apart from that each move has the entry of its one act
  cases m with
  | arranged => nofun
  | marked => nofun
  | noted h =>
    rename_i a
    have hnone : a.entry? = none := by
      cases a <;> first | rfl | simp [Act.isQuiet] at h
    simp [hnone]
  | abandoned => exact hone w.nextEntry_lt (by simp [Act.entry?])
  | refused e =>
    obtain ⟨notices, hn⟩ := w.attempt.told_of_countConnectFailure w.nextEntry w.nextAddress e
    rw [hn] at hone ⊢
    exact hone w.nextEntry_lt (List.forall_mem_cons.mpr ⟨.inr rfl, htold _ notices⟩)
  | opened => exact hone w.nextEntry_lt (by simp [Act.entry?])
  | reaped h => exact hone (hs.entry_lt h) (by simp [Act.entry?])
  | failed h e =>
    rename_i t c
    obtain ⟨notices, hn⟩ := w.told_of_countConnectFailure c.entry c.remote e
    rw [hn] at hone ⊢
    refine hone (hs.entry_lt h) ?_
    rw [List.forall_mem_append, List.forall_mem_cons, List.forall_mem_singleton]
    exact ⟨⟨.inr rfl, htold _ notices⟩, .inr rfl⟩
  | waited h => exact hone (hs.entry_lt h) (by simp [Act.entry?])
  | sent h => exact hone (hs.entry_lt h) (by simp [Act.entry?])
  | held h => exact hone (hs.entry_lt h) (by simp [Act.entry?])
  | broken h =>
    rename_i t c e _
    obtain ⟨notices, hn⟩ := w.told_of_tellWriteFailure c e
    rw [hn] at hone ⊢
    refine hone (hs.entry_lt h) ?_
    rw [List.forall_mem_append, List.forall_mem_cons, List.forall_mem_cons,
      List.forall_mem_singleton]
    exact ⟨⟨.inr rfl, .inr rfl, htold _ notices⟩, .inr rfl⟩

theorem Reaches.size_eq (h : w.Reaches acts w') : w'.roster.size = w.roster.size := by
  obtain ⟨rs, hrotates, -⟩ := h.rotates
  exact hrotates.size_eq

/-- **Every entry that is looked up in a run is in the roster.** -/
theorem Reaches.entry_lt (hs : w₀.Sound) (h : w₀.Reaches acts w) :
    ∀ a ∈ acts, ∀ i ∈ a.entry?, i < w₀.roster.size := by
  induction h with
  | refl => nofun
  | step h m ih =>
    have hmove := m.entry_lt (hs.reaches h)
    rw [h.size_eq] at hmove
    exact List.forall_mem_append.mpr ⟨ih, hmove⟩

theorem size_of_create {setup : WorkerSetup} {creation : CreationAnswers}
    (h : Worker.create setup creation = .ok w) :
    0 < setup.addresses.size ∧ w.roster.size = setup.addresses.size := by
  obtain ⟨r, hr, rfl⟩ := create_cases h
  unfold Roster.ofAddresses? at hr
  split at hr
  · next hsome =>
    obtain rfl := Option.some.inj hr
    exact ⟨hsome, by simp [Roster.size]⟩
  · cases hr

/-! ### Tokens out of use -/

/-- The event of a token without a connection is passed over. -/
theorem observe_eq_self (ht : t ≠ controlToken) (h : w.connections.get? t = none) :
    w.observe t = w := by
  rw [observe, if_neg ht, markReady, h]

/-- **Tokens and entries stay sound.** Take any moment in the course of a worker. Every live token
was issued and is none of the control pipe, and no token was ever given to two connections, whether
the first is closed or not. Every connection leads to the address of its entry, and every entry that
was ever looked up, in a dial or while a connection was served, is in the roster. A token is out of
use once its connection is closed, and before it is issued; the event of such a token leaves the
worker as it is. -/
theorem tokens_and_entries_stay_sound {setup : WorkerSetup} {creation : CreationAnswers}
    (hcreate : Worker.create setup creation = .ok w₀) (os : List Operation)
    (h : (w₀.performAll os).worker.Advances more w) :
    let acts := (w₀.performAll os).acts ++ more
    let n := setup.addresses.size
    0 < n ∧ w.roster.size = n ∧
    w.connections.tokens.Nodup ∧
    (∀ t ∈ w.connections.tokens, 1 ≤ t ∧ t < w.nextToken ∧ t ≠ controlToken) ∧
    (∀ t, acts.countP (Act.isOpeningOf t) ≤ 1) ∧
    (∀ t c, w.connections.get? t = some c → c.entry < n ∧
      setup.addresses[c.entry]? = some c.remote ∧ w.roster.address? c.entry = some c.remote) ∧
    (∀ a ∈ acts, ∀ i ∈ a.entry?, i < n) ∧
    (∀ t i bytes cause, Act.closed t i bytes cause ∈ acts → w.connections.get? t = none) ∧
    (∀ t, w.nextToken ≤ t → w.connections.get? t = none) ∧
    ∀ t, t ≠ controlToken → w.connections.get? t = none → w.observe t = w := by
  -- what holds of every reachable worker, of the stages of its tokens, and of its roster
  intro acts n
  have hadvances : w₀.Advances acts w := (advances_performAll w₀ os).trans h
  have hfresh := fresh_of_create hcreate
  have hsound : w.Sound := hfresh.sound.reaches hadvances.reaches
  have hstages := hfresh.exists_stage hadvances
  obtain ⟨hsome, hsize⟩ := size_of_create hcreate
  have hlast : w.roster.size = n := hadvances.reaches.size_eq.trans hsize
  have hissued : ∀ t ∈ w.connections.tokens, 1 ≤ t ∧ t < w.nextToken := hsound.issued
  refine ⟨hsome, hlast, hsound.nodup, fun t ht => ?_, fun t => ?_, fun t c hc => ?_, ?_,
    fun t i bytes cause hmem => ?_, fun t ht => ?_, fun t => observe_eq_self⟩
  · exact ⟨(hissued t ht).1, (hissued t ht).2, Nat.ne_of_gt (hissued t ht).1⟩
  · obtain ⟨stage, hfollow, -⟩ := hstages t
    simpa using LifeStage.countP_opening_le hfollow
  -- the address goes with the connection, and no entry ever changes its address
  · have haddress := hsound.addressed _ (Connections.mem_of_get? hc)
    refine ⟨hlast ▸ hsound.entry_lt hc, ?_, haddress⟩
    rw [← address?_of_advances hcreate hadvances]
    exact haddress
  · have hentries := hadvances.reaches.entry_lt hfresh.sound
    rwa [hsize] at hentries
  -- a token that was closed stands at its last stage, where the table does not have it
  · obtain ⟨stage, hfollow, hat⟩ := hstages t
    obtain rfl := LifeStage.follow?_of_mem_closed hmem hfollow
    exact hat.2
  · rw [Connections.get?_eq_none_iff]
    exact fun hmem => absurd (hissued t hmem).2 (Nat.not_lt.mpr ht)

/-- Three dials, the second of which takes a token without opening a connection, and the first
connection is lost. Its token stays out of use, and a late event for it changes nothing. -/
theorem tokens_and_entries_stay_sound_three :
    let os : List Operation :=
      [.handle .connect {}, .handle .connect { registration := some .badDescriptor },
        .handle .connect {}, Sample.turn [1] 0 (.error .brokenPipe)]
    let acts := (Sample.worker.performAll os).acts
    let w := (Sample.worker.performAll os).worker
    Worker.create Sample.setup {} = .ok Sample.worker ∧
      w.connections.tokens = [3] ∧ w.nextToken = 4 ∧ w.roster.size = 1 ∧
      acts.countP (Act.isOpeningOf 1) ≤ 1 ∧
      Act.closed 1 0 0 (.writeFailed .brokenPipe) ∈ acts ∧ w.connections.get? 1 = none ∧
      w.observe 1 = w ∧ w.observe 2 = w ∧ w.observe 4 = w := by
  intro os acts w
  have hsound := tokens_and_entries_stay_sound Sample.create_setup os .refl
  rw [List.append_nil] at hsound
  obtain ⟨-, hsize, -, -, honce, -, -, hclosed, hunissued, hstale⟩ := hsound
  have hmem : Act.closed 1 0 0 (.writeFailed .brokenPipe) ∈ acts :=
    @List.mem_of_getElem? _ acts 7 _ rfl
  have hgone : w.connections.get? 1 = none := hclosed 1 0 0 _ hmem
  exact ⟨Sample.create_setup, rfl, rfl, hsize, honce 1, hmem, hgone, hstale 1 nofun hgone,
    hstale 2 nofun rfl, hstale 4 nofun (hunissued 4 (Nat.le_refl 4))⟩

end Worker

end LoadGenerator
