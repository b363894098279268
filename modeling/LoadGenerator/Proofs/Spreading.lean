/-
How picks are spread over the entries that are not broken.

While the same entries are broken at every pick, the others take turns: they are picked in the
cyclic order, one after another, and then from the beginning again.

* **`inTurn`** — the entries outside a set in the cyclic order, beginning at a position of the
  cursor;
* **`passing`** — those that the cursor comes to on the way over so many positions, any number of
  rounds;
* **`Roster.Rotates.picks_eq`** — the picks are the entries that the cursor comes to and that are
  not broken;
* **`Roster.unbroken_take_turns`** — hence every row of as many picks as there are entries to pick
  from goes to each of them once;
* **`Worker.dials_take_turns`** — and a worker without broken entries dials them in order, the first
  by its own number.
-/
import LoadGenerator.Proofs.Rotation
import LoadGenerator.Proofs.Tokens
import Mathlib.Data.Finset.Card
import Mathlib.Data.List.Rotate

namespace LoadGenerator

/-! ### Rounds -/

/-- The entries outside a set in the cyclic order, beginning at a position. -/
def inTurn (n c : Nat) (B : Finset Nat) : List Nat := ((List.range n).rotate c).filter (· ∉ B)

/-- The entries outside a set that a cursor comes to on the way over `m` positions, in order. -/
def passing (n c m : Nat) (B : Finset Nat) : List Nat :=
  ((List.range' c m).map (· % n)).filter (· ∉ B)

variable {n c m i k : Nat} {B : Finset Nat}

theorem inTurn_perm (n c : Nat) (B : Finset Nat) :
    (inTurn n c B).Perm ((List.range n).filter (· ∉ B)) :=
  (List.rotate_perm (List.range n) c).filter _

theorem mem_inTurn : i ∈ inTurn n c B ↔ i < n ∧ i ∉ B := by
  rw [(inTurn_perm n c B).mem_iff]
  simp

theorem nodup_inTurn (n c : Nat) (B : Finset Nat) : (inTurn n c B).Nodup :=
  (List.nodup_rotate.mpr List.nodup_range).filter _

theorem length_inTurn (h : B ⊆ Finset.range n) : (inTurn n c B).length = n - B.card := by
  have hcard : ((List.range n).filter (· ∉ B)).length = (Finset.range n \ B).card := by
    rw [Finset.sdiff_eq_filter]
    rfl
  rw [(inTurn_perm n c B).length_eq, hcard, Finset.card_sdiff_of_subset h, Finset.card_range]

theorem count_inTurn (hi : i < n) (hB : i ∉ B) : (inTurn n c B).count i = 1 :=
  List.count_eq_one_of_mem (nodup_inTurn n c B) (mem_inTurn.mpr ⟨hi, hB⟩)

/-- Without a set to leave out, all entries come from the position on. -/
theorem getElem?_inTurn_empty (hn : 0 < n) (c j : Nat) :
    (inTurn n c ∅)[j % n]? = some ((c + j) % n) := by
  have hmod : j % n < (List.range n).length := by simpa using Nat.mod_lt j hn
  have hround : inTurn n c ∅ = (List.range n).rotate c := by simp [inTurn]
  rw [hround, List.getElem?_rotate hmod, List.length_range, Nat.mod_add_mod, Nat.add_comm j c]
  exact List.getElem?_range (Nat.mod_lt _ hn)

theorem passing_add (n c m k : Nat) (B : Finset Nat) :
    passing n c (m + k) B = passing n c m B ++ passing n (c + m) k B := by
  rw [passing, ← List.range'_append_1, List.map_append, List.filter_append]
  rfl

/-- One round passes every entry once. -/
theorem passing_self (n c : Nat) (B : Finset Nat) : passing n c n B = inTurn n c B := by
  have hround : (List.range' c n).map (· % n) = (List.range n).rotate c := by
    refine List.ext_getElem (by simp) fun e h h' => ?_
    rw [List.getElem_rotate]
    simp [Nat.add_comm c e]
  rw [passing, hround, inTurn]

/-- A round later the same entries are passed. -/
theorem passing_add_self (n c m : Nat) (B : Finset Nat) :
    passing n (c + n) m B = passing n c m B := by
  have hround : (List.range' (c + n) m).map (· % n) = (List.range' c m).map (· % n) := by
    refine List.ext_getElem (by simp) fun e h h' => ?_
    simp [Nat.add_right_comm c n e]
  rw [passing, hround, passing]

/-- A full round comes first, and the rest goes on as if from the beginning. -/
theorem passing_of_le (h : n ≤ m) :
    passing n c m B = inTurn n c B ++ passing n c (m - n) B := by
  conv_lhs => rw [← Nat.add_sub_of_le h, passing_add, passing_self, passing_add_self]

/-- Less than a round is the beginning of one. -/
theorem isPrefix_inTurn (h : m ≤ n) : passing n c m B <+: inTurn n c B := by
  rw [← passing_self, ← Nat.add_sub_of_le h, passing_add]
  exact List.prefix_append _ _

/-- **Round for round the same entries come in the same order.** -/
theorem getElem?_passing (hn : 0 < n) (m : Nat) :
    ∀ j < (passing n c m B).length,
      (passing n c m B)[j]? = (inTurn n c B)[j % (inTurn n c B).length]? := by
  -- a whole round is taken off in front as long as there is one
  induction m using Nat.strongRecOn with
  | ind m ih =>
    intro j hj
    by_cases hm : m ≤ n
    -- within the first round what is passed is a part of the turn
    · obtain ⟨rest, hrest⟩ := isPrefix_inTurn (c := c) (B := B) hm
      have hlt : j < (inTurn n c B).length := by
        rw [← hrest, List.length_append]
        omega
      rw [Nat.mod_eq_of_lt hlt, ← hrest, List.getElem?_append_left hj]
    · rw [passing_of_le (by omega)] at hj ⊢
      by_cases hfirst : j < (inTurn n c B).length
      · rw [List.getElem?_append_left hfirst, Nat.mod_eq_of_lt hfirst]
      · rw [List.length_append] at hj
        rw [List.getElem?_append_right (by omega), ih (m - n) (by omega) _ (by omega),
          ← Nat.mod_eq_sub_mod (by omega)]

/-- Two entries are passed equally often, but for the round that is not yet complete. -/
theorem count_passing_le (hn : 0 < n) (hi : i < n) (hiB : i ∉ B) (hk : k < n) (hkB : k ∉ B)
    (m : Nat) : (passing n c m B).count i ≤ (passing n c m B).count k + 1 := by
  induction m using Nat.strongRecOn with
  | ind m ih =>
    by_cases hm : m ≤ n
    · calc (passing n c m B).count i
          ≤ (inTurn n c B).count i := (isPrefix_inTurn hm).sublist.count_le i
        _ = 1 := count_inTurn hi hiB
        _ ≤ (passing n c m B).count k + 1 := Nat.le_add_left _ _
    · have hrest := ih (m - n) (by omega)
      -- a whole round passes both of them once
      rw [passing_of_le (by omega), List.count_append, List.count_append, count_inTurn hi hiB,
        count_inTurn hk hkB]
      omega

/-- In a list that goes round and round through another one, every row of as many elements is a
rotation of that one. -/
theorem take_drop_eq_rotate {α : Type} {order l : List α}
    (h : ∀ j < l.length, l[j]? = order[j % order.length]?) {a : Nat}
    (ha : a + order.length ≤ l.length) : (l.drop a).take order.length = order.rotate a := by
  refine List.ext_getElem? fun j => ?_
  by_cases hj : j < order.length
  · rw [List.getElem?_take_of_lt hj, List.getElem?_drop, h (a + j) (by omega),
      List.getElem?_rotate hj, Nat.add_comm a j]
  · rw [List.getElem?_eq_none (by simp; omega), List.getElem?_eq_none (by simp; omega)]

/-! ### Picks of a roster -/

namespace Roster

variable {r₀ r : Roster} {rs : List Roster}

/-- The entries that are broken. -/
def broken (r : Roster) : Finset Nat := (Finset.range r.size).filter fun i => r.isBroken i = true

theorem mem_broken : i ∈ r.broken ↔ i < r.size ∧ r.isBroken i = true := by
  simp [broken]

theorem broken_subset (r : Roster) : r.broken ⊆ Finset.range r.size := Finset.filter_subset _ _

/-- On its way to a pick the cursor comes to no other entry that is not broken. -/
theorem passing_stride (hroom : r.HasRoom) (hi : i < r.size) (hsound : i ∉ r.broken) :
    passing r.size r.cursor.toNat r.stride r.broken = [r.pick] := by
  have hiB : r.isBroken i = false := by simpa [mem_broken, hi] using hsound
  have hpick : r.pick ∉ r.broken := by
    simp [mem_broken, isBroken_pick_eq_false hroom hi hiB]
  obtain ⟨passed, hexamined, -, hpassed, -⟩ := r.exists_examined
  -- the entries in front of the pick were examined and left out, so they are broken
  have hnone : (passed.map Fin.val).filter (· ∉ r.broken) = [] := by
    rw [List.filter_eq_nil_iff]
    intro e he
    obtain ⟨entry, hentry, rfl⟩ := List.mem_map.mp he
    simp [mem_broken, hpassed entry hentry]
  rw [passing, ← examined_eq hroom, hexamined, List.map_append, List.filter_append, hnone]
  simpa [pick] using hpick

/-- **The picks are the entries that the cursor comes to and that are not broken**, while the same
entries are broken at each pick, and not all. -/
theorem Rotates.picks_eq (h : r₀.Rotates rs r) (hroom : r₀.cursor.toNat + span rs ≤ wordRange)
    (hB : ∀ p ∈ rs, p.broken = B) (hi : i < r₀.size) (hsound : i ∉ B) :
    rs.map Roster.pick = passing r₀.size r₀.cursor.toNat (span rs) B := by
  -- induction on the row: the last pick is what the cursor passes from where it then stands
  induction h with
  | refl => rfl
  | change _ _ _ ih => exact ih hroom hB
  | pick h ih =>
    rename_i rs r
    obtain ⟨hcursor, hlast⟩ := h.position hroom
    have hbefore : r₀.cursor.toNat + span rs ≤ wordRange := hcursor ▸ Nat.le_of_lt r.cursor.toNat_lt
    have hnow : r.broken = B := hB r (List.mem_append_right _ List.mem_cons_self)
    have hpick := passing_stride hlast (h.size_eq ▸ hi) (hnow ▸ hsound)
    rw [h.size_eq, hcursor, hnow] at hpick
    rw [span_concat, passing_add, hpick, ← ih hbefore fun p hp => hB p (List.mem_append_left _ hp),
      List.map_append]
    rfl

/-- The set of the broken entries is one of entries, unless there was no pick. -/
theorem Rotates.subset_range (h : r₀.Rotates rs r) (hB : ∀ p ∈ rs, p.broken = B) (hrs : rs ≠ []) :
    B ⊆ Finset.range r₀.size := by
  obtain ⟨p, hp⟩ := List.exists_mem_of_ne_nil rs hrs
  rw [← hB p hp, ← h.size_of_mem p hp]
  exact broken_subset p

/-- All entries are broken where as many are broken as there are. -/
theorem Rotates.all_broken (h : r₀.Rotates rs r) (hB : ∀ p ∈ rs, p.broken = B)
    (hcard : r₀.size ≤ B.card) : ∀ p ∈ rs, ∀ i < r₀.size, p.isBroken i = true := by
  intro p hp i hi
  have hfull : p.broken = Finset.range r₀.size :=
    Finset.eq_of_subset_of_card_le (h.size_of_mem p hp ▸ broken_subset p)
      (by rw [Finset.card_range, hB p hp]; exact hcard)
  have hmem : i ∈ p.broken := hfull ▸ Finset.mem_range.mpr hi
  exact (mem_broken.mp hmem).2

/-- A worker is made with a roster whose cursor is at its own number. -/
theorem cursor_of_create {setup : WorkerSetup} {creation : CreationAnswers} {w : Worker}
    (h : Worker.create setup creation = .ok w) (hindex : setup.index < wordRange) :
    w.roster.cursor.toNat = setup.index ∧ w.roster.size = setup.addresses.size := by
  obtain ⟨roster, hroster, rfl⟩ := Worker.create_cases h
  obtain ⟨hcursor, hsize⟩ := of_ofAddresses? hroster
  refine ⟨?_, hsize⟩
  rw [hcursor]
  exact UInt64.toNat_ofNat_of_lt' hindex

/-- **Dials are spread evenly over the entries that are not broken.** In a row of picks of any
length, from any cursor that does not go back to zero on the way, and with the same entries broken
at each pick, whatever else becomes of the histories: if some entries are not broken, they are
picked in the cyclic order, beginning with the first at or after the cursor, and then over again; so
every window of as many picks contains each of them once, and no two of them are picked more than
one time apart. If all are broken, every pick is the entry before the cursor. If none is, the picks
go through all entries from the cursor on, which for a new worker is its number. -/
theorem unbroken_take_turns {r r' : Roster} {rs : List Roster} (h : r.Rotates rs r')
    (hroom : r.cursor.toNat + span rs ≤ wordRange) {B : Finset Nat}
    (hB : ∀ p ∈ rs, p.broken = B) :
    let c := r.cursor.toNat
    let n := r.size
    let sound := n - B.card
    let picks := rs.map fun p => p.selectNext.1.val
    (0 < sound →
      (∀ j < picks.length, picks[j]? = (inTurn n c B)[j % sound]?) ∧
      (∀ a, a + sound ≤ picks.length →
        ∀ i < n, i ∉ B → ((picks.drop a).take sound).count i = 1) ∧
      ∀ i < n, i ∉ B → ∀ k < n, k ∉ B → picks.count i ≤ picks.count k + 1) ∧
    (sound = 0 → ∀ i ∈ picks, i = (c + n - 1) % n) ∧
    (B = ∅ → ∀ j < picks.length, picks[j]? = some ((c + j) % n)) ∧
    ∀ setup creation w, Worker.create setup creation = .ok w → w.roster = r →
      setup.index < wordRange → B = ∅ →
        ∀ j < picks.length, picks[j]? = some ((setup.index + j) % n) := by
  intro c n sound picks
  have hn : 0 < n := r.size_pos
  -- a row without a pick has nothing to show
  rcases eq_or_ne rs [] with rfl | hrs
  · refine ⟨fun hsound => ⟨by simp [picks], fun a ha => ?_, by simp [picks]⟩, by simp [picks],
      by simp [picks], by simp [picks]⟩
    simp [picks] at ha
    omega
  · have hlen : (inTurn n c B).length = sound := length_inTurn (h.subset_range hB hrs)
    have hturn : 0 < sound → picks = passing n c (span rs) B := by
      intro hsound
      -- an entry that is not broken is what keeps the cursor from going round in vain
      obtain ⟨i, hi⟩ := List.exists_mem_of_length_pos (hlen ▸ hsound)
      rw [mem_inTurn] at hi
      exact h.picks_eq hroom hB hi.1 hi.2
    have hround : 0 < sound →
        ∀ j < picks.length, picks[j]? = (inTurn n c B)[j % (inTurn n c B).length]? := by
      intro hsound
      rw [hturn hsound]
      exact getElem?_passing hn _
    have hall : B = ∅ → ∀ j < picks.length, picks[j]? = some ((c + j) % n) := by
      rintro rfl j hj
      rw [hround (by simpa [sound] using hn) j hj, hlen]
      exact getElem?_inTurn_empty hn c j
    refine ⟨fun hsound => ⟨?_, fun a ha i hi hiB => ?_, fun i hi hiB k hk hkB => ?_⟩,
      fun hnone => ?_, hall, ?_⟩
    · rw [← hlen]
      exact hround hsound
    -- a window of one round is the turn, rotated
    · rw [← hlen] at ha ⊢
      rw [take_drop_eq_rotate (hround hsound) ha, (List.rotate_perm _ a).count_eq,
        count_inTurn hi hiB]
    · rw [hturn hsound]
      exact count_passing_le hn hi hiB hk hkB _
    · obtain ⟨-, hpicks⟩ := h.standstill hroom (h.all_broken hB (by omega))
      exact List.forall_mem_map.mpr hpicks
    · rintro setup creation w hcreate rfl hindex hempty
      obtain ⟨hcursor, -⟩ := cursor_of_create hcreate hindex
      rw [← hcursor]
      exact hall hempty

end Roster

namespace Sample

/-- Four entries, of which the first and the third are broken. The cursor is at the first, eight
words before it goes back to zero. -/
def halfDeadRoster : Roster :=
  ⟨#[deadRemote 9000 11, deadRemote 9001 0, deadRemote 9002 12, deadRemote 9003 0], by decide,
    18446744073709551608⟩

end Sample

/-- Four dials, of which the first and the last fail: the two entries that are not broken take
turns, two dials each. -/
theorem Roster.unbroken_take_turns_four :
    let r := Sample.halfDeadRoster
    let r₁ := (r.dial true).2
    let r₂ := (r₁.dial false).2
    let r₃ := (r₂.dial false).2
    let picks := [r, r₁, r₂, r₃].map fun p => p.selectNext.1.val
    (∀ p ∈ [r, r₁, r₂, r₃], p.broken = {0, 2}) ∧
      picks[2]? = some 1 ∧ ((picks.drop 1).take 2).count 1 = 1 ∧
      picks.count 3 ≤ picks.count 1 + 1 := by
  intro r r₁ r₂ r₃ picks
  have hdials : r.Rotates [r, r₁, r₂, r₃] (r₃.dial true).2 :=
    (((Rotates.refl.dial true).dial false).dial false).dial true
  have hB : ∀ p ∈ [r, r₁, r₂, r₃], p.broken = {0, 2} := by decide +kernel
  obtain ⟨hsound, -⟩ := unbroken_take_turns hdials (by decide +kernel) hB
  obtain ⟨hturn, hwindow, hcount⟩ := hsound (by decide)
  refine ⟨hB, ?_, ?_, ?_⟩
  · exact (hturn 2 (by decide)).trans (by decide +kernel)
  · exact hwindow 1 (by decide) 1 (by decide) (by decide)
  · exact hcount 3 (by decide) (by decide) 1 (by decide) (by decide)

/-! ### The dials of a worker -/

/-- **A worker without broken entries dials them one after another**, and begins with its own
number. The list holds its roster as it stood at each dial. -/
theorem Worker.dials_take_turns {setup : WorkerSetup} {creation : CreationAnswers} {w₀ : Worker}
    (hcreate : Worker.create setup creation = .ok w₀) (hindex : setup.index < wordRange)
    (os : List Operation) :
    let dialed := (w₀.performAll os).acts.filterMap Act.dialedEntry?
    ∃ rs, w₀.roster.Rotates rs (w₀.performAll os).worker.roster ∧
      dialed = rs.map Roster.pick ∧
      (setup.index + dialed.length ≤ wordRange → (∀ p ∈ rs, p.broken = ∅) →
        dialed = (List.range' setup.index dialed.length).map (· % setup.addresses.size)) := by
  intro dialed
  obtain ⟨rs, hrs, hdialed⟩ : ∃ rs, w₀.roster.Rotates rs (w₀.performAll os).worker.roster ∧
      dialed = rs.map Roster.pick := w₀.rotates_performAll os
  have hlength : dialed.length = rs.length := by rw [hdialed, List.length_map]
  obtain ⟨hcursor, hsize⟩ := Roster.cursor_of_create hcreate hindex
  refine ⟨rs, hrs, hdialed, fun hroom hnone => ?_⟩
  -- no entry is broken, so each pick moves the cursor by one
  have hspan : Roster.span rs = rs.length := by
    refine Roster.span_eq_length fun p hp => (Roster.pick_of_sound ?_).1
    have hlt : p.cursor.toNat % p.size < p.size := Nat.mod_lt _ p.size_pos
    simpa [Roster.mem_broken, hlt] using
      (Finset.eq_empty_iff_forall_notMem.mp (hnone p hp)) (p.cursor.toNat % p.size)
  have hpicks := hrs.picks_eq (by rwa [hcursor, hspan, ← hlength]) hnone w₀.roster.size_pos
    (Finset.notMem_empty 0)
  rw [hlength, hdialed, hpicks, hspan, hcursor, hsize]
  simp [passing]

end LoadGenerator
