/-
The course of the cursor over a row of picks.

Between two picks the histories may change in any way: dials are counted, failures come in late, and
an entry that was broken may be so no longer. The cursor does not mind. It goes over one position
after another, and no position is left out.

* **`Roster.Rotates`** — a row of picks, with any changes to the histories before, between and after
  them;
* **`Roster.span`** — how far the cursor goes in it;
* **`Roster.Rotates.visited`** — at every position on the way the entry was broken when the cursor
  passed over it, or it was picked;
* **`Roster.Rotates.standstill`** — the picks stay with one entry while all are broken;
* **`Roster.sound_entry_picked`** — so an entry is picked among as many picks as there are entries,
  unless it is broken at one of them;
* **`Worker.rotates_performAll`** — the dials of a worker are such a row.
-/
import LoadGenerator.Proofs.Selection
import LoadGenerator.Proofs.Service

namespace LoadGenerator

namespace Roster

variable {r₀ r : Roster} {rs : List Roster}

/-- A row of picks. The list holds the roster as it stood at each of them. -/
inductive Rotates (r₀ : Roster) : List Roster → Roster → Prop
  | refl : Rotates r₀ [] r₀
  /-- The next entry is picked. -/
  | pick {rs : List Roster} {r : Roster} (h : Rotates r₀ rs r) :
      Rotates r₀ (rs ++ [r]) r.selectNext.2
  /-- The history of an entry changes. -/
  | change {rs : List Roster} {r : Roster} (h : Rotates r₀ rs r) (i : Nat)
      (f : RemoteStats → RemoteStats) : Rotates r₀ rs (r.updateStats i f)

/-- How far the cursor goes in a row of picks. -/
def span (rs : List Roster) : Nat := total (rs.map stride)

theorem span_concat (rs : List Roster) (r : Roster) : span (rs ++ [r]) = span rs + r.stride := by
  simp [span]

theorem length_le_span (rs : List Roster) : rs.length ≤ span rs := by
  induction rs with
  | nil => exact Nat.le_refl 0
  | cons r rs ih =>
    have hpos := r.stride_pos
    simp only [span, List.map_cons, total_cons, List.length_cons] at ih ⊢
    omega

theorem span_eq_length (h : ∀ p ∈ rs, p.stride = 1) : span rs = rs.length := by
  induction rs with
  | nil => rfl
  | cons r rs ih =>
    rw [List.forall_mem_cons] at h
    have hrest := ih h.2
    have hfirst := h.1
    simp only [span, List.map_cons, total_cons, List.length_cons] at hrest ⊢
    omega

namespace Rotates

theorem trans {more : List Roster} {r' : Roster} (h : r₀.Rotates rs r) (h' : r.Rotates more r') :
    r₀.Rotates (rs ++ more) r' := by
  induction h' with
  | refl => rwa [List.append_nil]
  | pick _ ih =>
    rw [← List.append_assoc]
    exact ih.pick
  | change _ i f ih => exact ih.change i f

/-- A dial is a pick that adds to the history of its entry. -/
theorem dial (h : r₀.Rotates rs r) (fails : Bool) : r₀.Rotates (rs ++ [r]) (r.dial fails).2 := by
  have hattempt := h.pick.change r.selectNext.1 .recordAttempt
  cases fails with
  | false => exact hattempt
  | true => exact hattempt.change r.selectNext.1 .recordFailure

theorem size_eq (h : r₀.Rotates rs r) : r.size = r₀.size := by
  induction h with
  | refl => rfl
  | pick _ ih => exact ih
  | change _ i f ih => rw [size_updateStats, ih]

theorem size_of_mem (h : r₀.Rotates rs r) : ∀ p ∈ rs, p.size = r₀.size := by
  induction h with
  | refl => simp
  | pick h ih =>
    intro p hp
    rcases List.mem_append.mp hp with hp | hp
    · exact ih p hp
    · obtain rfl := List.mem_singleton.mp hp
      exact h.size_eq
  | change _ _ _ ih => exact ih

theorem cursor_eq (h : r₀.Rotates rs r) :
    r.cursor.toNat = (r₀.cursor.toNat + span rs) % wordRange := by
  induction h with
  | refl => exact (Nat.mod_eq_of_lt r₀.cursor.toNat_lt).symm
  | pick _ ih => rw [cursor_selectNext, ih, span_concat, Nat.mod_add_mod, Nat.add_assoc]
  | change _ i f ih => rwa [cursor_updateStats]

theorem span_le (h : r₀.Rotates rs r) : span rs ≤ rs.length * r₀.size := by
  induction h with
  | refl => exact Nat.zero_le _
  | pick h ih =>
    rename_i rs r
    have hstride := r.stride_le
    rw [h.size_eq] at hstride
    rw [span_concat, List.length_append, List.length_singleton, Nat.add_mul, Nat.one_mul]
    omega
  | change _ _ _ ih => exact ih

/-- As long as the cursor does not go back to zero, it stands where the picks have brought it. -/
theorem position (h : r₀.Rotates rs r) (hroom : r₀.cursor.toNat + span (rs ++ [r]) ≤ wordRange) :
    r.cursor.toNat = r₀.cursor.toNat + span rs ∧ r.HasRoom := by
  rw [span_concat] at hroom
  have hpos := r.stride_pos
  have hcursor : r.cursor.toNat = r₀.cursor.toNat + span rs := by
    rw [h.cursor_eq, Nat.mod_eq_of_lt (by omega)]
  refine ⟨hcursor, ?_⟩
  unfold HasRoom
  omega

/-- **No position is left out.** The entry of any position that the cursor went over was broken at
some pick, or it was picked. -/
theorem visited (h : r₀.Rotates rs r) (hroom : r₀.cursor.toNat + span rs ≤ wordRange) {q : Nat}
    (hq : r₀.cursor.toNat ≤ q) (hq' : q < r₀.cursor.toNat + span rs) :
    ∃ p ∈ rs, p.isBroken (q % r₀.size) = true ∨ p.pick = q % r₀.size := by
  induction h with
  | refl => exact absurd (Nat.lt_of_le_of_lt hq hq') (Nat.lt_irrefl _)
  | change _ _ _ ih => exact ih hroom hq'
  | pick h ih =>
    rename_i rs r
    obtain ⟨hcursor, hlast⟩ := h.position hroom
    rw [span_concat] at hroom hq'
    by_cases hbefore : q < r₀.cursor.toNat + span rs
    · obtain ⟨p, hp, hvisit⟩ := ih (by omega) hbefore
      exact ⟨p, List.mem_append_left _ hp, hvisit⟩
    · -- the last pick goes over it
      have hvisit := broken_or_picked hlast (q := q) (by omega) (by omega)
      rw [h.size_eq] at hvisit
      exact ⟨r, List.mem_append_right _ List.mem_cons_self, hvisit⟩

/-- Where all entries are broken at every pick, the cursor goes full rounds and the picks stand
still. -/
theorem standstill (h : r₀.Rotates rs r) (hroom : r₀.cursor.toNat + span rs ≤ wordRange)
    (hall : ∀ p ∈ rs, ∀ i < r₀.size, p.isBroken i = true) :
    span rs = rs.length * r₀.size ∧
      ∀ p ∈ rs, p.pick = (r₀.cursor.toNat + r₀.size - 1) % r₀.size := by
  induction h with
  | refl => exact ⟨(Nat.zero_mul _).symm, by simp⟩
  | change _ _ _ ih => exact ih hroom hall
  | pick h ih =>
    rename_i rs r
    obtain ⟨hcursor, hlast⟩ := h.position hroom
    rw [span_concat] at hroom ⊢
    obtain ⟨hspan, hpicks⟩ := ih (by omega) fun p hp => hall p (List.mem_append_left _ hp)
    obtain ⟨hstride, hpick⟩ :=
      pick_of_all_broken (h.size_eq ▸ hall r (List.mem_append_right _ List.mem_cons_self)) hlast
    rw [h.size_eq] at hstride hpick
    refine ⟨?_, fun p hp => ?_⟩
    · rw [hspan, hstride, List.length_append, List.length_singleton, Nat.add_mul, Nat.one_mul]
    · rcases List.mem_append.mp hp with hp | hp
      · exact hpicks p hp
      · obtain rfl := List.mem_singleton.mp hp
        -- the full rounds before it do not count
        have hpos := r₀.size_pos
        rw [hpick, hcursor, hspan,
          ← Nat.add_mul_mod_self_right (r₀.cursor.toNat + r₀.size - 1) rs.length r₀.size]
        congr 1
        omega

end Rotates

/-- **No sound entry is starved.** Among as many picks in a row as there are entries, each entry is
picked that is not broken at any of them, whatever becomes of all the histories in between. -/
theorem sound_entry_picked {r r' : Roster} {rs : List Roster} (h : r.Rotates rs r')
    (hlength : rs.length = r.size) (hroom : r.cursor.toNat + r.size * r.size ≤ wordRange) {i : Nat}
    (hi : i < r.size) (hsound : ∀ p ∈ rs, p.isBroken i = false) :
    ∃ p ∈ rs, p.selectNext.1.val = i := by
  have hle : span rs ≤ r.size * r.size := hlength ▸ h.span_le
  have hge : r.size ≤ span rs := hlength ▸ length_le_span rs
  -- the cursor makes a full round at least, and so it comes to the entry
  obtain ⟨d, hd, rfl⟩ := exists_distance hi r.cursor.toNat
  obtain ⟨p, hp, hvisit⟩ := h.visited (q := r.cursor.toNat + d) (by omega) (by omega) (by omega)
  refine ⟨p, hp, hvisit.resolve_left ?_⟩
  rw [hsound p hp]
  exact Bool.false_ne_true

end Roster

namespace Sample

/-- Three entries, each one failed dial away from counting as broken. The cursor is at the second of
them, nine words before it goes back to zero. -/
def weakRoster : Roster :=
  ⟨#[deadRemote 9000 10, deadRemote 9001 10, deadRemote 9002 10], by decide, 18446744073709551607⟩

end Sample

/-- Each of the first two picks is a dial that fails, after which its entry is broken; the third
entry is left for the third pick. -/
theorem Roster.sound_entry_picked_last :
    let r := Sample.weakRoster
    let r₁ := (r.dial true).2
    let r₂ := (r₁.dial true).2
    r₁.isBroken 1 = true ∧ r₂.isBroken 2 = true ∧ (∀ p ∈ [r, r₁, r₂], p.isBroken 0 = false) ∧
      ∃ p ∈ [r, r₁, r₂], p.selectNext.1.val = 0 := by
  intro r r₁ r₂
  have hsound : ∀ p ∈ [r, r₁, r₂], p.isBroken 0 = false := by decide
  have hdials : r.Rotates [r, r₁, r₂] r₂.selectNext.2 :=
    ((Rotates.refl.dial true).dial true).pick
  refine ⟨by decide, by decide, hsound, ?_⟩
  exact sound_entry_picked hdials (by decide) (by decide) (by decide) hsound

/-! ### The dials of a worker -/

/-- The entry that was dialed. -/
def Act.dialedEntry? : Act → Option Nat
  | dialed i _ => some i
  | _ => none

namespace Worker

variable {w w' : Worker} {acts : List Act}

theorem rotates_attempt (w : Worker) : w.roster.Rotates [w.roster] w.attempt.roster :=
  Roster.Rotates.refl.pick.change w.nextEntry .recordAttempt

/-- A move picks an entry if it dials, and else changes histories at most. -/
theorem Move.rotates (m : Move w acts w') :
    ∃ rs, w.roster.Rotates rs w'.roster ∧
      acts.filterMap Act.dialedEntry? = rs.map Roster.pick := by
  cases m with
  | arranged => exact ⟨[], .refl, rfl⟩
  | marked => exact ⟨[], .refl, rfl⟩
  | noted h =>
    rename_i a
    cases a with
    | dialed => simp [Act.isQuiet] at h
    | _ => exact ⟨[], .refl, rfl⟩
  | abandoned => exact ⟨[w.roster], w.rotates_attempt, rfl⟩
  | refused e =>
    obtain ⟨notices, hn⟩ := w.attempt.told_of_countConnectFailure w.nextEntry w.nextAddress e
    refine ⟨[w.roster], w.rotates_attempt.change w.nextEntry .recordFailure, ?_⟩
    rw [hn, ← List.append_nil (notices.map _), List.filterMap_cons,
      filterMap_told_append fun _ => rfl]
    rfl
  | opened => exact ⟨[w.roster], w.rotates_attempt, rfl⟩
  | reaped => exact ⟨[], .refl, rfl⟩
  | failed _ e =>
    rename_i t c _
    obtain ⟨notices, hn⟩ := w.told_of_countConnectFailure c.entry c.remote e
    refine ⟨[], Roster.Rotates.refl.change c.entry .recordFailure, ?_⟩
    rw [hn, List.cons_append, List.filterMap_cons, filterMap_told_append fun _ => rfl]
    rfl
  | waited => exact ⟨[], .refl, rfl⟩
  | sent => exact ⟨[], .refl, rfl⟩
  | held => exact ⟨[], .refl, rfl⟩
  | broken h =>
    rename_i t c e _
    obtain ⟨notices, hn⟩ := w.told_of_tellWriteFailure c e
    -- before the failure is counted, it may be marked as told
    have htold : w.roster.Rotates [] (w.tellWriteFailure c e).1.roster := by
      rcases tellWriteFailure_cases w c e with h | h
      · rw [h]
        exact .refl
      · rw [h]
        exact Roster.Rotates.refl.change c.entry .claimWriteReport
    refine ⟨[], htold.change c.entry .recordFailure, ?_⟩
    rw [hn, List.cons_append, List.cons_append, List.filterMap_cons, List.filterMap_cons,
      filterMap_told_append fun _ => rfl]
    rfl

theorem Reaches.rotates (h : w.Reaches acts w') :
    ∃ rs, w.roster.Rotates rs w'.roster ∧
      acts.filterMap Act.dialedEntry? = rs.map Roster.pick := by
  induction h with
  | refl => exact ⟨[], .refl, rfl⟩
  | step _ m ih =>
    obtain ⟨rs, hrs, hdialed⟩ := ih
    obtain ⟨more, hmore, hmoved⟩ := m.rotates
    refine ⟨rs ++ more, hrs.trans hmore, ?_⟩
    rw [List.filterMap_append, hdialed, hmoved, List.map_append]

/-- **What a worker dials is what its roster picks**, in a row of picks that ends with the roster
that the worker has at last. -/
theorem rotates_performAll (w : Worker) (os : List Operation) :
    ∃ rs, w.roster.Rotates rs (w.performAll os).worker.roster ∧
      (w.performAll os).acts.filterMap Act.dialedEntry? = rs.map Roster.pick :=
  (reaches_performAll w os).rotates

end Worker

end LoadGenerator
