/-
What becomes of a roster all of whose dials fail.

At first no entry is broken, and the dials go round. Each entry is dialed once in a round, so that
it is broken by its eleventh dial, and from then on the round has passed it. When the eleventh round
is over all entries are broken, and the dials stay with the entry that was dialed last.

* **`Roster.afterFailures`**, **`Roster.failingPick`** — the roster after so many failing dials, and
  the entry that each of them goes to;
* **`visits`** — how often an entry is come to in so many steps;
* **`Roster.first_rounds`** — the rounds in which no pick is broken;
* **`Roster.last_entry_dialed_on`** — the dials once all entries are broken;
* **`Roster.dead_roster_degrades`** — the whole course, from a fresh roster.
-/
import LoadGenerator.Proofs.Attempts
import LoadGenerator.Proofs.Rotation
import Mathlib.Data.Int.CardIntervalMod

namespace LoadGenerator

/-! ### Visits -/

/-- How often a cursor that starts at a position comes to an entry in so many steps. -/
def visits (n c i j : Nat) : Nat := Nat.count (fun t => (c + t) % n = i) j

variable {n c i j : Nat}

theorem visits_succ (n c i j : Nat) :
    visits n c i (j + 1) = visits n c i j + if (c + j) % n = i then 1 else 0 :=
  Nat.count_succ ..

/-- Once for each full round, and once more if the last round has come so far. -/
theorem visits_eq (hn : 0 < n) (c v j : Nat) :
    visits n c ((c + v) % n) j = j / n + if v % n < j % n then 1 else 0 := by
  have hsame : ∀ t, (c + t) % n = (c + v) % n ↔ t ≡ v [MOD n] := fun t =>
    ⟨Nat.ModEq.add_left_cancel' c, Nat.ModEq.add_left c⟩
  rw [← Nat.count_modEq_card j hn v, visits]
  simp only [hsame]

theorem visits_rounds (hi : i < n) (c q : Nat) : visits n c i (q * n) = q := by
  have hn : 0 < n := by omega
  obtain ⟨v, -, rfl⟩ := exists_distance hi c
  rw [visits_eq hn, Nat.mul_mod_left, if_neg (Nat.not_lt_zero _), Nat.mul_div_cancel _ hn,
    Nat.add_zero]

/-- An entry has been come to once in every round before. -/
theorem visits_self (hn : 0 < n) (c j : Nat) : visits n c ((c + j) % n) j = j / n := by
  rw [visits_eq hn, if_neg (Nat.lt_irrefl _), Nat.add_zero]

namespace RemoteStats

/-- The history of an entry that failed each time it was dialed. -/
def dead (attempts : Nat) : RemoteStats := { attempts, failures := attempts }

theorem isBroken_iff {s : RemoteStats} :
    s.isBroken = true ↔ 10 < s.attempts ∧ s.failures = s.attempts := by
  simp only [isBroken, Bool.and_eq_true, decide_eq_true_eq]
  rfl

theorem isBroken_dead {a : Nat} : (dead a).isBroken = true ↔ 10 < a :=
  isBroken_iff.trans (and_iff_left rfl)

theorem dead_succ (a : Nat) : (dead a).recordAttempt.recordFailure = dead (a + 1) := rfl

/-- A broken entry stays so when one more dial of it fails. -/
theorem isBroken_recordFailure_recordAttempt {s : RemoteStats} (h : s.isBroken = true) :
    s.recordAttempt.recordFailure.isBroken = true := by
  obtain ⟨hattempts, hfailures⟩ := isBroken_iff.mp h
  exact isBroken_iff.mpr ⟨Nat.lt_succ_of_lt hattempts, congrArg (· + 1) hfailures⟩

end RemoteStats

namespace Roster

variable {r : Roster}

/-! ### Failing dials -/

/-- The roster after so many dials that all fail. -/
def afterFailures (r : Roster) : Nat → Roster
  | 0 => r
  | j + 1 => ((r.afterFailures j).dial true).2

/-- The entry that the failing dial number `j` goes to. -/
def failingPick (r : Roster) (j : Nat) : Nat := ((r.afterFailures j).dial true).1

/-- The failure of the dial number `j` is the first one of its entry. -/
def isFirstAt (r : Roster) (j : Nat) : Bool :=
  ((r.afterFailures (j + 1)).stats (r.failingPick j)).isFirstFailure

theorem stats_dial_true (r : Roster) (i : Nat) :
    (r.dial true).2.stats i =
      if r.pick = i then (r.stats i).recordAttempt.recordFailure else r.stats i := by
  have hlt : r.pick < (r.selectNext.2.updateStats r.pick .recordAttempt).size := by
    rw [size_updateStats]
    exact r.pick_lt
  show ((r.selectNext.2.updateStats r.pick .recordAttempt).updateStats r.pick
    .recordFailure).stats i = _
  rw [stats_updateStats _ hlt, stats_updateStats r.selectNext.2 r.pick_lt]
  split <;> rfl

/-- A failure is the first of its entry when none was counted before. -/
theorem isFirstAt_iff :
    r.isFirstAt j = true ↔ ((r.afterFailures j).stats (r.failingPick j)).failures = 0 := by
  have hstats := (r.afterFailures j).stats_dial_true (r.failingPick j)
  rw [if_pos (show (r.afterFailures j).pick = r.failingPick j from rfl)] at hstats
  rw [isFirstAt, afterFailures, hstats, RemoteStats.isFirstFailure, decide_eq_true_eq]
  exact Nat.succ_inj

theorem cursor_dial (r : Roster) (fails : Bool) :
    (r.dial fails).2.cursor = r.selectNext.2.cursor := by
  cases fails <;> rfl

theorem rotates_afterFailures (r : Roster) (j : Nat) :
    r.Rotates ((List.range j).map r.afterFailures) (r.afterFailures j) := by
  induction j with
  | zero => exact .refl
  | succ j ih =>
    rw [List.range_succ, List.map_append]
    exact ih.dial true

theorem afterFailures_add (r : Roster) (j m : Nat) :
    r.afterFailures (j + m) = (r.afterFailures j).afterFailures m := by
  induction m with
  | zero => rfl
  | succ m ih =>
    rw [← Nat.add_assoc, afterFailures, ih, afterFailures]

theorem failingPick_add (r : Roster) (j m : Nat) :
    r.failingPick (j + m) = (r.afterFailures j).failingPick m := by
  rw [failingPick, afterFailures_add, failingPick]

theorem isFirstAt_add (r : Roster) (j m : Nat) :
    r.isFirstAt (j + m) = (r.afterFailures j).isFirstAt m := by
  rw [isFirstAt, failingPick_add, Nat.add_assoc, afterFailures_add, isFirstAt]

/-! ### The rounds in which no pick is broken -/

/-- So many failing dials went round: the cursor went on by one with each of them, and an entry has
as many attempts and failures as it was come to. -/
structure GoesRound (r : Roster) (j : Nat) : Prop where
  cursor : (r.afterFailures j).cursor.toNat = r.cursor.toNat + j
  stats : ∀ i < r.size, (r.afterFailures j).stats i = .dead (visits r.size r.cursor.toNat i j)

/-- The next entry was dialed once in each round before. Until the eleventh round is over it is not
broken, and so it is picked. -/
theorem GoesRound.next (h : r.GoesRound j) (hj : j < 11 * r.size) :
    r.failingPick j = (r.cursor.toNat + j) % r.size ∧ (r.afterFailures j).stride = 1 ∧
      (r.afterFailures j).stats (r.failingPick j) = .dead (j / r.size) ∧
      (r.afterFailures j).isBroken (r.failingPick j) = false := by
  have hpos := r.size_pos
  have hsize : (r.afterFailures j).size = r.size := (r.rotates_afterFailures j).size_eq
  have hrounds : j / r.size < 11 := Nat.div_lt_of_lt_mul (by rwa [Nat.mul_comm])
  -- in whole rounds before, the entry had one dial each
  have hstats : (r.afterFailures j).stats ((r.cursor.toNat + j) % r.size) = .dead (j / r.size) := by
    rw [h.stats _ (Nat.mod_lt _ hpos), visits_self hpos]
  have hsound : (r.afterFailures j).isBroken ((r.cursor.toNat + j) % r.size) = false := by
    rw [isBroken, hstats, ← Bool.not_eq_true, RemoteStats.isBroken_dead]
    omega
  have hpick := pick_of_sound (r := r.afterFailures j) (by rwa [h.cursor, hsize])
  rw [h.cursor, hsize] at hpick
  have heq : r.failingPick j = (r.cursor.toNat + j) % r.size := hpick.2
  exact ⟨heq, hpick.1, heq ▸ hstats, heq ▸ hsound⟩

/-- The failures of the first round, and no others, are the first ones. -/
theorem GoesRound.isFirstAt_iff (h : r.GoesRound j) (hj : j < 11 * r.size) :
    r.isFirstAt j = true ↔ j < r.size := by
  obtain ⟨-, -, hstats, -⟩ := h.next hj
  rw [Roster.isFirstAt_iff, hstats]
  exact Nat.div_eq_zero_iff_lt r.size_pos

theorem GoesRound.step (h : r.GoesRound j) (hj : j < 11 * r.size)
    (hroom : r.cursor.toNat + 11 * r.size < wordRange) : r.GoesRound (j + 1) := by
  obtain ⟨heq, hstride, -, -⟩ := h.next hj
  constructor
  -- the pick is at the cursor, so the cursor moves on by one
  · rw [afterFailures, cursor_dial, cursor_selectNext, h.cursor, hstride,
      Nat.mod_eq_of_lt (by omega), Nat.add_assoc]
  · intro i hi
    have hpick : (r.afterFailures j).pick = (r.cursor.toNat + j) % r.size := heq
    -- only the entry that was dialed grows older
    rw [afterFailures, stats_dial_true, hpick, h.stats i hi, visits_succ]
    split
    · exact RemoteStats.dead_succ _
    · rfl

/-- **For eleven rounds the dials of a fresh roster go round.** -/
theorem first_rounds (hfresh : ∀ i < r.size, r.stats i = {})
    (hroom : r.cursor.toNat + 11 * r.size < wordRange) : ∀ j ≤ 11 * r.size, r.GoesRound j := by
  intro j
  induction j with
  | zero => exact fun _ => ⟨rfl, hfresh⟩
  | succ j ih => exact fun hj => (ih (by omega)).step hj hroom

/-- The eleventh round over, each entry has had its eleven dials. -/
theorem GoesRound.stats_eq (h : r.GoesRound (11 * r.size)) :
    ∀ i < r.size, (r.afterFailures (11 * r.size)).stats i = .dead 11 := by
  intro i hi
  rw [h.stats i hi, visits_rounds hi]

/-! ### The dials of broken entries -/

/-- No entry becomes sound by a dial that fails. -/
theorem isBroken_afterFailures (hall : ∀ i < r.size, r.isBroken i = true) (j : Nat) :
    ∀ i < r.size, (r.afterFailures j).isBroken i = true := by
  induction j with
  | zero => exact hall
  | succ j ih =>
    intro i hi
    rw [isBroken, afterFailures, stats_dial_true]
    split
    · exact RemoteStats.isBroken_recordFailure_recordAttempt (ih i hi)
    · exact ih i hi

/-- The failures of broken entries are not their first ones. -/
theorem isFirstAt_eq_false (hall : ∀ i < r.size, r.isBroken i = true) (j : Nat) :
    r.isFirstAt j = false := by
  have hlt : r.failingPick j < r.size :=
    Nat.lt_of_lt_of_eq (pick_lt _) (r.rotates_afterFailures j).size_eq
  obtain ⟨hattempts, hfailures⟩ :=
    RemoteStats.isBroken_iff.mp (isBroken_afterFailures hall j _ hlt)
  rw [← Bool.not_eq_true, isFirstAt_iff, hfailures]
  omega

/-- **Once all entries are broken, the dials stay with one of them**: the entry before the
cursor. -/
theorem last_entry_dialed_on (hall : ∀ i < r.size, r.isBroken i = true) (m : Nat)
    (hroom : r.cursor.toNat + m * r.size ≤ wordRange) :
    (∀ j < m, r.failingPick j = (r.cursor.toNat + r.size - 1) % r.size) ∧
      ∀ i < r.size, ∀ a, r.stats i = .dead a →
        (r.afterFailures m).stats i =
          .dead (if i = (r.cursor.toNat + r.size - 1) % r.size then a + m else a) := by
  have hrow := r.rotates_afterFailures m
  have hspan : span ((List.range m).map r.afterFailures) ≤ m * r.size := by
    simpa using hrow.span_le
  obtain ⟨-, hpicks⟩ := hrow.standstill (by omega)
    (by simpa using fun j _ => isBroken_afterFailures hall j)
  have hpick : ∀ j < m, r.failingPick j = (r.cursor.toNat + r.size - 1) % r.size := by
    intro j hj
    exact hpicks _ (List.mem_map_of_mem (List.mem_range.mpr hj))
  refine ⟨hpick, fun i hi a ha => ?_⟩
  -- induction on the dials: the picked entry gets older by one with each of them
  have hstats : ∀ j ≤ m, (r.afterFailures j).stats i =
      .dead (if i = (r.cursor.toNat + r.size - 1) % r.size then a + j else a) := by
    intro j
    induction j with
    | zero =>
      intro _
      rw [Nat.add_zero, ite_self]
      exact ha
    | succ j ih =>
      intro hj
      have hpicked : (r.afterFailures j).pick = (r.cursor.toNat + r.size - 1) % r.size :=
        hpick j (by omega)
      rw [afterFailures, stats_dial_true, hpicked, ih (by omega)]
      by_cases hlast : (r.cursor.toNat + r.size - 1) % r.size = i
      · rw [if_pos hlast, if_pos hlast.symm, if_pos hlast.symm]
        exact RemoteStats.dead_succ _
      · rw [if_neg hlast, if_neg (Ne.symm hlast), if_neg (Ne.symm hlast)]
  exact hstats m (Nat.le_refl m)

/-! ### The whole course -/

/-- **How a roster degrades all of whose dials fail.** The first eleven rounds of a fresh roster
dial each entry in its turn, and none of the picks is broken when it is made. After them every entry
has eleven attempts and as many failures and is broken. All further dials go to the entry that was
dialed last. Of each entry one failure is the first, whose dial is in the first round. -/
theorem dead_roster_degrades {addresses : Array SocketAddress} (hn : 0 < addresses.size)
    (s : UInt64) (m : Nat)
    (hroom : s.toNat + 11 * addresses.size + m * addresses.size < wordRange) :
    ∃ r, Roster.ofAddresses? addresses s = some r ∧
      let n := addresses.size
      (∀ j < 11 * n, r.failingPick j = (s.toNat + j) % n ∧
        (r.afterFailures j).isBroken (r.failingPick j) = false) ∧
      (∀ i < n, (r.afterFailures (11 * n)).stats i = { attempts := 11, failures := 11 } ∧
        (r.afterFailures (11 * n)).isBroken i = true) ∧
      (∀ j < m, r.failingPick (11 * n + j) = (s.toNat + n - 1) % n) ∧
      (∀ i < n, (r.afterFailures (11 * n + m)).stats i =
        if i = (s.toNat + n - 1) % n then { attempts := 11 + m, failures := 11 + m }
        else { attempts := 11, failures := 11 }) ∧
      ∀ i < n, ∃! j, j < 11 * n + m ∧ r.failingPick j = i ∧ r.isFirstAt j = true := by
  obtain ⟨r, hr⟩ : ∃ r, Roster.ofAddresses? addresses s = some r := ⟨_, dif_pos hn⟩
  obtain ⟨rfl, hsize⟩ := of_ofAddresses? hr
  refine ⟨r, hr, ?_⟩
  rw [← hsize] at hroom ⊢
  intro n
  have hrounds := first_rounds (fun i _ => Worker.stats_of_fresh hr i) (r := r) (by omega)
  -- after eleven rounds all entries are broken
  have hdead : ∀ i < n, (r.afterFailures (11 * n)).stats i = .dead 11 :=
    (hrounds (11 * n) (Nat.le_refl _)).stats_eq
  have hbroken : ∀ i < n, (r.afterFailures (11 * n)).isBroken i = true := by
    intro i hi
    rw [isBroken, hdead i hi]
    rfl
  -- the dials go on from there, with the cursor where it was at first but for full rounds
  have hsize' : (r.afterFailures (11 * n)).size = n := (r.rotates_afterFailures _).size_eq
  have hcursor := (hrounds (11 * n) (Nat.le_refl _)).cursor
  have hlast : ((r.afterFailures (11 * n)).cursor.toNat + n - 1) % n =
      (r.cursor.toNat + n - 1) % n := by
    have hpos : 0 < n := r.size_pos
    rw [hcursor, ← Nat.add_mul_mod_self_right (r.cursor.toNat + n - 1) 11 n]
    congr 1
    omega
  obtain ⟨hpicks, hstats⟩ := last_entry_dialed_on (r := r.afterFailures (11 * n))
    (by rwa [hsize']) m (by rw [hcursor, hsize']; exact Nat.le_of_lt hroom)
  rw [hsize', hlast] at hpicks hstats
  -- only the first round has first failures: an entry is not new when it comes again
  have hfirst : ∀ j < 11 * n + m, r.isFirstAt j = true ↔ j < n := by
    intro j hj
    by_cases hlt : j < 11 * n
    · exact (hrounds j (Nat.le_of_lt hlt)).isFirstAt_iff hlt
    · obtain ⟨k, rfl⟩ := Nat.exists_eq_add_of_le (Nat.le_of_not_lt hlt)
      rw [isFirstAt_add, isFirstAt_eq_false (by rwa [hsize']) k]
      exact iff_of_false Bool.false_ne_true (by omega)
  refine ⟨fun j hj => ?_, fun i hi => ⟨hdead i hi, hbroken i hi⟩, fun j hj => ?_, fun i hi => ?_,
    fun i hi => ?_⟩
  · obtain ⟨heq, -, -, hsound⟩ := (hrounds j (Nat.le_of_lt hj)).next hj
    exact ⟨heq, hsound⟩
  · rw [failingPick_add]
    exact hpicks j hj
  · rw [afterFailures_add, hstats i hi 11 (hdead i hi)]
    split <;> rfl
  -- the dial of the first round that comes to the entry
  · obtain ⟨v, hv, rfl⟩ := exists_distance hi r.cursor.toNat
    have hpick : ∀ j < n, r.failingPick j = (r.cursor.toNat + j) % n := fun j hj =>
      ((hrounds j (by omega)).next (by omega)).1
    refine ⟨v, ⟨by omega, hpick v hv, (hfirst v (by omega)).mpr hv⟩, ?_⟩
    rintro j ⟨hj, hj', hj''⟩
    have hlt := (hfirst j hj).mp hj''
    rw [hpick j hlt] at hj'
    exact Nat.ModEq.eq_of_lt_of_lt (Nat.ModEq.add_left_cancel' _ hj') hlt hv

end Roster

namespace Sample

/-- Two addresses where nobody listens. -/
def deadAddresses : Array SocketAddress := #[.v4 ⟨127, 0, 0, 1⟩ 9000, .v4 ⟨127, 0, 0, 1⟩ 9001]

end Sample

/-- Two entries and an odd offset: the second entry is dialed first, and the last three of
twenty-five dials go to the first one. -/
theorem Roster.dead_roster_degrades_two :
    0 < Sample.deadAddresses.size ∧
      (5 : UInt64).toNat + 11 * Sample.deadAddresses.size + 3 * Sample.deadAddresses.size <
        wordRange ∧
      ∃ r, Roster.ofAddresses? Sample.deadAddresses 5 = some r ∧ r.failingPick 0 = 1 ∧
        r.failingPick 21 = 0 ∧ (r.afterFailures 21).isBroken 0 = false ∧
        (r.afterFailures 22).isBroken 0 = true ∧ (r.afterFailures 22).isBroken 1 = true ∧
        r.failingPick 24 = 0 ∧
        (r.afterFailures 25).stats 0 = { attempts := 14, failures := 14 } ∧
        (r.afterFailures 25).stats 1 = { attempts := 11, failures := 11 } ∧
        ∃! j, j < 25 ∧ r.failingPick j = 0 ∧ r.isFirstAt j = true := by
  have hn : 0 < Sample.deadAddresses.size := by decide
  have hroom : (5 : UInt64).toNat + 11 * Sample.deadAddresses.size +
      3 * Sample.deadAddresses.size < wordRange := by decide
  obtain ⟨r, hr, hrounds, hdead, hlast, hstats, hfirst⟩ := dead_roster_degrades hn 5 3 hroom
  obtain ⟨hlate, hsound⟩ : r.failingPick 21 = 0 ∧
      (r.afterFailures 21).isBroken (r.failingPick 21) = false := hrounds 21 (by decide)
  exact ⟨hn, hroom, r, hr, (hrounds 0 (by decide)).1, hlate, hlate ▸ hsound,
    (hdead 0 (by decide)).2, (hdead 1 (by decide)).2, hlast 2 (by decide), hstats 0 (by decide),
    hstats 1 (by decide), hfirst 0 (by decide)⟩

end LoadGenerator
