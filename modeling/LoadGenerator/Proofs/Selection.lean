/-
What a pick looks at, and which entry it ends with.

A pick looks at one entry after another, from the cursor on, and stops at the first that is not
broken. So its course is known once the number of entries is known that it looks at: all but the
last of them are broken, and the cursor ends behind the last.

* **`Roster.examined`**, **`Roster.stride`** — the entries that the next pick looks at, and their
  number;
* **`Roster.exists_examined`** — the pick is the last of them, and the others are broken;
* **`Roster.examined_eq`** — they stand side by side in the cyclic order, as long as the cursor does
  not go back to zero on the way (`Roster.HasRoom`);
* **`Roster.first_unbroken_picked`** — so the pick is the first entry in the cyclic order that is
  not broken, or the last one looked at when all are.

A position of the cursor that is not reduced is called so here: a natural number, which belongs to
the entry that is its remainder.
-/
import LoadGenerator.Roster

namespace LoadGenerator

/-- Every entry lies at some distance ahead of any position. -/
theorem exists_distance {n i : Nat} (hi : i < n) (c : Nat) : ∃ d < n, (c + d) % n = i := by
  have hn : 0 < n := by omega
  have hc : c % n < n := Nat.mod_lt c hn
  refine ⟨(i + (n - c % n)) % n, Nat.mod_lt _ hn, ?_⟩
  calc (c + (i + (n - c % n)) % n) % n
      = (c % n + (i + (n - c % n))) % n := by rw [Nat.add_mod_mod, Nat.mod_add_mod]
    _ = (i + n) % n := by congr 1; omega
    _ = i := by rw [Nat.add_mod_right, Nat.mod_eq_of_lt hi]

namespace Roster

variable {r r' : Roster} {i q : Nat}

/-- The entry that is picked next. -/
def pick (r : Roster) : Nat := r.selectNext.1

/-- The entries that a scan of so many steps looks at, in order. -/
def scanned (r : Roster) : (steps : Nat) → (cursor : UInt64) → List (Fin r.size)
  | 0, _ => []
  | steps + 1, cursor =>
    r.entryAt cursor ::
      if r.isBroken (r.entryAt cursor) then r.scanned steps (cursor + 1) else []

/-- The entries that the next pick looks at, in order. -/
def examined (r : Roster) : List (Fin r.size) := r.scanned r.size r.cursor

/-- How many entries the next pick looks at. -/
def stride (r : Roster) : Nat := r.examined.length

/-- The cursor does not go back to zero before the next pick is made. -/
def HasRoom (r : Roster) : Prop := r.cursor.toNat + r.stride ≤ wordRange

theorem size_pos (r : Roster) : 0 < r.size := r.nonempty

theorem pick_lt (r : Roster) : r.pick < r.size := r.selectNext.1.isLt

/-- A fresh roster has its cursor where it is told. -/
theorem of_ofAddresses? {addresses : Array SocketAddress} {offset : UInt64}
    (h : ofAddresses? addresses offset = some r) :
    r.cursor = offset ∧ r.size = addresses.size := by
  unfold ofAddresses? at h
  split at h
  · obtain rfl := Option.some.inj h
    exact ⟨rfl, by simp [size]⟩
  · cases h

/-! ### The entries looked at -/

theorem length_scanned_le (r : Roster) (steps : Nat) (cursor : UInt64) :
    (r.scanned steps cursor).length ≤ steps := by
  induction steps generalizing cursor with
  | zero => exact Nat.le_refl 0
  | succ steps ih =>
    have hrest := ih (cursor + 1)
    rw [scanned, List.length_cons]
    split
    · omega
    · exact Nat.succ_le_succ (Nat.zero_le steps)

/-- A scan stops at its last step or at an entry that is not broken, and the others are broken. -/
theorem exists_scanned (r : Roster) (steps : Nat) (cursor : UInt64) (last : Fin r.size) :
    ∃ passed : List (Fin r.size),
      r.scanned (steps + 1) cursor = passed ++ [(r.scan (steps + 1) cursor last).1] ∧
      (∀ i ∈ passed, r.isBroken i = true) ∧
      (r.isBroken (r.scan (steps + 1) cursor last).1 = true → passed.length = steps) := by
  -- induction on the steps that are left: only behind a broken entry is there a next one
  induction steps generalizing cursor last with
  | zero => exact ⟨[], by simp [scanned, scan], by simp, fun _ => rfl⟩
  | succ steps ih =>
    by_cases hbroken : r.isBroken (r.entryAt cursor) = true
    · obtain ⟨passed, hscanned, hpassed, hlast⟩ := ih (cursor + 1) (r.entryAt cursor)
      have hscan : r.scan (steps + 1 + 1) cursor last =
          r.scan (steps + 1) (cursor + 1) (r.entryAt cursor) := by
        rw [scan, if_pos hbroken]
      refine ⟨r.entryAt cursor :: passed, ?_, ?_, ?_⟩
      · rw [hscan, scanned, if_pos hbroken, hscanned, List.cons_append]
      · exact List.forall_mem_cons.mpr ⟨hbroken, hpassed⟩
      · intro h
        rw [List.length_cons, hlast (hscan ▸ h)]
    · have hscan : (r.scan (steps + 1 + 1) cursor last).1 = r.entryAt cursor := by
        rw [scan, if_neg hbroken]
      refine ⟨[], ?_, by simp, fun h => absurd (hscan ▸ h) hbroken⟩
      rw [hscan, scanned, if_neg hbroken, List.nil_append]

/-- The cursor moves on by one for each entry looked at. -/
theorem cursor_scan (r : Roster) (steps : Nat) (cursor : UInt64) (last : Fin r.size) :
    (r.scan steps cursor last).2.toNat =
      (cursor.toNat + (r.scanned steps cursor).length) % wordRange := by
  induction steps generalizing cursor last with
  | zero => exact (Nat.mod_eq_of_lt cursor.toNat_lt).symm
  | succ steps ih =>
    have hnext : (cursor + 1).toNat = (cursor.toNat + 1) % wordRange := UInt64.toNat_add cursor 1
    by_cases hbroken : r.isBroken (r.entryAt cursor) = true
    -- both sides take the cursor modulo its range, so going back to zero does no harm
    · rw [scan, if_pos hbroken, scanned, if_pos hbroken, List.length_cons, ih, hnext,
        Nat.mod_add_mod, Nat.add_assoc, Nat.add_comm 1]
    · rw [scan, if_neg hbroken, scanned, if_neg hbroken, List.length_singleton]
      exact hnext

/-- Where the entries of a scan stand, also when the cursor goes back to zero on the way. -/
theorem getElem?_scanned {steps e : Nat} {cursor : UInt64} {i : Fin r.size}
    (h : (r.scanned steps cursor)[e]? = some i) :
    i.val = (cursor.toNat + e) % wordRange % r.size := by
  induction steps generalizing cursor e with
  | zero => simp [scanned] at h
  | succ steps ih =>
    rw [scanned] at h
    cases e with
    | zero =>
      obtain rfl : r.entryAt cursor = i := by simpa using h
      rw [Nat.add_zero, Nat.mod_eq_of_lt (show cursor.toNat < wordRange from cursor.toNat_lt)]
      rfl
    | succ e =>
      rw [List.getElem?_cons_succ] at h
      split at h
      · have hnext : (cursor + 1).toNat = (cursor.toNat + 1) % wordRange :=
          UInt64.toNat_add cursor 1
        rw [ih h, hnext, Nat.mod_add_mod, Nat.add_assoc, Nat.add_comm 1]
      · simp at h

/-- What a scan looks at is decided by the entries that it looks at. -/
theorem scanned_congr (hsize : r'.size = r.size) {steps : Nat} {cursor : UInt64}
    (h : ∀ i ∈ r.scanned steps cursor, r'.isBroken i = r.isBroken i) :
    (r'.scanned steps cursor).map Fin.val = (r.scanned steps cursor).map Fin.val := by
  induction steps generalizing cursor with
  | zero => rfl
  | succ steps ih =>
    -- the entry at a cursor depends on the size alone
    have hentry : (r'.entryAt cursor).val = (r.entryAt cursor).val := by
      show cursor.toNat % r'.size = cursor.toNat % r.size
      rw [hsize]
    rw [scanned] at h ⊢
    rw [scanned, List.map_cons, List.map_cons, hentry, h _ List.mem_cons_self]
    congr 1
    split
    · next hbroken =>
      rw [if_pos hbroken] at h
      exact ih fun i hi => h i (List.mem_cons_of_mem _ hi)
    · rfl

/-! ### One pick -/

theorem stride_le (r : Roster) : r.stride ≤ r.size := r.length_scanned_le r.size r.cursor

/-- The pick is the last of the entries looked at, and the others are broken. If the pick is broken
as well, all the steps were taken. -/
theorem exists_examined (r : Roster) :
    ∃ passed : List (Fin r.size),
      r.examined = passed ++ [r.selectNext.1] ∧ r.stride = passed.length + 1 ∧
      (∀ i ∈ passed, r.isBroken i = true) ∧ (r.isBroken r.pick = true → r.stride = r.size) := by
  obtain ⟨passed, hscanned, hpassed, hlast⟩ :=
    r.exists_scanned (r.size - 1) r.cursor ⟨0, r.nonempty⟩
  rw [Nat.sub_add_cancel r.size_pos] at hscanned hlast
  have hstride : r.stride = passed.length + 1 := by
    rw [stride, examined, hscanned, List.length_append, List.length_singleton]
  refine ⟨passed, hscanned, hstride, hpassed, fun h => ?_⟩
  rw [hstride, hlast h, Nat.sub_add_cancel r.size_pos]

theorem stride_pos (r : Roster) : 0 < r.stride := by
  obtain ⟨passed, -, hstride, -, -⟩ := r.exists_examined
  omega

theorem stride_eq_size (h : r.isBroken r.pick = true) : r.stride = r.size := by
  obtain ⟨passed, -, -, -, hlast⟩ := r.exists_examined
  exact hlast h

/-- An entry at the cursor that is not broken is picked at once. -/
theorem pick_of_sound (h : r.isBroken (r.cursor.toNat % r.size) = false) :
    r.stride = 1 ∧ r.pick = r.cursor.toNat % r.size := by
  -- a scan ends at the first entry when that one is not broken
  have hscanned : ∀ steps, 0 < steps → r.scanned steps r.cursor = [r.entryAt r.cursor] := by
    intro steps hsteps
    cases steps with
    | zero => cases hsteps
    | succ steps =>
      have hentry : ¬r.isBroken (r.entryAt r.cursor) = true := by
        rw [Bool.not_eq_true]
        exact h
      rw [scanned, if_neg hentry]
  have hone : r.examined = [r.entryAt r.cursor] := hscanned r.size r.size_pos
  obtain ⟨passed, hexamined, hstride, -, -⟩ := r.exists_examined
  rw [hone] at hexamined
  obtain rfl : passed = [] := by
    cases passed with
    | nil => rfl
    | cons => simp at hexamined
  have hpick : r.entryAt r.cursor = r.selectNext.1 := by simpa using hexamined
  exact ⟨hstride, (congrArg Fin.val hpick).symm⟩

theorem cursor_selectNext (r : Roster) :
    r.selectNext.2.cursor.toNat = (r.cursor.toNat + r.stride) % wordRange :=
  r.cursor_scan r.size r.cursor ⟨0, r.nonempty⟩

/-- **A pick depends on nothing but the entries that it looks at.** -/
theorem selectNext_congr (hsize : r'.size = r.size) (hcursor : r'.cursor = r.cursor)
    (h : ∀ i ∈ r.examined, r'.isBroken i = r.isBroken i) :
    r'.pick = r.pick ∧ r'.selectNext.2.cursor = r.selectNext.2.cursor := by
  have hsame : r'.examined = r'.scanned r.size r.cursor :=
    congr (congrArg r'.scanned hsize) hcursor
  have hexamined : r'.examined.map Fin.val = r.examined.map Fin.val := by
    rw [hsame]
    exact scanned_congr hsize h
  have hstride : r'.stride = r.stride := by
    simpa [stride] using congrArg List.length hexamined
  -- the pick is the last entry that was looked at
  obtain ⟨passed, hp, -, -, -⟩ := r.exists_examined
  obtain ⟨passed', hp', -, -, -⟩ := r'.exists_examined
  rw [hp, hp', List.map_append, List.map_append] at hexamined
  have hlast := congrArg List.getLast? hexamined
  refine ⟨by simpa [pick] using hlast, ?_⟩
  rw [← UInt64.toNat_inj, cursor_selectNext, cursor_selectNext, hcursor, hstride]

theorem hasRoom_of_le (h : r.cursor.toNat + r.size ≤ wordRange) : r.HasRoom :=
  Nat.le_trans (Nat.add_le_add_left r.stride_le _) h

/-- The entries looked at stand side by side. -/
theorem examined_eq (hroom : r.HasRoom) :
    r.examined.map Fin.val = (List.range' r.cursor.toNat r.stride).map (· % r.size) := by
  refine List.ext_getElem (by simp [stride]) fun e h h' => ?_
  have he : e < r.examined.length := by simpa using h
  have hword : r.cursor.toNat + e < wordRange := Nat.lt_of_lt_of_le (Nat.add_lt_add_left he _) hroom
  have hentry := getElem?_scanned (List.getElem?_eq_getElem he)
  rw [Nat.mod_eq_of_lt hword] at hentry
  simpa using hentry

/-- The entry of a position that is looked at is broken or the pick. -/
theorem broken_or_picked (hroom : r.HasRoom) (hq : r.cursor.toNat ≤ q)
    (hq' : q < r.cursor.toNat + r.stride) :
    r.isBroken (q % r.size) = true ∨ r.pick = q % r.size := by
  have hmem : q % r.size ∈ r.examined.map Fin.val := by
    rw [examined_eq hroom]
    exact List.mem_map_of_mem (List.mem_range'_1.mpr ⟨hq, hq'⟩)
  obtain ⟨i, hi, hval⟩ := List.mem_map.mp hmem
  obtain ⟨passed, hexamined, -, hpassed, -⟩ := r.exists_examined
  rw [hexamined, List.mem_append, List.mem_singleton] at hi
  rcases hi with hi | rfl
  · exact .inl (hval ▸ hpassed i hi)
  · exact .inr hval

/-- The pick is the entry of the last position looked at. -/
theorem pick_eq (hroom : r.HasRoom) : r.pick = (r.cursor.toNat + (r.stride - 1)) % r.size := by
  obtain ⟨passed, hexamined, hstride, -, -⟩ := r.exists_examined
  have hlast : (r.examined.map Fin.val)[passed.length]? = some r.pick := by
    simp [hexamined, pick]
  rw [examined_eq hroom] at hlast
  have hget : some ((r.cursor.toNat + passed.length) % r.size) = some r.pick := by
    rw [← hlast, List.getElem?_map, List.getElem?_range' (by omega)]
    simp
  rw [hstride, Nat.add_sub_cancel]
  exact (Option.some.inj hget).symm

/-- The entries before the last are broken. -/
theorem broken_of_lt_stride (hroom : r.HasRoom) {e : Nat} (he : e + 1 < r.stride) :
    r.isBroken ((r.cursor.toNat + e) % r.size) = true := by
  obtain ⟨passed, hexamined, hstride, hpassed, -⟩ := r.exists_examined
  have hlt : e < passed.length := by omega
  have hget : (r.examined.map Fin.val)[e]? = some (passed[e]).val := by
    rw [hexamined, List.getElem?_map, List.getElem?_append_left hlt, List.getElem?_eq_getElem hlt]
    rfl
  rw [examined_eq hroom, List.getElem?_map, List.getElem?_range' (by omega)] at hget
  have hval : (r.cursor.toNat + e) % r.size = (passed[e]).val := by simpa using hget
  rw [hval]
  exact hpassed _ (List.getElem_mem hlt)

/-- Where some entry is not broken, the pick is not. -/
theorem isBroken_pick_eq_false (hroom : r.HasRoom) (hi : i < r.size)
    (hsound : r.isBroken i = false) : r.isBroken r.pick = false := by
  cases hpick : r.isBroken r.pick with
  | false => rfl
  | true =>
    -- then all entries were looked at, and that one among them
    obtain ⟨d, hd, rfl⟩ := exists_distance hi r.cursor.toNat
    have hstride := stride_eq_size hpick
    rcases broken_or_picked hroom (Nat.le_add_right _ d) (by omega) with h | h
    · exact h.symm.trans hsound
    · rw [← hsound, ← h, hpick]

/-- Where all entries are broken, the pick is the last one in the cyclic order. -/
theorem pick_of_all_broken (h : ∀ i < r.size, r.isBroken i = true) (hroom : r.HasRoom) :
    r.stride = r.size ∧ r.pick = (r.cursor.toNat + r.size - 1) % r.size := by
  have hstride := stride_eq_size (h _ r.pick_lt)
  refine ⟨hstride, ?_⟩
  rw [pick_eq hroom, hstride, Nat.add_sub_assoc r.size_pos]

/-- **The first entry that is not broken is picked.** From a cursor that is not within the last
round before it goes back to zero, a pick goes to the first entry in the cyclic order that is not
broken, and the cursor ends behind it; when every entry is broken, it goes to the entry before the
cursor, after a full round. From any cursor, a pick is an entry of the roster, looks at no more
entries than there are and at nothing else, and changes neither addresses nor histories. -/
theorem first_unbroken_picked (r : Roster) :
    let c := r.cursor.toNat
    let n := r.size
    (c + n ≤ wordRange →
      ((∃ i < n, r.isBroken i = false) →
        ∃ d < n, r.isBroken ((c + d) % n) = false ∧
          (∀ e < d, r.isBroken ((c + e) % n) = true) ∧
          r.selectNext.1.val = (c + d) % n ∧
          r.selectNext.2.cursor.toNat = (c + d + 1) % wordRange) ∧
      ((∀ i < n, r.isBroken i = true) →
        r.selectNext.1.val = (c + n - 1) % n ∧
          r.selectNext.2.cursor.toNat = (c + n) % wordRange)) ∧
    r.selectNext.1.val < n ∧
    r.examined.length ≤ n ∧
    (∀ r' : Roster, r'.size = n → r'.cursor = r.cursor →
      (∀ i ∈ r.examined, r'.isBroken i = r.isBroken i) →
      r'.selectNext.1.val = r.selectNext.1.val ∧
        r'.selectNext.2.cursor = r.selectNext.2.cursor) ∧
    r.selectNext.2.remotes = r.remotes := by
  intro c n
  refine ⟨fun hc => ⟨?_, fun hall => ?_⟩, r.pick_lt, r.stride_le, ?_, r.remotes_selectNext⟩
  · rintro ⟨i, hi, hsound⟩
    have hroom := hasRoom_of_le hc
    have hpos := r.stride_pos
    have hle := r.stride_le
    have hpick := pick_eq hroom
    -- the distance is one less than the stride, since the pick is looked at as well
    refine ⟨r.stride - 1, by omega, ?_, fun e he => ?_, hpick, ?_⟩
    · rw [← hpick]
      exact isBroken_pick_eq_false hroom hi hsound
    · exact broken_of_lt_stride hroom (by omega)
    · rw [cursor_selectNext]
      congr 1
      omega
  · obtain ⟨hstride, hpick⟩ := pick_of_all_broken hall (hasRoom_of_le hc)
    exact ⟨hpick, by rw [cursor_selectNext, hstride]⟩
  · exact fun r' hsize hcursor h => selectNext_congr hsize hcursor h

end Roster

namespace Sample

/-- An entry all of whose attempts failed, so many of them. -/
def deadRemote (port : UInt16) (attempts : Nat) : Remote :=
  { address := .v4 ⟨127, 0, 0, 1⟩ port, stats := { attempts, failures := attempts } }

/-- Three entries, the cursor three words before it goes back to zero. It points at the second of
them, and only the first, which it comes to last, is not broken. -/
def rosterAtSeam : Roster :=
  ⟨#[deadRemote 9000 10, deadRemote 9001 11, deadRemote 9002 12], by decide, 18446744073709551613⟩

end Sample

/-- The cursor passes over two broken entries and has gone back to zero once the third is picked. -/
theorem Roster.first_unbroken_picked_at_seam :
    let r := Sample.rosterAtSeam
    r.cursor.toNat + r.size ≤ wordRange ∧ r.isBroken 0 = false ∧
      r.selectNext.1.val = 0 ∧ r.selectNext.2.cursor.toNat = 0 := by
  intro r
  have hroom : r.cursor.toNat + r.size ≤ wordRange := by decide
  have hsound : r.isBroken 0 = false := by decide
  obtain ⟨hpicks, -⟩ := first_unbroken_picked r
  obtain ⟨d, hd, hpicked, -, hpick, hcursor⟩ := (hpicks hroom).1 ⟨0, by decide, hsound⟩
  -- the entries at distance zero and one are the broken ones
  have hdistance : ∀ d < r.size, r.isBroken ((r.cursor.toNat + d) % r.size) = false → d = 2 := by
    decide
  obtain rfl := hdistance d hd hpicked
  exact ⟨hroom, hsound, hpick.trans (by decide), hcursor.trans (by decide)⟩

end LoadGenerator
