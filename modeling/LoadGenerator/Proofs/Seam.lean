/-
The seam in the order of picks.

The cursor is a machine word and goes back to zero after the last one, while the entry it points at
is its remainder by the number of entries. If this number divides the number of words, the
remainders go on in order across the seam, and a pick looks at every entry once. If it does not, the
order breaks off at the seam: some entries are looked at twice, and others not at all.

* **`Roster.position`**, **`Roster.isBroken_pick_iff`** — the pick is broken if and only if all the
  entries are broken that a pick may look at;
* **`exists_mod_mod_of_dvd`**, **`mod_mod_ne_of_not_dvd`** — which remainders occur in one round
  across the seam;
* **`Roster.beforeSeam`** — a roster with one entry that is not broken, on which a broken one is
  dialed;
* **`Roster.sound_picked_iff_dvd`** — a pick finds an entry that is not broken, wherever the cursor
  stands, if and only if the number of entries divides the number of words.
-/
import Mathlib.Data.Nat.Prime.Basic
import LoadGenerator.Proofs.Degrading
import LoadGenerator.Proofs.Dialing

namespace LoadGenerator

/-! ### Remainders across the seam -/

variable {n w : Nat}

/-- Where the number of entries divides the number of words, a round comes to every entry. -/
theorem exists_mod_mod_of_dvd (hn : n ∣ w) {i : Nat} (hi : i < n) (c : Nat) :
    ∃ e < n, (c + e) % w % n = i := by
  obtain ⟨e, he, hval⟩ := exists_distance hi c
  exact ⟨e, he, by rw [Nat.mod_mod_of_dvd _ hn, hval]⟩

/-- Where it does not, a round from the last word on does not come to the last entry: it begins
elsewhere, and goes on from the first. -/
theorem mod_mod_ne_of_not_dvd (hn : ¬n ∣ w) (hw : 0 < w) {e : Nat} (he : e < n) :
    (w - 1 + e) % w % n ≠ n - 1 := by
  intro hlast
  cases e with
  | zero =>
    rw [Nat.add_zero, Nat.mod_eq_of_lt (Nat.sub_one_lt_of_lt hw)] at hlast
    refine hn (Nat.dvd_of_mod_eq_zero ?_)
    calc w % n = ((w - 1) % n + 1) % n := by rw [Nat.mod_add_mod, Nat.sub_add_cancel hw]
      _ = n % n := by rw [hlast, Nat.sub_add_cancel (Nat.zero_lt_of_lt he)]
      _ = 0 := Nat.mod_self n
  | succ e =>
    -- past the last word the round goes on from the first entry
    have hwrapped : (w - 1 + (e + 1)) % w = e % w := by
      rw [show w - 1 + (e + 1) = w + e by omega, Nat.add_mod_left]
    have hle : e % w ≤ e := Nat.mod_le e w
    rw [hwrapped, Nat.mod_eq_of_lt (by omega)] at hlast
    omega

/-- The numbers that divide the number of words are powers of two. -/
theorem not_dvd_wordRange (h : ∀ k, n ≠ twoTo k) : ¬n ∣ wordRange := by
  intro hdvd
  obtain ⟨k, -, rfl⟩ := (Nat.dvd_prime_pow Nat.prime_two).mp hdvd
  exact h k rfl

namespace Roster

variable {r : Roster}

/-- The addresses in order. -/
def addresses (r : Roster) : Array SocketAddress := r.remotes.map Remote.address

/-- The entry that the cursor points at after so many more steps. -/
def position (r : Roster) (e : Nat) : Nat := (r.cursor.toNat + e) % wordRange % r.size

/-- The pick is broken if and only if all the entries are broken that a round comes to. -/
theorem isBroken_pick_iff :
    r.isBroken r.pick = true ↔ ∀ e < r.size, r.isBroken (r.position e) = true := by
  obtain ⟨passed, hexamined, hstride, hpassed, hlast⟩ := r.exists_examined
  constructor
  · intro hpick e he
    -- then all steps were taken, and whatever was looked at is broken
    have hlt : e < r.examined.length := Nat.lt_of_lt_of_eq he (stride_eq_size hpick).symm
    have hentry : (r.examined[e]).val = r.position e :=
      getElem?_scanned (List.getElem?_eq_getElem hlt)
    rw [← hentry]
    have hmem : r.examined[e] ∈ passed ++ [r.selectNext.1] := hexamined ▸ List.getElem_mem hlt
    rcases List.mem_append.mp hmem with hmem | hmem
    · exact hpassed _ hmem
    · rw [List.mem_singleton.mp hmem]
      exact hpick
  · intro hall
    have hget : r.examined[passed.length]? = some r.selectNext.1 := by simp [hexamined]
    have hpick : r.pick = r.position passed.length := getElem?_scanned hget
    have hle := r.stride_le
    rw [hpick]
    exact hall _ (by omega)

/-- The cursor stands at the last word. The last entry has not been dialed yet, and every other one
is broken. -/
def beforeSeam (addresses : Array SocketAddress) (h : 0 < addresses.size) : Roster where
  remotes := addresses.mapIdx fun i address =>
    { address, stats := if i + 1 = addresses.size then {} else .dead 11 }
  nonempty := by simpa using h
  cursor := 18446744073709551615

section BeforeSeam

variable {addresses : Array SocketAddress} (h : 0 < addresses.size)

theorem cursor_beforeSeam : (beforeSeam addresses h).cursor.toNat = wordRange - 1 := by
  show (18446744073709551615 : UInt64).toNat = wordRange - 1
  decide

@[simp] theorem size_beforeSeam : (beforeSeam addresses h).size = addresses.size := by
  simp [beforeSeam, size]

theorem addresses_beforeSeam : (beforeSeam addresses h).addresses = addresses := by
  refine Array.ext (by simp [Roster.addresses, beforeSeam]) fun i _ _ => ?_
  simp [Roster.addresses, beforeSeam]

theorem stats_beforeSeam {i : Nat} (hi : i < addresses.size) :
    (beforeSeam addresses h).stats i = if i + 1 = addresses.size then {} else .dead 11 := by
  simp [stats, stats?, beforeSeam, hi]

theorem isBroken_beforeSeam {i : Nat} (hi : i < addresses.size) :
    (beforeSeam addresses h).isBroken i = true ↔ i ≠ addresses.size - 1 := by
  rw [isBroken, stats_beforeSeam h hi]
  split
  · next hlast =>
    rw [show ({} : RemoteStats).isBroken = false from rfl]
    exact ⟨fun hbroken => absurd hbroken Bool.false_ne_true,
      fun hother => absurd (Nat.eq_sub_of_add_eq hlast) hother⟩
  · next hother =>
    rw [RemoteStats.isBroken_dead]
    exact ⟨fun _ hlast => hother (by omega), fun _ => by decide⟩

/-- If the number of entries does not divide the number of words, a broken entry is picked. -/
theorem isBroken_pick_beforeSeam (hn : ¬addresses.size ∣ wordRange) :
    (beforeSeam addresses h).isBroken (beforeSeam addresses h).pick = true := by
  rw [isBroken_pick_iff]
  intro e he
  rw [size_beforeSeam] at he
  rw [position, size_beforeSeam, cursor_beforeSeam, isBroken_beforeSeam h (Nat.mod_lt _ h)]
  exact mod_mod_ne_of_not_dvd hn (by decide) he

end BeforeSeam

/-- **When the seam does no harm.** Take any addresses, and let `n` be their number. Whatever the
cursor and the histories, a pick finds an entry that is not broken if there is one, if and only if
`n` divides the number of words. So if `n` is no power of two, there are histories, each of an entry
that was never dialed or failed eleven times, such that a worker with its cursor at the last word
dials a broken entry although another one is sound. -/
theorem sound_picked_iff_dvd (addresses : Array SocketAddress) (h : 0 < addresses.size) :
    let n := addresses.size
    ((∀ r : Roster, r.addresses = addresses → (∃ i < n, r.isBroken i = false) →
      r.isBroken r.selectNext.1 = false) ↔ n ∣ wordRange) ∧
    ((∀ k, n ≠ twoTo k) → ∃ r : Roster, r.addresses = addresses ∧
      r.cursor.toNat + 1 = wordRange ∧
      (∀ i < n, r.stats i = {} ∨ r.stats i = .dead 11) ∧
      (∃ i < n, r.isBroken i = false) ∧
      r.isBroken r.selectNext.1 = true ∧
      ∀ (w : Worker) (a : DialAnswers), w.roster = r →
        ∃ i, r.isBroken i = true ∧
          (w.handle .connect a).acts.filterMap Act.dialedEntry? = [i]) := by
  intro n
  have hlast : n - 1 < n := Nat.sub_one_lt_of_lt h
  have hsound : (beforeSeam addresses h).isBroken (n - 1) = false := by
    rw [← Bool.not_eq_true, isBroken_beforeSeam h hlast]
    exact fun hother => hother rfl
  refine ⟨⟨fun hfinds => ?_, fun hdvd r hr => ?_⟩, fun hpower => ?_⟩
  · -- otherwise a broken entry is picked at the seam
    by_contra hn
    have hpick := isBroken_pick_beforeSeam h hn
    have hfound := hfinds _ (addresses_beforeSeam h) ⟨n - 1, hlast, hsound⟩
    exact absurd (hpick.symm.trans hfound) nofun
  -- a number that divides the words has every entry in each round, also across the seam
  · rintro ⟨i, hi, hi'⟩
    have hsize : r.size = n := by simp [n, ← hr, Roster.addresses, size]
    rw [← Bool.not_eq_true]
    intro hpick
    obtain ⟨e, he, hval⟩ := exists_mod_mod_of_dvd hdvd hi r.cursor.toNat
    have hbroken := isBroken_pick_iff.mp hpick e (hsize.symm ▸ he)
    rw [position, hsize, hval, hi'] at hbroken
    cases hbroken
  · have hpick := isBroken_pick_beforeSeam h (not_dvd_wordRange hpower)
    refine ⟨beforeSeam addresses h, addresses_beforeSeam h, ?_, fun i hi => ?_,
      ⟨n - 1, hlast, hsound⟩, hpick, fun w a hw => ⟨_, hpick, hw ▸ w.dialedEntry?_dial a⟩⟩
    · rw [cursor_beforeSeam, Nat.sub_add_cancel (by decide)]
    · rw [stats_beforeSeam h hi]
      split
      · exact .inl rfl
      · exact .inr rfl

end Roster

namespace Sample

/-- Three addresses, which is no power of two. -/
def threeAddresses : Array SocketAddress :=
  #[.v4 ⟨127, 0, 0, 1⟩ 9000, .v4 ⟨127, 0, 0, 1⟩ 9001, .v4 ⟨127, 0, 0, 1⟩ 9002]

end Sample

/-- Three entries: at the seam a broken one is dialed, although another one is sound. -/
theorem Roster.sound_picked_iff_dvd_three :
    0 < Sample.threeAddresses.size ∧ (∀ k, Sample.threeAddresses.size ≠ twoTo k) ∧
      ∃ r : Roster, r.addresses = Sample.threeAddresses ∧ r.cursor.toNat + 1 = wordRange ∧
        (∃ i < 3, r.isBroken i = false) ∧ r.isBroken r.selectNext.1 = true := by
  have h : 0 < Sample.threeAddresses.size := by decide
  have hpower : ∀ k, Sample.threeAddresses.size ≠ twoTo k := by
    intro k
    show 3 ≠ 2 ^ k
    cases k with
    | zero => decide
    | succ k => omega
  obtain ⟨-, hfails⟩ := sound_picked_iff_dvd Sample.threeAddresses h
  obtain ⟨r, hr, hcursor, -, hsound, hpick, -⟩ := hfails hpower
  exact ⟨h, hpower, r, hr, hcursor, hsound, hpick⟩

end LoadGenerator
