/-
The period of a ramp, over all rates that a configuration can hold.

The period is found in two steps, each of which rounds: the reciprocal of the rate is rounded to a
floating-point number, and its nanoseconds are rounded to a whole number. The first error is too
small to be seen after the second, so the period is nearest to the quotient itself. Beyond two
thousand million connections a second the nearest number is zero, a period that no ramp can have.

* **`roundHalfEven_twice`** — when rounding a second time is as good as rounding once;
* **`Binary64.ofRatio_one`**, **`Binary64.parts_ofMagnitude`** — the number nearest to a reciprocal,
  and how it is read back;
* **`Ramp.period_nearest`**, **`Ramp.period_eq_zero_iff`** — the period of a rate, and the rates
  whose period is no time at all;
* **`Settings.exists_parse?_of_connectRate`** — every rate of thirty-two bits is accepted;
* **`Settings.drive_crashes_iff`** — the rates with which a drive crashes.
-/
import LoadGenerator.Proofs.Crew
import LoadGenerator.Proofs.Ramping
import LoadGenerator.Proofs.Saving
import LoadGenerator.Session.Drive
import Mathlib.Tactic.Ring

namespace LoadGenerator

/-! ### Rounding -/

/-- A quotient is rounded by half a unit at most. -/
theorem roundHalfEven_nearest (num : Nat) {den : Nat} (hden : 0 < den) :
    2 * num ≤ 2 * (den * roundHalfEven num den) + den ∧
      2 * (den * roundHalfEven num den) ≤ 2 * num + den := by
  have hdiv : den * (num / den) + num % den = num := Nat.div_add_mod num den
  have hrem : num % den < den := Nat.mod_lt num hden
  unfold roundHalfEven
  simp only
  split
  · omega
  · split
    · rw [Nat.mul_add]
      omega
    · -- a tie: either neighbour is half a unit away
      rcases Nat.mod_two_eq_zero_or_one (num / den) with heven | hodd
      · rw [heven, Nat.add_zero]
        omega
      · rw [hodd, Nat.mul_add]
        omega

/-- Rounding does not leave a range that whole numbers bound. -/
theorem le_roundHalfEven {num den low : Nat} (hden : 0 < den) (h : den * low ≤ num) :
    low ≤ roundHalfEven num den := by
  have hnear := (roundHalfEven_nearest num hden).1
  refine Nat.le_of_lt_succ (Nat.lt_of_mul_lt_mul_left (a := den) ?_)
  rw [Nat.mul_succ]
  omega

theorem roundHalfEven_le {num den high : Nat} (hden : 0 < den) (h : num ≤ den * high) :
    roundHalfEven num den ≤ high := by
  have hnear := (roundHalfEven_nearest num hden).2
  refine Nat.le_of_lt_succ (Nat.lt_of_mul_lt_mul_left (a := den) ?_)
  rw [Nat.mul_succ]
  omega

/-- Only the quotient counts. -/
theorem roundHalfEven_mul_right (num den : Nat) {c : Nat} (hc : 0 < c) :
    roundHalfEven (num * c) (den * c) = roundHalfEven num den := by
  have hless (a b : Nat) : 2 * (a * c) < b * c ↔ 2 * a < b := by
    rw [← Nat.mul_assoc, Nat.mul_lt_mul_right hc]
  have hmore (a b : Nat) : b * c < 2 * (a * c) ↔ b < 2 * a := by
    rw [← Nat.mul_assoc, Nat.mul_lt_mul_right hc]
  simp only [roundHalfEven, Nat.mul_div_mul_right _ _ hc, Nat.mul_mod_mul_right, hless, hmore]

/-- **Rounding twice.** Let the reciprocal of a number be rounded at one place, and a multiple of
the result be rounded to a whole number. If the place is so far behind that the error of the first
rounding stays below one in the product, the result is nearest to the quotient itself. -/
theorem roundHalfEven_twice {n unit factor : Nat} (hn : 0 < n) (hfar : n * factor < unit) :
    let p := roundHalfEven (roundHalfEven unit n * factor) unit
    2 * factor ≤ 2 * (p * n) + n ∧ 2 * (p * n) ≤ 2 * factor + n := by
  intro p
  obtain ⟨hlow, hhigh⟩ := roundHalfEven_nearest unit hn
  obtain ⟨hlow', hhigh'⟩ :=
    roundHalfEven_nearest (roundHalfEven unit n * factor) (Nat.zero_lt_of_lt hfar)
  change 2 * (_ * factor) ≤ 2 * (unit * p) + unit at hlow'
  change 2 * (unit * p) ≤ 2 * (_ * factor) + unit at hhigh'
  generalize roundHalfEven unit n = q at *
  -- in units, what the first rounding adds to the product is less than one, and does not count
  constructor
  · refine Nat.le_of_lt_succ (Nat.lt_of_mul_lt_mul_left (a := unit) ?_)
    calc unit * (2 * factor) = 2 * unit * factor := by ring
      _ ≤ (2 * (n * q) + n) * factor := Nat.mul_le_mul_right factor hlow
      _ = n * (2 * (q * factor)) + n * factor := by ring
      _ < n * (2 * (unit * p) + unit) + unit :=
        Nat.add_lt_add_of_le_of_lt (Nat.mul_le_mul_left n hlow') hfar
      _ = unit * (2 * (p * n) + n + 1) := by ring
  · refine Nat.le_of_lt_succ (Nat.lt_of_mul_lt_mul_left (a := unit) ?_)
    calc unit * (2 * (p * n)) = n * (2 * (unit * p)) := by ring
      _ ≤ n * (2 * (q * factor) + unit) := Nat.mul_le_mul_left n hhigh'
      _ = 2 * (n * q) * factor + n * unit := by ring
      _ ≤ (2 * unit + n) * factor + n * unit :=
        Nat.add_le_add_right (Nat.mul_le_mul_right factor hhigh) _
      _ = unit * (2 * factor + n) + n * factor := by ring
      _ < unit * (2 * factor + n) + unit := Nat.add_lt_add_left hfar _
      _ = unit * (2 * factor + n + 1) := by ring

/-! ### Floating-point numbers -/

namespace Binary64

theorem magnitudeBits_ofMagnitude {magnitude : Nat} (h : magnitude ≤ infiniteBits) :
    (ofMagnitude false magnitude).magnitudeBits = magnitude := by
  have hlt : magnitude < twoTo 63 := Nat.lt_of_le_of_lt h (by decide)
  have hword : magnitude < 2 ^ 64 := Nat.lt_trans hlt (by decide)
  have hbits : (ofMagnitude false magnitude).bits.toNat = magnitude := by
    simpa [ofMagnitude, Nat.min_eq_left h, Nat.toUInt64] using hword
  rw [magnitudeBits, hbits, Nat.mod_eq_of_lt hlt]

/-- The two parts of a number that is not too small. -/
theorem parts_of_magnitudeBits {x : Binary64} {field fraction : Nat}
    (h : x.magnitudeBits = (field + 1) * twoTo 52 + fraction) (hfraction : fraction < twoTo 52) :
    x.significand = twoTo 52 + fraction ∧ x.exponent = leastExponent + field := by
  -- the fraction is below the field, so the division takes the bits apart
  have hfield : x.exponentField = field + 1 := by
    rw [exponentField, h, Nat.mul_comm, Nat.mul_add_div (twoTo_pos 52),
      Nat.div_eq_of_lt hfraction, Nat.add_zero]
  have hrest : x.magnitudeBits % twoTo 52 = fraction := by
    rw [h, Nat.mul_comm, Nat.mul_add_mod, Nat.mod_eq_of_lt hfraction]
  have hnormal : x.exponentField ≠ 0 := hfield ▸ Nat.succ_ne_zero field
  refine ⟨by rw [significand, if_neg hnormal, hrest], ?_⟩
  rw [exponent, if_neg hnormal, hfield, leastExponent]
  omega

/-- **A rounded significand is read back**, also where it is carried into the next exponent. -/
theorem parts_ofMagnitude {field q : Nat} (hfield : field < 2045) (hlow : twoTo 52 ≤ q)
    (hhigh : q ≤ twoTo 53) :
    let x := ofMagnitude false (field * twoTo 52 + q)
    ∃ carry ≤ 1, x.significand * twoTo carry = q ∧
      x.exponent = leastExponent + (field + carry : Nat) := by
  intro x
  have hdouble : twoTo 53 = twoTo 52 + twoTo 52 := rfl
  have hbits : x.magnitudeBits = field * twoTo 52 + q := by
    refine magnitudeBits_ofMagnitude ?_
    have hroom : (field + 2) * twoTo 52 ≤ infiniteBits :=
      Nat.mul_le_mul_right _ (Nat.le_of_lt (Nat.add_lt_add_right hfield 2))
    rw [Nat.add_mul] at hroom
    omega
  rcases Nat.lt_or_eq_of_le hhigh with hlt | rfl
  · have hparts : x.magnitudeBits = (field + 1) * twoTo 52 + (q - twoTo 52) := by
      rw [hbits, Nat.succ_mul]
      omega
    obtain ⟨hsignificand, hexponent⟩ := parts_of_magnitudeBits hparts (by omega)
    refine ⟨0, Nat.zero_le 1, ?_, hexponent⟩
    rw [hsignificand, Nat.add_sub_cancel' hlow]
    exact Nat.mul_one q
  -- the significand was rounded up to the next power of two, and its exponent grows by one
  · have hparts : x.magnitudeBits = (field + 1 + 1) * twoTo 52 + 0 := by
      rw [hbits, hdouble, Nat.succ_mul, Nat.succ_mul, Nat.add_zero, Nat.add_assoc]
    obtain ⟨hsignificand, hexponent⟩ := parts_of_magnitudeBits hparts (twoTo_pos 52)
    exact ⟨1, Nat.le_refl 1, by rw [hsignificand]; rfl, hexponent⟩

theorem roundScaled_neg (num den : Nat) {k : Nat} (hk : 0 < k) :
    roundScaled num den (-(k : Int)) = roundHalfEven (num * twoTo k) den := by
  rw [roundScaled, if_pos (by omega), Int.neg_neg, Int.toNat_natCast]

/-- The bits of a quotient that is rounded at a place behind the point. -/
theorem bits_of_place (num den : Nat) {k : Nat} (hpos : 0 < k) (hle : k ≤ 1074) :
    let e := max (-(k : Int)) leastExponent
    (e - leastExponent).toNat * twoTo 52 + roundScaled num den e =
      (1074 - k) * twoTo 52 + roundHalfEven (num * twoTo k) den := by
  -- the place is not below the least exponent, so it is taken as it is
  have he : max (-(k : Int)) leastExponent = -(k : Int) := by
    rw [leastExponent]
    omega
  have hfield : (-(k : Int) - leastExponent).toNat = 1074 - k := by
    rw [leastExponent]
    omega
  simp only [he, hfield, roundScaled_neg num den hpos]

/-- The number nearest to a reciprocal. Its significand is a quotient that is rounded at fifty-three
bits. -/
theorem ofRatio_one {n : Nat} (hpos : 0 < n) (hle : n ≤ greatestCount) :
    ∃ k, 52 ≤ k ∧ k ≤ 84 ∧ n * twoTo 52 ≤ twoTo k ∧ twoTo k ≤ n * twoTo 53 ∧
      ofRatio false 1 n =
        ofMagnitude false ((1074 - k) * twoTo 52 + roundHalfEven (twoTo k) n) := by
  have hlog : n.log2 ≤ 31 := by
    have hlt : n < 2 ^ 32 := Nat.lt_of_le_of_lt hle (by decide)
    exact Nat.le_of_lt_succ ((Nat.log2_lt (Nat.ne_of_gt hpos)).mpr hlt)
  have hself : twoTo n.log2 ≤ n := Nat.log2_self_le (Nat.ne_of_gt hpos)
  have hnext : n < twoTo (n.log2 + 1) := Nat.lt_log2_self
  have hguess :
      ((Nat.log2 1 : Nat) : Int) - (n.log2 : Int) - 52 = -((n.log2 + 52 : Nat) : Int) := by
    rw [show Nat.log2 1 = 0 from rfl]
    omega
  have hscaled : 1 * twoTo (n.log2 + 52) < n * twoTo 52 ↔ twoTo n.log2 < n := by
    rw [Nat.one_mul, twoTo_add, Nat.mul_lt_mul_right (twoTo_pos 52)]
  rw [ofRatio, if_neg Nat.one_ne_zero]
  simp only [hguess, if_pos (show -((n.log2 + 52 : Nat) : Int) < 0 by omega), Int.neg_neg,
    Int.toNat_natCast, hscaled]
  rcases Nat.lt_or_eq_of_le hself with hlt | heq
  · -- the first guess is one too great
    refine ⟨n.log2 + 53, by omega, by omega, ?_, ?_, ?_⟩
    · rw [show n.log2 + 53 = (n.log2 + 1) + 52 from rfl, twoTo_add]
      exact Nat.mul_le_mul_right _ (Nat.le_of_lt hnext)
    · rw [twoTo_add]
      exact Nat.mul_le_mul_right _ hself
    · rw [if_pos (decide_eq_true hlt),
        show -((n.log2 + 52 : Nat) : Int) - 1 = -((n.log2 + 53 : Nat) : Int) by omega,
        bits_of_place _ _ (by omega) (by omega), Nat.one_mul]
  -- a power of two: the first guess is right
  · refine ⟨n.log2 + 52, by omega, by omega, ?_, ?_, ?_⟩
    · rw [twoTo_add, heq]
    · rw [twoTo_add, heq]
      exact Nat.mul_le_mul_left _ (by decide)
    · rw [if_neg (by simp [heq]), bits_of_place _ _ (by omega) (by omega), Nat.one_mul]

end Binary64

/-! ### Periods -/

namespace Ramp

/-- The period is found by rounding twice. -/
theorem period_eq {rate : Nat} (hpos : 0 < rate) (hle : rate ≤ greatestCount) :
    ∃ unit, rate * twoTo 52 ≤ unit ∧
      period rate = roundHalfEven (roundHalfEven unit rate * nanosecondsPerSecond) unit := by
  obtain ⟨k, hleast, hmost, hlow, hhigh, hratio⟩ := Binary64.ofRatio_one hpos hle
  have hfield : 1074 - k < 2045 := by omega
  have hexponent_eq {carry : Nat} (hcarry : carry ≤ 1) : carry ≤ k ∧
      -(Binary64.leastExponent + (1074 - k + carry : Nat)) = ((k - carry : Nat) : Int) := by
    rw [Binary64.leastExponent]
    omega
  refine ⟨twoTo k, hlow, ?_⟩
  generalize hq : roundHalfEven (twoTo k) rate = q at hratio
  obtain ⟨carry, hcarry, hsignificand, hexponent⟩ :=
    Binary64.parts_ofMagnitude hfield (hq ▸ le_roundHalfEven hpos hlow : twoTo 52 ≤ q)
      (hq ▸ roundHalfEven_le hpos hhigh)
  obtain ⟨hle, hscale⟩ := hexponent_eq hcarry
  -- the carry moves from the significand to the scale, where it cancels
  have hunit : twoTo (k - carry) * twoTo carry = twoTo k := by
    rw [← twoTo_add, Nat.sub_add_cancel hle]
  rw [← hratio] at hsignificand hexponent
  rw [period, hexponent, hscale, Binary64.roundScaled, if_neg (by omega), Int.toNat_natCast,
    Nat.one_mul, ← roundHalfEven_mul_right _ _ (twoTo_pos carry), hunit, Nat.mul_right_comm,
    hsignificand]

/-- **The period is nearest to the quotient of a second by the rate**, although it is rounded
twice. -/
theorem period_nearest {rate : Nat} (hpos : 0 < rate) (hle : rate ≤ greatestCount) :
    2 * nanosecondsPerSecond ≤ 2 * (period rate * rate) + rate ∧
      2 * (period rate * rate) ≤ 2 * nanosecondsPerSecond + rate := by
  obtain ⟨unit, hlow, hperiod⟩ := period_eq hpos hle
  have hfar : rate * nanosecondsPerSecond < unit :=
    Nat.lt_of_lt_of_le (Nat.mul_lt_mul_of_pos_left (by decide) hpos) hlow
  rw [hperiod]
  exact roundHalfEven_twice hpos hfar

/-- Two thousand million connections a second are the most that have a period. -/
theorem period_eq_zero_iff {rate : Nat} (hpos : 0 < rate) (hle : rate ≤ greatestCount) :
    period rate = 0 ↔ 2000000000 < rate := by
  obtain ⟨hlow, hhigh⟩ := period_nearest hpos hle
  rw [nanosecondsPerSecond] at hlow hhigh
  constructor
  · intro hzero
    rw [hzero] at hlow
    -- half a nanosecond is rounded up, as its reciprocal is
    have htie : period 2000000000 ≠ 0 := by decide +kernel
    have hne : rate ≠ 2000000000 := fun heq => htie (heq ▸ hzero)
    omega
  · intro hgreat
    by_contra hsome
    have hmul : rate ≤ period rate * rate := Nat.le_mul_of_pos_left rate (Nat.pos_of_ne_zero hsome)
    omega

theorem start?_eq_none_iff {load : Load} (hle : load.connectRate ≤ greatestCount) :
    start? load = none ↔ 2000000000 < load.connectRate := by
  by_cases hrate : load.connectRate = 0
  · obtain ⟨r, hr⟩ := exists_start? (.inl hrate)
    simp [hr, hrate]
  · rw [← period_eq_zero_iff (Nat.pos_of_ne_zero hrate) hle]
    by_cases hzero : period load.connectRate = 0
    · simp [start?, hrate, hzero]
    · obtain ⟨r, hr⟩ := exists_start? (.inr hzero)
      simp [hr, hzero]

end Ramp

/-! ### Drives -/

/-- Once it has begun, no drive crashes. -/
theorem Drive.goOn_ne_crashed (load : Load) (events : List SessionEvent) (s : Steering) :
    (goOn load events s).outcome ≠ .error .crashed := by
  -- induction on the events: each of the ends of the loop has an outcome of its own
  induction events generalizing s with
  | nil =>
    unfold goOn
    split
    · nofun
    · split <;> nofun
  | cons e rest ih =>
    unfold goOn
    split
    · nofun
    · split
      · nofun
      · simp only
        split
        · nofun
        · exact ih _

/-- A drive crashes where the load has no ramp, before anything is done. -/
theorem drive_crashes_iff_start? {load : Load} {engine : Engine} {watch : Watch}
    {events : List SessionEvent} :
    ((drive load engine watch events).outcome = .error .crashed ↔ Ramp.start? load = none) ∧
      (Ramp.start? load = none → drive load engine watch events = ⟨[], .error .crashed⟩) := by
  cases hstart : Ramp.start? load with
  | none => simp [drive, hstart]
  | some ramp =>
    refine ⟨⟨fun hcrash => ?_, nofun⟩, nofun⟩
    rw [drive, hstart] at hcrash
    simp only at hcrash
    split at hcrash
    · cases hcrash
    · exact absurd hcrash (Drive.goOn_ne_crashed _ _ _)

namespace Settings

/-- Every rate that fits into its field is accepted. -/
theorem exists_parse?_of_connectRate (rate : Nat) (hle : rate ≤ greatestCount) :
    ∃ text c, parse? text = some c ∧ c.load.connectRate = rate := by
  -- the text is that of the default configuration with this rate
  let c : Settings := { load := { connectRate := rate } }
  have hproper : c.IsProper :=
    .of_other_eq_nil rfl (show ({} : Settings).load.connections ≤ greatestCount by decide) hle
  have hreads : Toml.ReadsBack c.entries :=
    readsBack_entries hproper rfl nofun nofun (by simp [c])
  have hcountable : Toml.Value.areEntriesCountable c.entries = true := by
    have hplain : (({} : Settings).plainEntries.all fun e => e.2.isCountable) = true := by decide
    have hload : c.load.toValue.isCountable = true := by
      simp [Load.toValue, Toml.Value.isCountable, Toml.Value.areEntriesCountable]
    rw [areEntriesCountable_eq_all, entries_eq_plain, List.all_append, List.all_cons, hload]
    exact Bool.and_eq_true_iff.mpr ⟨hplain, rfl⟩
  obtain ⟨other, hparse, -⟩ := parse?_of_readsBack hproper rfl hcountable hreads
  exact ⟨_, _, hparse, rfl⟩

/-- **The rates with which a drive crashes.** Let a configuration be accepted. Its rate is a number
of thirty-two bits, and if it is not zero, its period is the whole number of nanoseconds nearest to
the quotient of a second by it. Up to two thousand million connections a second this is at least one
nanosecond, and beyond it is none. So the drive, with whatever engine and under whatever events,
crashes if and only if the rate is beyond that, and then it has not done anything yet. -/
theorem drive_crashes_iff {text : String} {c : Settings} (hparse : parse? text = some c)
    (engine : Engine) (watch : Watch) (events : List SessionEvent) :
    let rate := c.load.connectRate
    let period := Ramp.period rate
    let driven := drive c.load engine watch events
    rate ≤ greatestCount ∧
      (0 < rate →
        2 * Ramp.nanosecondsPerSecond ≤ 2 * (period * rate) + rate ∧
          2 * (period * rate) ≤ 2 * Ramp.nanosecondsPerSecond + rate ∧
          (period = 0 ↔ 2000000000 < rate)) ∧
      (driven.outcome = .error .crashed ↔ 2000000000 < rate) ∧
      (2000000000 < rate → driven = ⟨[], .error .crashed⟩) := by
  intro rate period driven
  have hle : rate ≤ greatestCount := (proper_of_parse? hparse).1.connectRate
  refine ⟨hle, fun hpos => ?_, ?_⟩
  · obtain ⟨hlow, hhigh⟩ := Ramp.period_nearest hpos hle
    exact ⟨hlow, hhigh, Ramp.period_eq_zero_iff hpos hle⟩
  · rw [← Ramp.start?_eq_none_iff hle]
    exact drive_crashes_iff_start?

/-- Three thousand million connections a second are accepted, and the drive crashes; two thousand
million are accepted as well, and it does not. -/
theorem drive_crashes_threeThousandMillion :
    (∃ text c, parse? text = some c ∧ c.load.connectRate = 3000000000 ∧
      Ramp.period c.load.connectRate = 0 ∧
      drive c.load Sample.engine {} c.load.undisturbed = ⟨[], .error .crashed⟩) ∧
    ∃ text c, parse? text = some c ∧ c.load.connectRate = 2000000000 ∧
      Ramp.period c.load.connectRate ≠ 0 ∧
      (drive c.load Sample.engine {} c.load.undisturbed).outcome ≠ .error .crashed := by
  constructor
  · obtain ⟨text, c, hparse, hrate⟩ := exists_parse?_of_connectRate 3000000000 (by decide)
    obtain ⟨-, hperiod, -, hcrash⟩ :=
      drive_crashes_iff hparse Sample.engine {} c.load.undisturbed
    rw [hrate] at hperiod hcrash
    refine ⟨text, c, hparse, hrate, ?_, hcrash (by decide)⟩
    exact hrate ▸ (hperiod (by decide)).2.2.mpr (by decide)
  · obtain ⟨text, c, hparse, hrate⟩ := exists_parse?_of_connectRate 2000000000 (by decide)
    obtain ⟨-, hperiod, hcrash, -⟩ :=
      drive_crashes_iff hparse Sample.engine {} c.load.undisturbed
    rw [hrate] at hperiod hcrash
    refine ⟨text, c, hparse, hrate, ?_, mt hcrash.mp (by decide)⟩
    exact hrate ▸ mt (hperiod (by decide)).2.2.mp (by decide)

end Settings

end LoadGenerator
