import Mathlib.Algebra.Order.Floor.Semifield
import Mathlib.Data.Rat.Floor
import VideoPreview.Proofs.Timing

/-! Frame numbers and times as fractions of each other. The conversions round these fractions and
cut them off at the largest number there is. Rounded up, a time gives the first frame that starts
then or later, and rounded down the last that has started, so that both are adjoint to the start of
a frame. A frame that lasts at least a millisecond is found again from the time it starts. -/
namespace VideoPreview

theorem frameOfNatToNat (f : UInt64) : frameOfNat f.toNat = f := by
  have largest : maxFrame = 2 ^ 64 - 1 := by decide
  have below := f.toNat_lt
  refine UInt64.toNat_inj.mp ?_
  rw [frameOfNatNat]
  omega

namespace FrameRate

variable {r : FrameRate}

theorem toNatEarly {ms : Int64} (early : ms ≤ 0) : ms.toInt.toNat = 0 := by
  rw [Int64.le_iff_toInt_le, Int64.toInt_zero] at early
  omega

theorem ceilDivided (n : Nat) {d : Nat} (pos : 0 < d) :
    (n + d - 1) / d = n / d + if n % d = 0 then 0 else 1 := by
  have whole := Nat.div_add_mod' n d
  have less := Nat.mod_lt n pos
  split <;> refine Nat.div_eq_of_lt_le ?_ ?_ <;> simp only [Nat.add_mul] <;> omega

def wide? (n : Nat) : Option Nat := if n < 2 ^ 128 then some n else none

def timeOfFrame? (r : FrameRate) (f : UInt64) : Option Int64 := do
  let thousands ← wide? (f.toNat * 1000)
  let scaled ← wide? (thousands * r.den.toNat)
  some (timeOfNat (scaled / r.num.toNat))

def frameAt? (r : FrameRate) (ms : Int64) : Option UInt64 :=
  if ms ≤ 0 then some 0
  else do
    let scaled ← wide? (ms.toInt.toNat * r.num.toNat)
    let period ← wide? (1000 * r.den.toNat)
    some (frameOfNat (scaled / period))

def firstFrameFrom? (r : FrameRate) (ms : Int64) : Option UInt64 :=
  if ms ≤ 0 || !r.isValid then some 0
  else do
    let scaled ← wide? (ms.toInt.toNat * r.num.toNat)
    let period ← wide? (1000 * r.den.toNat)
    let up ← wide? (scaled / period + if scaled % period = 0 then 0 else 1)
    some (frameOfNat up)

structure Computed (r : FrameRate) (f : UInt64) (ms : Int64) : Prop where
  time : r.timeOfFrame? f = some (r.timeOfFrame f)
  frame : r.frameAt? ms = some (r.frameAt ms)
  first : r.firstFrameFrom? ms = some (r.firstFrameFrom ms)

theorem wideFits {n : Nat} (small : n < 2 ^ 128) : wide? n = some n := if_pos small

theorem frameScaledWide (r : FrameRate) (f : UInt64) :
    f.toNat * 1000 < 2 ^ 128 ∧ f.toNat * 1000 * r.den.toNat < 2 ^ 128 := by
  have frame := f.toNat_lt
  have den := r.den.toNat_lt
  have scaled : f.toNat * 1000 * r.den.toNat ≤ 2 ^ 64 * 1000 * 2 ^ 32 :=
    Nat.mul_le_mul (by omega) den.le
  omega

theorem timeScaledWide (r : FrameRate) (ms : Int64) :
    ms.toInt.toNat * r.num.toNat + 1 < 2 ^ 128 ∧ 1000 * r.den.toNat < 2 ^ 128 := by
  have time := ms.toInt_lt
  have num := r.num.toNat_lt
  have den := r.den.toNat_lt
  have scaled : ms.toInt.toNat * r.num.toNat ≤ 2 ^ 63 * 2 ^ 32 :=
    Nat.mul_le_mul (by omega) num.le
  omega

theorem firstOfNone {ms : Int64} (none : ms ≤ 0 ∨ r.isValid = false) : r.firstFrameFrom ms = 0 := by
  have empty : ms.toInt.toNat * r.num.toNat = 0 ∨ r.period = 0 := by
    rcases none with early | invalid
    · exact .inl (by rw [toNatEarly early, Nat.zero_mul])
    · simp only [isValid, Bool.and_eq_false_iff, bne_eq_false_iff_eq] at invalid
      rcases invalid with num | den
      · exact .inl (by simp [num])
      · exact .inr (by simp [period, den])
  rcases empty with start | still
  · rw [firstFrameFrom, start, Nat.zero_add, Nat.div_eq_zero_iff.mpr (by omega)]
    rfl
  · rw [firstFrameFrom, still, Nat.div_zero]
    rfl

theorem computed (r : FrameRate) (f : UInt64) (ms : Int64) : r.Computed f ms := by
  obtain ⟨thousands, frame⟩ := r.frameScaledWide f
  obtain ⟨next, period⟩ := r.timeScaledWide ms
  have time : ms.toInt.toNat * r.num.toNat < 2 ^ 128 := Nat.lt_of_succ_lt next
  refine ⟨?_, ?_, ?_⟩
  · simp only [timeOfFrame?, Option.bind_eq_bind, wideFits thousands, Option.bind_some,
      wideFits frame]
    rw [Nat.mul_assoc]
    rfl
  · unfold frameAt?
    split
    · rename_i early
      simp [frameAt, toNatEarly early, frameOfNat]
    · simp only [Option.bind_eq_bind, wideFits time, wideFits period, Option.bind_some]
      rfl
  · unfold firstFrameFrom?
    split
    · rename_i none
      rw [firstOfNone (by simpa using none)]
    · rename_i late
      simp only [Bool.or_eq_true, Bool.not_eq_true', not_or, Bool.not_eq_false] at late
      obtain ⟨-, positive⟩ := validTerms late.2
      have up : ms.toInt.toNat * r.num.toNat / (1000 * r.den.toNat) +
          (if ms.toInt.toNat * r.num.toNat % (1000 * r.den.toNat) = 0 then 0 else 1) < 2 ^ 128 := by
        have shorter := Nat.div_le_self (ms.toInt.toNat * r.num.toNat) (1000 * r.den.toNat)
        split <;> omega
      simp only [Option.bind_eq_bind, wideFits time, wideFits period, Option.bind_some,
        wideFits up, firstFrameFrom, ceilDivided _ positive]
      rfl

def frameExactly (r : FrameRate) (ms : Int64) : ℚ := ms.toInt * r.num.toNat / r.period

/-- Frame `f` and the time `ms`, between which the conversions are adjoint. Where the first frame
is one that no number is left for, every frame starts too early. -/
structure Adjoint (r : FrameRate) (f : UInt64) (ms : Int64) : Prop where
  starts : ⌈r.frameExactly ms⌉₊ ≤ maxFrame → (ms ≤ r.timeOfFrame f ↔ r.firstFrameFrom ms ≤ f)
  early : maxFrame < ⌈r.frameExactly ms⌉₊ →
    (r.firstFrameFrom ms).toNat = maxFrame ∧ r.timeOfFrame f < ms
  started : ⌊r.frameExactly ms⌋₊ ≤ maxFrame →
    (f ≤ r.frameAt ms ↔ r.period * f.toNat ≤ ms.toInt * r.num.toNat)
  last : maxFrame < ⌊r.frameExactly ms⌋₊ → (r.frameAt ms).toNat = maxFrame
  order : r.frameAt ms ≤ r.firstFrameFrom ms
  near : (r.firstFrameFrom ms).toNat ≤ (r.frameAt ms).toNat + 1

structure Increasing (r : FrameRate) : Prop where
  time : ∀ f g : UInt64, f ≤ g → r.timeOfFrame f ≤ r.timeOfFrame g
  frame : ∀ a b : Int64, a ≤ b → r.frameAt a ≤ r.frameAt b
  first : ∀ a b : Int64, a ≤ b → r.firstFrameFrom a ≤ r.firstFrameFrom b

def uncutAt (r : FrameRate) (ms : Int64) : Nat := ms.toInt.toNat * r.num.toNat / r.period

theorem frameAtNat (r : FrameRate) (ms : Int64) :
    (r.frameAt ms).toNat = min (r.uncutAt ms) maxFrame := frameOfNatNat _

theorem leUncutAt (valid : r.isValid = true) (ms : Int64) (n : Nat) :
    n ≤ r.uncutAt ms ↔ n * r.period ≤ ms.toInt.toNat * r.num.toNat :=
  Nat.le_div_iff_mul_le (validTerms valid).2

theorem uncutNear (valid : r.isValid = true) (ms : Int64) :
    r.uncutAt ms ≤ r.uncutFrom ms ∧ r.uncutFrom ms ≤ r.uncutAt ms + 1 := by
  rw [uncutFrom, ceilDivided _ (validTerms valid).2, uncutAt]
  split <;> omega

theorem exactlyDivided {ms : Int64} (positive : 0 < ms) :
    r.frameExactly ms = ((ms.toInt.toNat * r.num.toNat : ℕ) : ℚ) / (r.period : ℕ) := by
  rw [Int64.lt_iff_toInt_lt, Int64.toInt_zero] at positive
  have time : ((ms.toInt.toNat : ℤ) : ℚ) = ms.toInt := by rw [Int.toNat_of_nonneg positive.le]
  rw [frameExactly, ← time]
  push_cast
  rfl

theorem floorExactly {ms : Int64} (positive : 0 < ms) : ⌊r.frameExactly ms⌋₊ = r.uncutAt ms := by
  rw [exactlyDivided positive, Nat.floor_div_eq_div]
  rfl

theorem ceilExactly (valid : r.isValid = true) {ms : Int64} (positive : 0 < ms) :
    ⌈r.frameExactly ms⌉₊ = r.uncutFrom ms := by
  refine eq_of_forall_ge_iff fun n => ?_
  have period : (0 : ℚ) < r.period := by exact_mod_cast (validTerms valid).2
  rw [Nat.ceil_le, exactlyDivided positive, div_le_iff₀ period, uncutLe valid]
  exact_mod_cast Iff.rfl

theorem adjoint (valid : r.isValid = true) (f : UInt64) {ms : Int64} (positive : 0 < ms) :
    r.Adjoint f ms := by
  have largest : maxFrame = 2 ^ 64 - 1 := by decide
  have numbered := f.toNat_lt
  have first := r.firstFrameNat ms
  have shown := r.frameAtNat ms
  obtain ⟨above, within⟩ := uncutNear valid ms
  refine ⟨fun fits => ?_, fun beyond => ?_, fun fits => ?_, fun beyond => ?_, ?_, ?_⟩
  · rw [ceilExactly valid positive] at fits
    rw [startsFrom valid, UInt64.le_iff_toNat_le]
    omega
  · rw [ceilExactly valid positive] at beyond
    rw [← Int64.not_le, startsFrom valid]
    omega
  · rw [floorExactly positive] at fits
    have started := leUncutAt valid ms f.toNat
    rw [Int64.lt_iff_toInt_lt, Int64.toInt_zero] at positive
    have time : (ms.toInt.toNat : Int) = ms.toInt := Int.toNat_of_nonneg positive.le
    rw [UInt64.le_iff_toNat_le, shown, Nat.min_eq_left fits, started, ← time, Nat.mul_comm]
    norm_cast
  · rw [floorExactly positive] at beyond
    omega
  · rw [UInt64.le_iff_toNat_le]
    omega
  · omega

theorem scaledIncreasing (r : FrameRate) {a b : Int64} (order : a ≤ b) :
    a.toInt.toNat * r.num.toNat ≤ b.toInt.toNat * r.num.toNat := by
  rw [Int64.le_iff_toInt_le] at order
  exact Nat.mul_le_mul_right _ (by omega)

theorem increasing (valid : r.isValid = true) : r.Increasing := by
  refine ⟨fun f g => timeMonotone valid, fun a b order => ?_, fun a b order => ?_⟩
  · have upTo : r.uncutAt a ≤ r.uncutAt b := Nat.div_le_div_right (r.scaledIncreasing order)
    rw [UInt64.le_iff_toNat_le, frameAtNat, frameAtNat]
    omega
  · have upTo : r.uncutFrom a ≤ r.uncutFrom b := by
      rw [uncutLe valid]
      exact (r.scaledIncreasing order).trans ((uncutLe valid b _).mp (Nat.le_refl _))
    rw [UInt64.le_iff_toNat_le, firstFrameNat, firstFrameNat]
    omega

theorem conversionsAdjoint (valid : r.isValid = true) :
    (∀ f ms, 0 < ms → r.Adjoint f ms) ∧ (∀ f ms, r.Computed f ms) ∧ r.Increasing :=
  ⟨fun f _ positive => adjoint valid f positive, r.computed, increasing valid⟩

theorem conversionsAdjointAtTheEnd :
    let film : FrameRate := ⟨24000, 1001⟩
    let fastest : FrameRate := ⟨4294967295, 1⟩
    (film.isValid = true ∧ ∀ f, 1001 ≤ film.timeOfFrame f ↔ 24 ≤ f) ∧
      fastest.isValid = true ∧ (fastest.firstFrameFrom Int64.maxValue).toNat = maxFrame ∧
      ∀ f, fastest.timeOfFrame f < Int64.maxValue := by
  intro film fastest
  have within : ⌈film.frameExactly 1001⌉₊ ≤ maxFrame := by
    rw [ceilExactly (by decide) (by decide)]
    decide
  have beyond : maxFrame < ⌈fastest.frameExactly Int64.maxValue⌉₊ := by
    rw [ceilExactly (by decide) (by decide)]
    decide
  obtain ⟨film', -⟩ := conversionsAdjoint (r := film) (by decide)
  obtain ⟨fastest', -⟩ := conversionsAdjoint (r := fastest) (by decide)
  have none (f : UInt64) := (fastest' f Int64.maxValue (by decide)).early beyond
  have first : film.firstFrameFrom 1001 = 24 := by decide
  refine ⟨⟨by decide, fun f => ?_⟩, by decide, (none 0).1, fun f => (none f).2⟩
  rw [(film' f 1001 (by decide)).starts within, first]

def startExactly (r : FrameRate) (f : UInt64) : ℚ := r.period * f.toNat / r.num.toNat

structure Returns (r : FrameRate) (f : UInt64) : Prop where
  first : r.firstFrameFrom (r.timeOfFrame f) = f
  shown : r.frameAt (r.timeOfFrame f) = if r.num.toNat ∣ r.period * f.toNat then f else f - 1
  after : r.num.toNat < r.period → r.timeOfFrame f < Int64.maxValue →
    r.frameAt (r.timeOfFrame f + 1) = f

theorem frameAtOf (valid : r.isValid = true) {ms : Int64} {f : UInt64}
    (started : ∀ n, n * r.period ≤ ms.toInt.toNat * r.num.toNat ↔ n ≤ f.toNat) :
    r.frameAt ms = f := by
  have uncut : r.uncutAt ms = f.toNat :=
    eq_of_forall_le_iff fun n => (leUncutAt valid ms n).trans (started n)
  calc r.frameAt ms = frameOfNat (r.uncutAt ms) := rfl
    _ = f := by rw [uncut, frameOfNatToNat]

theorem firstFrameOf (valid : r.isValid = true) {ms : Int64} {f : UInt64}
    (late : ∀ n, ms.toInt.toNat * r.num.toNat ≤ n * r.period ↔ f.toNat ≤ n) :
    r.firstFrameFrom ms = f := by
  have uncut : r.uncutFrom ms = f.toNat :=
    eq_of_forall_ge_iff fun n => (uncutLe valid ms n).trans (late n)
  calc r.firstFrameFrom ms = frameOfNat (r.uncutFrom ms) := rfl
    _ = f := by rw [uncut, frameOfNatToNat]

theorem timeNotNegative (r : FrameRate) (f : UInt64) : 0 ≤ (r.timeOfFrame f).toInt := by
  rw [timeOfFrame, timeOfNatInt]
  exact le_min (Int.natCast_nonneg _) (Int.natCast_nonneg _)

theorem nextTime {t : Int64} (started : 0 ≤ t.toInt) (short : t < Int64.maxValue) :
    (t + 1).toInt.toNat = t.toInt.toNat + 1 := by
  have room : t.toInt < 2 ^ 63 - 1 := Int64.lt_iff_toInt_lt.mp short
  rw [Int64.toInt_add, Int64.toInt_one, Int.bmod_eq_of_le (by omega) (by omega)]
  omega

theorem startExactlyLe (valid : r.isValid = true) (f : UInt64) (ms : Nat) :
    r.startExactly f ≤ ms ↔ r.period * f.toNat ≤ ms * r.num.toNat := by
  have num : (0 : ℚ) < r.num.toNat := by exact_mod_cast (validTerms valid).1
  rw [startExactly, div_le_iff₀ num]
  exact_mod_cast Iff.rfl

def Told (r : FrameRate) (f : UInt64) (t : Nat) : Prop :=
  t * r.num.toNat ≤ f.toNat * r.period ∧ f.toNat * r.period < t * r.num.toNat + r.num.toNat

theorem told (valid : r.isValid = true) {f : UInt64} (short : r.startExactly f ≤ maxTime) :
    r.Told f (r.timeOfFrame f).toInt.toNat := by
  obtain ⟨num, -⟩ := validTerms valid
  have small : f.toNat * r.period / r.num.toNat ≤ maxTime := by
    refine Nat.div_le_of_le_mul ?_
    rw [Nat.mul_comm f.toNat, Nat.mul_comm r.num.toNat]
    exact (startExactlyLe valid f maxTime).mp short
  have time : (r.timeOfFrame f).toInt.toNat = f.toNat * r.period / r.num.toNat := by
    rw [timeOfFrame, timeOfNatInt, min_eq_left (by exact_mod_cast small), Int.toNat_natCast]
  rw [Told, time, ← Nat.succ_mul]
  exact ⟨Nat.div_mul_le_self .., Nat.lt_mul_of_div_lt (Nat.lt_succ_self _) num⟩

theorem notAbove {m n : Nat} (less : m * r.period < n * r.period + r.period) : m ≤ n :=
  Nat.le_of_lt_succ (Nat.lt_of_mul_lt_mul_right (a := r.period) (by rwa [Nat.succ_mul]))

variable {f : UInt64}

theorem firstAgain (valid : r.isValid = true) (slow : r.num.toNat ≤ r.period)
    (told : r.Told f (r.timeOfFrame f).toInt.toNat) : r.firstFrameFrom (r.timeOfFrame f) = f := by
  obtain ⟨below, above⟩ := told
  refine firstFrameOf valid fun n => ⟨fun upTo => notAbove (r := r) (by omega), fun upTo => ?_⟩
  exact below.trans (Nat.mul_le_mul_right _ upTo)

theorem shownAgain (valid : r.isValid = true) (told : r.Told f (r.timeOfFrame f).toInt.toNat)
    (exact : r.num.toNat ∣ r.period * f.toNat) : r.frameAt (r.timeOfFrame f) = f := by
  obtain ⟨below, above⟩ := told
  rw [Nat.mul_comm] at exact
  have rest := Nat.eq_zero_of_dvd_of_lt (Nat.dvd_sub exact (Nat.dvd_mul_left r.num.toNat
    (r.timeOfFrame f).toInt.toNat)) (by omega)
  have same : (r.timeOfFrame f).toInt.toNat * r.num.toNat = f.toNat * r.period := by omega
  refine frameAtOf valid fun n => ?_
  rw [same, Nat.mul_le_mul_right_iff (validTerms valid).2]

theorem shownBefore (valid : r.isValid = true) (slow : r.num.toNat ≤ r.period)
    (told : r.Told f (r.timeOfFrame f).toInt.toNat)
    (between : ¬r.num.toNat ∣ r.period * f.toNat) : r.frameAt (r.timeOfFrame f) = f - 1 := by
  obtain ⟨below, above⟩ := told
  rw [Nat.mul_comm] at between
  have strictly : (r.timeOfFrame f).toInt.toNat * r.num.toNat ≠ f.toNat * r.period :=
    fun same => between (same ▸ Nat.dvd_mul_left ..)
  have later : 1 ≤ f.toNat := Nat.pos_of_ne_zero fun first => between (by simp [first])
  have before : (f - 1).toNat + 1 = f.toNat := by
    rw [UInt64.toNat_sub_of_le f 1 (UInt64.le_iff_toNat_le.mpr later)]
    exact Nat.sub_add_cancel later
  have step : f.toNat * r.period = (f - 1).toNat * r.period + r.period := by
    rw [← before, Nat.succ_mul]
  refine frameAtOf valid fun n => ⟨fun upTo => notAbove (r := r) (by omega), fun upTo => ?_⟩
  have := Nat.mul_le_mul_right r.period upTo
  omega

theorem shownAfter (valid : r.isValid = true) (slower : r.num.toNat < r.period)
    (told : r.Told f (r.timeOfFrame f).toInt.toNat) (early : r.timeOfFrame f < Int64.maxValue) :
    r.frameAt (r.timeOfFrame f + 1) = f := by
  obtain ⟨below, above⟩ := told
  refine frameAtOf valid fun n => ?_
  rw [nextTime (r.timeNotNegative f) early, Nat.succ_mul]
  exact ⟨fun upTo => notAbove (r := r) (by omega),
    fun upTo => (Nat.mul_le_mul_right _ upTo).trans above.le⟩

theorem returns (valid : r.isValid = true) (slow : r.num.toNat ≤ r.period)
    (short : r.startExactly f ≤ maxTime) : r.Returns f := by
  have told := told valid short
  refine ⟨firstAgain valid slow told, ?_, fun slower => shownAfter valid slower told⟩
  split
  · exact shownAgain valid told ‹_›
  · exact shownBefore valid slow told ‹_›

theorem startExactlyIncreasing (r : FrameRate) {f g : UInt64} (order : f ≤ g) :
    r.startExactly f ≤ r.startExactly g := by
  have order : (f.toNat : ℚ) ≤ g.toNat := by exact_mod_cast UInt64.le_iff_toNat_le.mp order
  unfold startExactly
  gcongr

theorem framesReturn (valid : r.isValid = true) (slow : r.num.toNat ≤ r.period) :
    (∀ f, r.startExactly f ≤ maxTime → r.Returns f) ∧
      ∀ f g, f < g → r.startExactly g ≤ maxTime → r.timeOfFrame f < r.timeOfFrame g := by
  refine ⟨fun f short => returns valid slow short, fun f g order short => ?_⟩
  have upTo := r.startExactlyIncreasing (UInt64.le_of_lt order)
  have again := (returns valid slow short).first
  refine Int64.lt_of_le_of_ne (timeMonotone valid (UInt64.le_of_lt order)) fun same => ?_
  rw [← same, (returns valid slow (upTo.trans short)).first] at again
  exact UInt64.ne_of_lt order again

theorem framesReturnBetween :
    let film : FrameRate := ⟨24000, 1001⟩
    film.isValid = true ∧ film.num.toNat ≤ film.period ∧ film.startExactly 2 ≤ maxTime ∧
      film.firstFrameFrom 41 = 1 ∧ film.frameAt 41 = 0 ∧ film.frameAt 42 = 1 ∧
      film.timeOfFrame 1 < film.timeOfFrame 2 := by
  intro film
  have valid : film.isValid = true := by decide
  have slow : film.num.toNat ≤ film.period := by decide
  have second : film.startExactly 2 ≤ maxTime := by
    rw [startExactlyLe valid]
    decide
  have short := (film.startExactlyIncreasing (f := 1) (by decide)).trans second
  have time : film.timeOfFrame 1 = 41 := by decide
  obtain ⟨returned, rises⟩ := framesReturn valid slow
  obtain ⟨first, shown, after⟩ := returned 1 short
  have between : ¬film.num.toNat ∣ film.period * (1 : UInt64).toNat := by decide
  rw [time] at first shown after
  rw [if_neg between] at shown
  exact ⟨valid, slow, second, first, shown, after (by decide) (by decide),
    rises 1 2 (by decide) second⟩

end FrameRate
end VideoPreview
