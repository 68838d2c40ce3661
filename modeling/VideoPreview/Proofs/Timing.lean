import VideoPreview.FrameRate

/-! When frames start, at a valid rate. A frame has started by a time exactly if it does not come
before the first frame from that time on, wherever the numbers are cut off. -/
namespace VideoPreview

theorem timeOfNatInt (ms : Nat) : (timeOfNat ms).toInt = min (ms : Int) maxTime := by
  have largest : maxTime = 2 ^ 63 - 1 := by decide
  unfold timeOfNat
  rw [Int64.toInt_ofNat_of_lt (by omega)]
  omega

theorem frameOfNatNat (n : Nat) : (frameOfNat n).toNat = min n maxFrame := by
  unfold frameOfNat
  refine UInt64.toNat_ofNat_of_lt' ?_
  have largest : maxFrame = UInt64.size - 1 := rfl
  have : 0 < UInt64.size := by decide
  omega

namespace FrameRate

variable {r : FrameRate}

theorem validTerms (valid : r.isValid = true) : 0 < r.num.toNat ∧ 0 < r.period := by
  simp only [isValid, Bool.and_eq_true, bne_iff_ne, ne_eq, ← UInt32.toNat_inj] at valid
  obtain ⟨num, den⟩ := valid
  exact ⟨Nat.pos_of_ne_zero num, Nat.mul_pos (by decide) (Nat.pos_of_ne_zero den)⟩

def uncutFrom (r : FrameRate) (ms : Int64) : Nat :=
  (ms.toInt.toNat * r.num.toNat + r.period - 1) / r.period

theorem firstFrameNat (r : FrameRate) (ms : Int64) :
    (r.firstFrameFrom ms).toNat = min (r.uncutFrom ms) maxFrame := frameOfNatNat _

theorem uncutLe (valid : r.isValid = true) (ms : Int64) (n : Nat) :
    r.uncutFrom ms ≤ n ↔ ms.toInt.toNat * r.num.toNat ≤ n * r.period := by
  obtain ⟨-, period⟩ := validTerms valid
  rw [uncutFrom, Nat.div_le_iff_le_mul_add_pred period, Nat.mul_comm r.period n]
  omega

theorem startsFrom (valid : r.isValid = true) (ms : Int64) (f : UInt64) :
    ms ≤ r.timeOfFrame f ↔ r.uncutFrom ms ≤ f.toNat := by
  obtain ⟨num, -⟩ := validTerms valid
  have latest : ms.toInt ≤ maxTime := ms.toInt_le
  have reached : ms.toInt.toNat ≤ f.toNat * r.period / r.num.toNat ↔
      ms.toInt.toNat * r.num.toNat ≤ f.toNat * r.period := Nat.le_div_iff_mul_le num
  rw [Int64.le_iff_toInt_le, timeOfFrame, timeOfNatInt, uncutLe valid, ← reached]
  generalize f.toNat * r.period / r.num.toNat = start
  omega

theorem timeMonotone (valid : r.isValid = true) {f g : UInt64} (order : f ≤ g) :
    r.timeOfFrame f ≤ r.timeOfFrame g := by
  rw [startsFrom valid]
  exact Nat.le_trans ((startsFrom valid _ f).mp (Int64.le_refl _)) (UInt64.le_iff_toNat_le.mp order)

end FrameRate
end VideoPreview
