import VideoPreview.Proofs.Painting

/-! Where the bands lie. The bands of the first `2 ^ 32` lines follow one another from the top down,
and rows beyond the last one there is are cut off. The number of a line counts modulo `2 ^ 32` only,
so with line `2 ^ 32` the bands begin at the top again. -/
namespace VideoPreview.BandRenderer

def lastRow : Nat := 2 ^ 32 - 1

def Covers (r : BandRenderer) (i y : Nat) : Prop :=
  (r.bandStart i).toNat ≤ y ∧ y < (r.bandStop i).toNat

variable {r : BandRenderer} {i j : Nat}

theorem heightGiven (r : BandRenderer) (rows : UInt32) :
    (r.withHeight rows).height.toNat = max rows.toNat 1 := by
  unfold withHeight
  split
  case isTrue none =>
    subst none
    rfl
  case isFalse some =>
    have positive : rows.toNat ≠ 0 := fun zero => some (UInt32.toNat_inj.mp zero)
    exact (Nat.max_eq_left (Nat.one_le_iff_ne_zero.mpr positive)).symm

theorem bandUpright (r : BandRenderer) (i : Nat) : r.bandStart i ≤ r.bandStop i := by
  rw [UInt32.le_iff_toNat_le, bandStartNat, bandStopNat, Nat.mul_succ]
  omega

theorem bandWraps (r : BandRenderer) (i : Nat) :
    r.bandStart i = r.bandStart (i % 2 ^ 32) ∧ r.bandStop i = r.bandStop (i % 2 ^ 32) := by
  constructor <;> apply UInt32.toNat_inj.mp
  · rw [bandStartNat, bandStartNat, Nat.mod_mod]
  · rw [bandStopNat, bandStopNat, Nat.mod_mod]

theorem bandAboveIff (tall : 0 < r.height.toNat) :
    r.bandStop i ≤ r.bandStart j ↔
      i % 2 ^ 32 < j % 2 ^ 32 ∨ lastRow ≤ r.height.toNat * (j % 2 ^ 32) := by
  rw [UInt32.le_iff_toNat_le, bandStopNat, bandStartNat, lastRow]
  rcases Nat.lt_or_ge (i % 2 ^ 32) (j % 2 ^ 32) with above | below
  · have order : r.height.toNat * (i % 2 ^ 32 + 1) ≤ r.height.toNat * (j % 2 ^ 32) :=
      Nat.mul_le_mul_left _ above
    simp only [above, true_or, iff_true]
    omega
  · have order : r.height.toNat * (j % 2 ^ 32) < r.height.toNat * (i % 2 ^ 32 + 1) :=
      Nat.mul_lt_mul_of_pos_left (Nat.lt_succ_of_le below) tall
    simp only [Nat.not_lt.mpr below, false_or]
    omega

theorem bandApart (tall : 0 < r.height.toNat) (above : i % 2 ^ 32 < j % 2 ^ 32) {y : Nat}
    (first : r.Covers i y) : ¬r.Covers j y := by
  have order := UInt32.le_iff_toNat_le.mp ((bandAboveIff tall).mpr (.inl above))
  exact fun second => Nat.lt_irrefl y (first.2.trans_le (order.trans second.1))

theorem bandCoversIff (tall : 0 < r.height.toNat) :
    (∃ y, r.Covers i y) ↔ r.height.toNat * (i % 2 ^ 32) < lastRow := by
  unfold Covers lastRow
  rw [bandStartNat, bandStopNat, Nat.mul_succ]
  refine ⟨fun ⟨y, begun, lasting⟩ => by omega, fun room => ?_⟩
  exact ⟨r.height.toNat * (i % 2 ^ 32), by omega, by omega⟩

structure Stacked (r : BandRenderer) (i j : Nat) : Prop where
  upright : r.bandStart i ≤ r.bandStop i
  cut : i < 2 ^ 32 → (r.bandStart i).toNat = min (r.height.toNat * i) lastRow ∧
    (r.bandStop i).toNat = min (r.height.toNat * (i + 1)) lastRow
  wraps : r.bandStart i = r.bandStart (i % 2 ^ 32) ∧ r.bandStop i = r.bandStop (i % 2 ^ 32)
  above : r.bandStop i ≤ r.bandStart j ↔
    i % 2 ^ 32 < j % 2 ^ 32 ∨ lastRow ≤ r.height.toNat * (j % 2 ^ 32)
  shared : (∃ y, r.Covers i y ∧ r.Covers j y) ↔
    i % 2 ^ 32 = j % 2 ^ 32 ∧ r.height.toNat * (i % 2 ^ 32) < lastRow

theorem bandsStacked (r : BandRenderer) (rows : UInt32) (i j : Nat) :
    (r.withHeight rows).height.toNat = max rows.toNat 1 ∧ (r.withHeight rows).Stacked i j := by
  have height := heightGiven r rows
  have tall : 0 < (r.withHeight rows).height.toNat := by omega
  generalize r.withHeight rows = r at height tall
  refine ⟨height, bandUpright r i, fun low => ?_, bandWraps r i, bandAboveIff tall, ?_⟩
  · rw [bandStartNat, bandStopNat, Nat.mod_eq_of_lt low]
    exact ⟨rfl, rfl⟩
  · constructor
    · rintro ⟨y, first, second⟩
      refine ⟨?_, (bandCoversIff tall).mp ⟨y, first⟩⟩
      rcases Nat.lt_trichotomy (i % 2 ^ 32) (j % 2 ^ 32) with above | same | below
      · exact absurd second (bandApart tall above first)
      · exact same
      · exact absurd first (bandApart tall below second)
    · rintro ⟨same, room⟩
      obtain ⟨y, covered⟩ := (bandCoversIff tall).mpr room
      refine ⟨y, covered, ?_⟩
      rw [Covers, (bandWraps r j).1, (bandWraps r j).2, ← same, ← (bandWraps r i).1,
        ← (bandWraps r i).2]
      exact covered

theorem bandsBeginAgain :
    ¬ (default.withHeight 2).bandStop 0 ≤ (default.withHeight 2).bandStart (2 ^ 32) ∧
      (default.withHeight 2).Covers 0 1 ∧ (default.withHeight 2).Covers (2 ^ 32) 1 := by
  unfold Covers
  decide

end VideoPreview.BandRenderer
