import Mathlib.Algebra.BigOperators.Group.List.Basic
import Mathlib.Tactic.Ring
import VideoPreview.Pool

/-! A well-formed picture fills a buffer of its own size, so that nothing which was in the buffer
before survives the copy. -/
namespace VideoPreview.Picture

theorem storedRowLess {p : Picture} {y : Nat} (inside : y < p.height.toNat) :
    p.storedRow y < p.height.toNat := by
  unfold storedRow
  split <;> omega

theorem wellFormedBounds {p : Picture} (ok : p.isWellFormed = true) :
    p.rowBytes ≤ p.stride ∧ p.stride * p.height.toNat ≤ p.data.size := by
  simpa [isWellFormed] using ok

theorem rowInside {p : Picture} (ok : p.isWellFormed = true) {y : Nat}
    (inside : y < p.height.toNat) : p.storedRow y * p.stride + p.rowBytes ≤ p.data.size := by
  obtain ⟨wide, long⟩ := wellFormedBounds ok
  have stored := storedRowLess (p := p) inside
  have last : (p.storedRow y + 1) * p.stride ≤ p.data.size := by
    calc (p.storedRow y + 1) * p.stride
        ≤ p.height.toNat * p.stride := Nat.mul_le_mul_right _ stored
      _ = p.stride * p.height.toNat := Nat.mul_comm _ _
      _ ≤ p.data.size := long
  rw [Nat.add_mul, Nat.one_mul] at last
  omega

theorem rowSize {p : Picture} (ok : p.isWellFormed = true) {y : Nat}
    (inside : y < p.height.toNat) : (p.row y).size = p.rowBytes := by
  have last := rowInside ok inside
  simp only [row, Array.size_extract]
  omega

theorem packedSize {p : Picture} (ok : p.isWellFormed = true) :
    p.packed.size = (⟨p.width, p.height⟩ : PictureSize).bytes := by
  have rows : ∀ y ∈ List.range p.height.toNat, (p.row y).size = p.rowBytes := by
    intro y member
    exact rowSize ok (List.mem_range.mp member)
  simp only [packed, Array.size_flatMap, Array.toList_range, ← Array.sum_toList, Array.toList_map]
  rw [List.map_congr_left rows]
  simp [rowBytes, PictureSize.bytes]
  ring

theorem copyIntoFull {p : Picture} (ok : p.isWellFormed = true) {target : Pixels}
    (fits : target.size = (⟨p.width, p.height⟩ : PictureSize).bytes) :
    p.copyInto target = p.packed := by
  have same : target.size = p.packed.size := fits.trans (packedSize ok).symm
  simp [copyInto, ← same]

end VideoPreview.Picture
