import VideoPreview.Pool

/-! What a pool has parked is fit to be handed out: every buffer is as long as its size asks for,
whatever was given back to the pool. -/
namespace VideoPreview

def Buffer.Fits (b : Buffer) : Prop := b.data.size = b.size.bytes

namespace Pool

def Fits (p : Pool) : Prop := ∀ b ∈ p.parked, b.Fits

theorem emptyFits (options : PoolOptions) : (empty options).Fits := by
  intro b member
  cases member

theorem borrowFits {p : Pool} (fits : p.Fits) (size : PictureSize) :
    (p.borrow size).1.Fits ∧ (p.borrow size).2.Fits ∧ (p.borrow size).2.size = size := by
  unfold borrow
  cases found : p.parked.find? (·.size = size) with
  | none => exact ⟨fits, by simp [Buffer.Fits], rfl⟩
  | some b =>
    refine ⟨?_, fits b (List.mem_of_find?_eq_some found), by simpa using List.find?_some found⟩
    intro c member
    exact fits c (List.mem_of_mem_eraseP member)

theorem releaseFits {p : Pool} (fits : p.Fits) (b : Buffer) : (p.release b).Fits := by
  unfold release
  split
  case isFalse => exact fits
  case isTrue parks =>
    intro c member
    rcases List.mem_cons.mp member with rfl | earlier
    · simp only [canPark, Bool.and_eq_true, decide_eq_true_eq] at parks
      exact parks.1.1
    · exact fits c earlier

end Pool
end VideoPreview
