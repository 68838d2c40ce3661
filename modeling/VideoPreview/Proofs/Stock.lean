import Mathlib.Algebra.GroupWithZero.Nat
import Mathlib.Data.List.Induction
import VideoPreview.Proofs.Parking
import VideoPreview.Proofs.Run

/-! The stock of a pool. What it counts is what it has parked, within both limits, after any
sequence of borrowing and giving back; whoever borrows and gives back may ask for any size and give
back any buffer, also one that never came from the pool. -/
namespace VideoPreview.Pool

inductive Use where
  | borrow (size : PictureSize)
  | release (b : Buffer)
  deriving DecidableEq, Repr

def use (p : Pool) : Use → Pool
  | .borrow size => (p.borrow size).1
  | .release b => p.release b

def Use.borrows : Use → Bool
  | borrow _ => true
  | release _ => false

def Use.releases (u : Use) : Bool := !u.borrows

def run (options : PoolOptions) (uses : List Use) : Pool := play use (.empty options) uses

theorem runSnoc (options : PoolOptions) (uses : List Use) (u : Use) :
    run options (uses ++ [u]) = (run options uses).use u := playSnoc ..

theorem borrowParked {p : Pool} {size : PictureSize} {b : Buffer} {rest : List Buffer}
    (kept : p.bucket size = b :: rest) :
    p.borrow size = (p.unpark size, b) ∧ b.size = size ∧
      ∃ before after, p.parked = before ++ b :: after ∧ (∀ c ∈ before, c.size ≠ size) ∧
        (p.unpark size).parked = before ++ after := by
  have found : p.parked.find? (·.size = size) = some b := by
    rw [← List.head?_filter]
    exact congrArg List.head? kept
  obtain ⟨same, before, after, split, others⟩ := List.find?_eq_some_iff_append.mp found
  have apart : ∀ c ∈ before, c.size ≠ size := by simpa using others
  refine ⟨by simp [borrow, found], by simpa using same, before, after, split, apart, ?_⟩
  rw [unpark, split, List.eraseP_append_right _ (by simpa using apart)]
  simp [same]

theorem borrowFresh {p : Pool} {size : PictureSize} (none : p.bucket size = []) :
    p.borrow size = (p.allocate size, ⟨size, Array.replicate size.bytes 0⟩) := by
  have missing : p.parked.find? (·.size = size) = .none := by
    rw [← List.head?_filter]
    exact congrArg List.head? none
  simp [borrow, missing]

theorem canParkIff (p : Pool) (b : Buffer) : p.canPark b = true ↔
    b.Fits ∧ (p.bucket b.size).length + 1 ≤ p.options.maxPerSize.toNat ∧
      p.stats.parkedBytes + b.size.bytes ≤ p.options.maxBytes.toNat := by
  simp only [canPark, Bool.and_eq_true, decide_eq_true_eq, Buffer.Fits, Nat.lt_iff_add_one_le,
    and_assoc]

def parkedSize (p : Pool) : Nat := (p.parked.map (·.size.bytes)).sum

structure Sound (p : Pool) : Prop where
  buffers : p.stats.parkedBuffers = p.parked.length
  bytes : p.stats.parkedBytes = p.parkedSize
  fits : p.Fits
  perSize : ∀ size, (p.bucket size).length ≤ p.options.maxPerSize.toNat
  within : p.stats.parkedBytes ≤ p.options.maxBytes.toNat

theorem emptySound (options : PoolOptions) : (empty options).Sound :=
  ⟨rfl, rfl, emptyFits options, fun _ => Nat.zero_le _, Nat.zero_le _⟩

theorem Sound.counted {p : Pool} (sound : p.Sound) {size : PictureSize} {b : Buffer}
    {rest : List Buffer} (kept : p.bucket size = b :: rest) :
    1 ≤ p.stats.parkedBuffers ∧ size.bytes ≤ p.stats.parkedBytes := by
  obtain ⟨-, same, before, after, split, -⟩ := borrowParked kept
  rw [sound.buffers, sound.bytes, parkedSize, split]
  simp [same]
  omega

theorem borrowSound {p : Pool} (sound : p.Sound) (size : PictureSize) :
    (p.borrow size).1.Sound := by
  cases kept : p.bucket size with
  | nil =>
    rw [borrowFresh kept]
    exact ⟨sound.buffers, sound.bytes, sound.fits, sound.perSize, sound.within⟩
  | cons b rest =>
    obtain ⟨enough, large⟩ := sound.counted kept
    obtain ⟨borrowed, same, before, after, split, -, left⟩ := borrowParked kept
    have fits := (borrowFits sound.fits size).1
    have buffers := sound.buffers
    have bytes := sound.bytes
    rw [borrowed] at fits ⊢
    rw [split] at buffers
    rw [parkedSize, split] at bytes
    refine ⟨?_, ?_, fits, ?_, ?_⟩
    · rw [left]
      simp only [unpark, List.length_append, List.length_cons] at buffers ⊢
      omega
    · rw [parkedSize, left]
      simp only [unpark, List.map_append, List.map_cons, List.sum_append, List.sum_cons, same]
        at bytes ⊢
      omega
    · intro other
      have fewer : (before ++ after).Sublist p.parked := by
        rw [split]
        exact (List.sublist_cons_self b after).append_left before
      refine Nat.le_trans ?_ (sound.perSize other)
      rw [bucket, left]
      exact (fewer.filter _).length_le
    · exact Nat.le_trans (Nat.sub_le _ _) sound.within

theorem releaseSound {p : Pool} (sound : p.Sound) (b : Buffer) : (p.release b).Sound := by
  have fits := releaseFits sound.fits b
  unfold release at fits ⊢
  split
  case isFalse => exact ⟨sound.buffers, sound.bytes, sound.fits, sound.perSize, sound.within⟩
  case isTrue parks =>
    obtain ⟨-, room, light⟩ := (canParkIff p b).mp parks
    rw [if_pos parks] at fits
    refine ⟨by simp [sound.buffers], ?_, fits, ?_, light⟩
    · simp [parkedSize, sound.bytes, Nat.add_comm]
    · intro size
      have before := sound.perSize size
      by_cases same : b.size = size
      · subst same
        simpa [bucket] using room
      · simpa [bucket, same] using before

theorem useSound {p : Pool} (sound : p.Sound) (u : Use) : (p.use u).Sound := by
  cases u with
  | borrow size => exact borrowSound sound size
  | release b => exact releaseSound sound b

theorem useOptions (p : Pool) (u : Use) : (p.use u).options = p.options := by
  cases u with
  | borrow size =>
    cases h : p.parked.find? (·.size = size) <;> simp [use, borrow, h, unpark, allocate]
  | release b => cases h : p.canPark b <;> simp [use, release, h]

theorem usesOptions (p : Pool) (uses : List Use) : (play use p uses).options = p.options := by
  induction uses generalizing p with
  | nil => rfl
  | cons u rest ih => exact (ih (p.use u)).trans (useOptions p u)

theorem unparkBuckets {p : Pool} {size : PictureSize} {b : Buffer} {rest : List Buffer}
    (kept : p.bucket size = b :: rest) (other : PictureSize) :
    (p.unpark size).bucket other = if other = size then rest else p.bucket other := by
  obtain ⟨-, rfl, before, after, split, apart, left⟩ := borrowParked kept
  have none : before.filter (·.size = b.size) = [] := by simpa using apart
  rw [bucket, split, List.filter_append, none] at kept
  rw [bucket, left, List.filter_append]
  split_ifs with same
  · subst same
    simpa [none] using kept
  · have different : b.size ≠ other := fun h => same h.symm
    simp [bucket, split, different]

theorem borrowCounts {p : Pool} (size : PictureSize) :
    (p.borrow size).1.stats.reused + (p.borrow size).1.stats.allocatedBuffers =
      p.stats.reused + p.stats.allocatedBuffers + 1 := by
  cases kept : p.bucket size with
  | nil =>
    rw [borrowFresh kept]
    exact (Nat.add_assoc ..).symm
  | cons b rest =>
    rw [(borrowParked kept).1]
    exact Nat.add_right_comm ..

def returned (p : Pool) : Nat := p.stats.parkedBuffers + p.stats.reused + p.stats.dropped

theorem borrowReturned {p : Pool} (sound : p.Sound) (size : PictureSize) :
    (p.borrow size).1.returned = p.returned := by
  cases kept : p.bucket size with
  | nil =>
    rw [borrowFresh kept]
    rfl
  | cons b rest =>
    obtain ⟨enough, -⟩ := sound.counted kept
    rw [(borrowParked kept).1]
    simp only [returned, unpark]
    omega

theorem releaseReturned (p : Pool) (b : Buffer) :
    (p.release b).returned = p.returned + 1 ∧
      (p.release b).stats.reused = p.stats.reused ∧
      (p.release b).stats.allocatedBuffers = p.stats.allocatedBuffers := by
  unfold release
  split <;> exact ⟨by simp only [returned]; omega, rfl, rfl⟩

theorem runSound (options : PoolOptions) (uses : List Use) : (run options uses).Sound := by
  induction uses using List.reverseRecOn with
  | nil => exact emptySound options
  | append_singleton uses u ih =>
    rw [runSnoc]
    exact useSound ih u

theorem runBorrows (options : PoolOptions) (uses : List Use) :
    (run options uses).stats.reused + (run options uses).stats.allocatedBuffers =
      uses.countP Use.borrows := by
  induction uses using List.reverseRecOn with
  | nil => rfl
  | append_singleton uses u ih =>
    rw [runSnoc, List.countP_append, ← ih]
    cases u with
    | borrow size => exact borrowCounts size
    | release b =>
      obtain ⟨-, reused, allocated⟩ := releaseReturned (run options uses) b
      simp [use, reused, allocated, Use.borrows]

theorem runReturned (options : PoolOptions) (uses : List Use) :
    (run options uses).returned = uses.countP Use.releases := by
  induction uses using List.reverseRecOn with
  | nil => rfl
  | append_singleton uses u ih =>
    rw [runSnoc, List.countP_append, ← ih]
    cases u with
    | borrow size => exact borrowReturned (runSound options uses) size
    | release b => exact (releaseReturned (run options uses) b).1

structure Stocked (limits : PoolOptions) (uses : List Use) (p : Pool) : Prop where
  limited : p.options = limits
  buffers : p.stats.parkedBuffers = p.parked.length
  bytes : p.stats.parkedBytes = (p.parked.map (·.size.bytes)).sum
  fits : ∀ b ∈ p.parked, b.data.size = b.size.bytes
  perSize : ∀ size, (p.bucket size).length ≤ limits.maxPerSize.toNat
  within : p.stats.parkedBytes ≤ limits.maxBytes.toNat
  borrows : p.stats.reused + p.stats.allocatedBuffers = uses.countP Use.borrows
  releases : p.stats.parkedBuffers + p.stats.reused + p.stats.dropped = uses.countP Use.releases
  lends : ∀ size, (p.borrow size).2.size = size ∧ (p.borrow size).2.data.size = size.bytes
  again : ∀ size b rest, p.bucket size = b :: rest →
    (p.borrow size).2 = b ∧ 1 ≤ p.stats.parkedBuffers ∧ size.bytes ≤ p.stats.parkedBytes ∧
      (p.borrow size).1.stats.allocatedBuffers = p.stats.allocatedBuffers ∧
      ∀ other, (p.borrow size).1.bucket other = if other = size then rest else p.bucket other
  fresh : ∀ size, p.bucket size = [] →
    (p.borrow size).2.data = Array.replicate size.bytes 0 ∧
      (p.borrow size).1.stats.allocatedBuffers = p.stats.allocatedBuffers + 1 ∧
      (p.borrow size).1.parked = p.parked
  parks : ∀ b, b.data.size = b.size.bytes →
    (p.bucket b.size).length + 1 ≤ limits.maxPerSize.toNat →
    p.stats.parkedBytes + b.size.bytes ≤ limits.maxBytes.toNat →
    (p.release b).parked = b :: p.parked ∧ (p.release b).stats.dropped = p.stats.dropped
  drops : ∀ b, b.data.size ≠ b.size.bytes ∨
      limits.maxPerSize.toNat < (p.bucket b.size).length + 1 ∨
      limits.maxBytes.toNat < p.stats.parkedBytes + b.size.bytes →
    (p.release b).parked = p.parked ∧ (p.release b).stats.dropped = p.stats.dropped + 1

theorem poolAccounts (options : PoolOptions) (uses : List Use) :
    Stocked options uses (run options uses) := by
  have sound := runSound options uses
  have same : (run options uses).options = options := usesOptions _ uses
  have borrows := runBorrows options uses
  have releases := runReturned options uses
  generalize run options uses = p at *
  subst same
  refine ⟨rfl, sound.buffers, sound.bytes, sound.fits, sound.perSize, sound.within, borrows,
    releases, ?_, ?_, ?_, ?_, ?_⟩
  · intro size
    obtain ⟨-, fits, asked⟩ := borrowFits sound.fits size
    exact ⟨asked, by rw [fits, asked]⟩
  · intro size b rest kept
    obtain ⟨enough, large⟩ := sound.counted kept
    obtain ⟨borrowed, -⟩ := borrowParked kept
    rw [borrowed]
    exact ⟨rfl, enough, large, rfl, unparkBuckets kept⟩
  · intro size none
    rw [borrowFresh none]
    exact ⟨rfl, rfl, rfl⟩
  · intro b fits room light
    rw [release, if_pos ((canParkIff p b).mpr ⟨fits, room, light⟩)]
    exact ⟨rfl, rfl⟩
  · intro b unfit
    have refused : ¬ p.canPark b = true := by
      rw [canParkIff, Buffer.Fits]
      omega
    rw [release, if_neg refused]
    exact ⟨rfl, rfl⟩

end VideoPreview.Pool
