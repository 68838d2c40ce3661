import VideoPreview.Proofs.Stock

/-! Who has which buffer. The buffers of a pool are told apart by the order in which they were
allocated: each is on the shelf, lent to a frame, or gone for good, and a frame that gives its
buffer back gives back the one it was lent. -/
namespace VideoPreview

inductive Transfer where
  | lend (frame : Nat) (size : PictureSize)
  | takeBack (frame : Nat) (b : Buffer)
  deriving DecidableEq, Repr

/-- A pool beside the numbers of its buffers: of those parked, in the order of the pool; of those
lent, each with the frame that has it; and of those dropped. -/
structure Custody where
  pool : Pool
  shelf : List (Nat × Buffer)
  lent : List (Nat × Nat)
  gone : List Nat

def Transfer.use : Transfer → Pool.Use
  | lend _ size => .borrow size
  | takeBack _ b => .release b

namespace Custody

def start (options : PoolOptions) : Custody := ⟨.empty options, [], [], []⟩

def lend (c : Custody) (frame : Nat) (size : PictureSize) : Custody :=
  let pool := (c.pool.borrow size).1
  match c.shelf.find? (·.2.size = size) with
  | some found =>
    { c with
      pool
      shelf := c.shelf.eraseP (·.2.size = size)
      lent := (frame, found.1) :: c.lent }
  | none => { c with pool, lent := (frame, c.pool.stats.allocatedBuffers) :: c.lent }

def takeBack (c : Custody) (frame : Nat) (b : Buffer) : Custody :=
  let pool := c.pool.release b
  let lent := c.lent.filter (·.1 ≠ frame)
  match c.lent.lookup frame with
  | some number =>
    if c.pool.canPark b then { c with pool, shelf := (number, b) :: c.shelf, lent }
    else { c with pool, lent, gone := number :: c.gone }
  | none => { c with pool }

def move (c : Custody) : Transfer → Custody
  | .lend frame size => c.lend frame size
  | .takeBack frame b => c.takeBack frame b

def after (options : PoolOptions) (history : List Transfer) : Custody :=
  play move (start options) history

theorem movePool (c : Custody) (t : Transfer) : (c.move t).pool = c.pool.use t.use := by
  cases t with
  | lend frame size =>
    rw [move, lend]
    cases c.shelf.find? (·.2.size = size) <;> rfl
  | takeBack frame b =>
    rw [move, takeBack]
    cases c.lent.lookup frame with
    | none => rfl
    | some number => cases h : c.pool.canPark b <;> simp [Transfer.use, Pool.use]

theorem movesPool (c : Custody) (more : List Transfer) :
    (play move c more).pool = play Pool.use c.pool (more.map Transfer.use) := by
  induction more generalizing c with
  | nil => rfl
  | cons t rest ih =>
    change (play move (c.move t) rest).pool = play Pool.use (c.pool.use t.use) _
    rw [ih, movePool]

structure Kept (live : Nat → Prop) (c : Custody) : Prop where
  sound : c.pool.Sound
  shelf : c.shelf.map Prod.snd = c.pool.parked
  everywhere : (c.shelf.map Prod.fst ++ c.lent.map Prod.snd ++ c.gone).Perm
    (List.range c.pool.stats.allocatedBuffers)
  gone : c.gone.length = c.pool.stats.dropped
  frames : (c.lent.map Prod.fst).Nodup
  lent : ∀ frame, frame ∈ c.lent.map Prod.fst ↔ live frame

variable {live : Nat → Prop} {c : Custody}

theorem startKept (options : PoolOptions) : (start options).Kept fun _ => False where
  sound := Pool.emptySound options
  shelf := rfl
  everywhere := .refl _
  gone := rfl
  frames := .nil
  lent _ := by simp [start]

theorem Kept.congr {live' : Nat → Prop} (kept : c.Kept live)
    (same : ∀ frame, live frame ↔ live' frame) :
    c.Kept live' :=
  ⟨kept.sound, kept.shelf, kept.everywhere, kept.gone, kept.frames,
    fun frame => (kept.lent frame).trans (same frame)⟩

theorem Kept.lend (kept : c.Kept live) {frame : Nat} (free : ¬ live frame) (size : PictureSize) :
    (c.lend frame size).Kept fun k => live k ∨ k = frame := by
  have sound := Pool.borrowSound kept.sound size
  have frames : (frame :: c.lent.map Prod.fst).Nodup :=
    List.nodup_cons.mpr ⟨fun lent => free ((kept.lent frame).mp lent), kept.frames⟩
  have lent (k : Nat) : k ∈ frame :: c.lent.map Prod.fst ↔ live k ∨ k = frame := by
    rw [List.mem_cons, kept.lent, or_comm]
  have everywhere := kept.everywhere
  have found : c.pool.parked.find? (·.size = size) =
      (c.shelf.find? (·.2.size = size)).map Prod.snd := by
    rw [← kept.shelf, List.find?_map]
    rfl
  have erased : c.pool.parked.eraseP (·.size = size) =
      (c.shelf.eraseP (·.2.size = size)).map Prod.snd := by
    rw [← kept.shelf, List.eraseP_map]
    rfl
  unfold Custody.lend
  cases parked : c.shelf.find? (·.2.size = size) with
  | none =>
    have fresh : (c.pool.borrow size).1 = c.pool.allocate size := by
      simp [Pool.borrow, found, parked]
    rw [fresh] at sound ⊢
    refine ⟨sound, kept.shelf, ?_, kept.gone, frames, lent⟩
    rw [Pool.allocate, List.range_succ]
    refine .trans ?_ (everywhere.append_right [c.pool.stats.allocatedBuffers])
    rw [List.perm_iff_count]
    intro n
    simp only [List.map_cons, List.count_append, List.count_cons, List.count_nil]
    omega
  | some held =>
    have again : (c.pool.borrow size).1 = c.pool.unpark size := by
      simp [Pool.borrow, found, parked]
    rw [again] at sound ⊢
    refine ⟨sound, erased.symm, ?_, kept.gone, frames, lent⟩
    obtain ⟨same, before, after, split, others⟩ := List.find?_eq_some_iff_append.mp parked
    have left : c.shelf.eraseP (·.2.size = size) = before ++ after := by
      rw [split, List.eraseP_append_right _ (by simpa using others)]
      simp [same]
    refine .trans ?_ everywhere
    rw [left, split, List.perm_iff_count]
    intro n
    simp only [List.map_append, List.map_cons, List.count_append, List.count_cons]
    omega

theorem lookupSplit {before after : List (Nat × Nat)} {frame number : Nat}
    (apart : frame ∉ before.map Prod.fst) :
    (before ++ (frame, number) :: after).lookup frame = some number := by
  induction before with
  | nil => simp
  | cons pair rest ih =>
    obtain ⟨first, lent⟩ := pair
    obtain ⟨other, absent⟩ : frame ≠ first ∧ frame ∉ rest.map Prod.fst := by simpa using apart
    have different : (frame == first) = false := by simpa using other
    simpa [List.lookup_cons, different] using ih absent

theorem filterSplit {before after : List (Nat × Nat)} {frame number : Nat}
    (apart : frame ∉ before.map Prod.fst) (later : frame ∉ after.map Prod.fst) :
    (before ++ (frame, number) :: after).filter (·.1 ≠ frame) = before ++ after := by
  have same {pairs : List (Nat × Nat)} (absent : frame ∉ pairs.map Prod.fst) :
      pairs.filter (·.1 ≠ frame) = pairs := by
    rw [List.filter_eq_self]
    intro pair member
    simpa using fun h => absent (List.mem_map.mpr ⟨pair, member, h⟩)
  rw [List.filter_append, List.filter_cons_of_neg (by simp), same apart, same later]

theorem Kept.takeBack (kept : c.Kept live) {frame : Nat} (held : live frame) (b : Buffer) :
    (c.takeBack frame b).Kept fun k => live k ∧ k ≠ frame := by
  have sound := Pool.releaseSound kept.sound b
  obtain ⟨number, member⟩ : ∃ number, (frame, number) ∈ c.lent := by
    simpa using (kept.lent frame).mpr held
  obtain ⟨before, after, split⟩ := List.append_of_mem member
  have frames := kept.frames
  have lent := kept.lent
  have everywhere := kept.everywhere
  rw [split] at frames lent everywhere
  have alone : (frame :: (before ++ after).map Prod.fst).Nodup := by
    rw [List.map_append]
    exact List.perm_middle.nodup_iff.mp (by simpa using frames)
  obtain ⟨absent, rest⟩ := List.nodup_cons.mp alone
  obtain ⟨apart, later⟩ : frame ∉ before.map Prod.fst ∧ frame ∉ after.map Prod.fst := by
    simpa only [List.map_append, List.mem_append, not_or] using absent
  have left (k : Nat) : k ∈ (before ++ after).map Prod.fst ↔ live k ∧ k ≠ frame := by
    rw [← lent, List.map_append, List.map_append, List.map_cons, List.mem_append, List.mem_append,
      List.mem_cons]
    by_cases same : k = frame
    · subst same
      simp [apart, later]
    · simp [same]
  have moved (shelf : List (Nat × Buffer)) (gone : List Nat)
      (same : ∀ n, (shelf.map Prod.fst).count n + gone.count n =
        (c.shelf.map Prod.fst).count n + c.gone.count n + [number].count n) :
      (shelf.map Prod.fst ++ (before ++ after).map Prod.snd ++ gone).Perm
        (List.range c.pool.stats.allocatedBuffers) := by
    refine .trans ?_ everywhere
    rw [List.perm_iff_count]
    intro n
    have here := same n
    simp only [List.map_append, List.map_cons, List.count_append, List.count_cons,
      List.count_nil] at here ⊢
    omega
  unfold Custody.takeBack
  rw [split, lookupSplit apart, filterSplit apart later]
  unfold Pool.release at sound ⊢
  cases parks : c.pool.canPark b with
  | true =>
    simp only [parks, if_true] at sound ⊢
    refine ⟨sound, by simp [kept.shelf], moved _ _ fun n => ?_, kept.gone, rest, left⟩
    simp only [List.map_cons, List.count_cons, List.count_nil]
    omega
  | false =>
    simp only [parks, Bool.false_eq_true, if_false] at sound ⊢
    refine ⟨sound, kept.shelf, moved _ _ fun n => ?_, by simp [kept.gone], rest, left⟩
    simp only [List.count_cons, List.count_nil]
    omega

theorem Kept.balance (kept : c.Kept live) (frames : List Nat) (once : frames.Nodup)
    (all : ∀ frame, frame ∈ frames ↔ live frame) :
    c.pool.stats.allocatedBuffers =
      c.pool.stats.parkedBuffers + c.pool.stats.dropped + frames.length := by
  have lent : (c.lent.map Prod.fst).length = frames.length :=
    ((List.perm_ext_iff_of_nodup kept.frames once).mpr fun frame =>
      (kept.lent frame).trans (all frame).symm).length_eq
  have shelf := congrArg List.length kept.shelf
  have all := kept.everywhere.length_eq
  rw [kept.sound.buffers, ← kept.gone]
  simp only [List.length_append, List.length_map, List.length_range] at lent shelf all
  omega

theorem Kept.apart (kept : c.Kept live) :
    ∀ shelved ∈ c.shelf, ∀ pair ∈ c.lent, shelved.1 ≠ pair.2 := by
  have once := kept.everywhere.nodup_iff.mpr List.nodup_range
  have apart := (List.nodup_append.mp (List.nodup_append.mp once).1).2.2
  intro parked onShelf pair lent
  exact apart _ (List.mem_map_of_mem onShelf) _ (List.mem_map_of_mem lent)

end Custody
end VideoPreview
