/-! Runs of a system that is moved on step by step. Whatever is observed of a run is read off the
state before each move and the move itself; nothing is added to the system. -/
namespace VideoPreview

section
variable {ς μ α : Type}

def play (step : ς → μ → ς) (s : ς) (moves : List μ) : ς := moves.foldl step s

def seen (step : ς → μ → ς) (see : ς → μ → List α) : ς → List μ → List α
  | _, [] => []
  | s, m :: rest => see s m ++ seen step see (step s m) rest

theorem playAppend (step : ς → μ → ς) (s : ς) (before after : List μ) :
    play step s (before ++ after) = play step (play step s before) after := by
  simp [play]

@[simp] theorem playSnoc (step : ς → μ → ς) (s : ς) (moves : List μ) (m : μ) :
    play step s (moves ++ [m]) = step (play step s moves) m := by
  simp [play]

theorem playCollect (before moves : List μ) :
    play (fun before m => before ++ [m]) before moves = before ++ moves := by
  induction moves generalizing before with
  | nil => simp [play]
  | cons m rest ih =>
    change play _ (before ++ [m]) rest = _
    simp [ih]

theorem seenAppend (step : ς → μ → ς) (see : ς → μ → List α) (s : ς) (before after : List μ) :
    seen step see s (before ++ after) =
      seen step see s before ++ seen step see (play step s before) after := by
  induction before generalizing s with
  | nil => rfl
  | cons m rest ih => simp [seen, play, ih (step s m)]

@[simp]
theorem seenSnoc (step : ς → μ → ς) (see : ς → μ → List α) (s : ς) (moves : List μ) (m : μ) :
    seen step see s (moves ++ [m]) = seen step see s moves ++ see (play step s moves) m := by
  simp [seenAppend, seen]

theorem seenAll {step : ς → μ → ς} {see : ς → μ → List α} {p : α → Prop}
    (each : ∀ s m, ∀ x ∈ see s m, p x) (s : ς) (moves : List μ) :
    ∀ x ∈ seen step see s moves, p x := by
  induction moves generalizing s with
  | nil => exact fun x mem => nomatch mem
  | cons m rest ih =>
    intro x mem
    rcases List.mem_append.mp mem with here | later
    · exact each s m x here
    · exact ih (step s m) x later

end
end VideoPreview
