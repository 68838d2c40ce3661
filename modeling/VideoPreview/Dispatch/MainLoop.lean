import VideoPreview.Fault

/-!
The main loop: items run one after the other in the order they were posted, and an item may post
more items while it runs. With the inline trampoline an item runs at once where it is posted.
-/
namespace VideoPreview

inductive Trampoline where
  | pump
  | inline
  deriving DecidableEq, Repr

structure Turn (ι ς : Type) where
  state : ς
  posted : List ι
  panic : Option Payload

@[simp] def totalWeight (weight : ι → Nat) : List ι → Nat
  | [] => 0
  | i :: rest => weight i + totalWeight weight rest

@[simp] theorem totalWeightAppend (weight : ι → Nat) (a b : List ι) :
    totalWeight weight (a ++ b) = totalWeight weight a + totalWeight weight b := by
  induction a with
  | nil => simp
  | cons i rest ih => simp [ih, Nat.add_assoc]

/-- Items that run on a state. Each item's weight exceeds that of all it posts together, so that
running everything comes to an end. -/
class MainItem (ι ς : Type) where
  run : (i : ι) → (waiting : List ι) → ς → Turn ι ς
  weight : ι → Nat
  postsLess : ∀ i waiting s, totalWeight weight (run i waiting s).posted < weight i

structure Drained (ι ς : Type) where
  state : ς
  pending : List ι
  ran : Nat
  answer : Except Payload Bool

namespace MainLoop

variable {ι ς : Type} [MainItem ι ς]

def weight (ς : Type) [MainItem ι ς] (pending : List ι) : Nat :=
  totalWeight (MainItem.weight ς) pending

theorem weightPosted (i : ι) (rest : List ι) (s : ς) :
    weight ς (rest ++ (MainItem.run i rest s).posted) < weight ς (i :: rest) := by
  have := MainItem.postsLess i rest s
  simp only [weight, totalWeightAppend, totalWeight]
  omega

/-- Runs pending items, those posted meanwhile too, until `done` holds or none is left. An item
that panics is gone, and the rest stays. -/
def runUntil (done : ς → Bool) (ran : Nat) (pending : List ι) (s : ς) : Drained ι ς :=
  if done s then ⟨s, pending, ran, .ok true⟩
  else
    match pending with
    | [] => ⟨s, [], ran, .ok (done s)⟩
    | i :: rest =>
      match (MainItem.run i rest s).panic with
      | some p =>
        ⟨(MainItem.run i rest s).state, rest ++ (MainItem.run i rest s).posted, ran, .error p⟩
      | none =>
        runUntil done (ran + 1) (rest ++ (MainItem.run i rest s).posted)
          (MainItem.run i rest s).state
termination_by weight ς pending
decreasing_by exact weightPosted i rest s

def runPending (pending : List ι) (s : ς) : Drained ι ς := runUntil (fun _ => false) 0 pending s

theorem weightInline (i : ι) (rest : List ι) (s : ς) :
    weight ς (MainItem.run i rest s).posted < weight ς (i :: rest) := by
  have := MainItem.postsLess i rest s
  simp only [weight, totalWeight]
  omega

theorem weightRest (ς : Type) [MainItem ι ς] (i : ι) (rest : List ι) (s : ς) :
    weight ς rest < weight ς (i :: rest) := by
  have := MainItem.postsLess i [] s
  simp only [weight, totalWeight]
  omega

/-- Runs items where they are posted: what an item posts runs before the item goes on. A panic
goes through to whoever posted the item. -/
def runInline (items : List ι) (s : ς) : ς × Option Payload :=
  match items with
  | [] => (s, none)
  | i :: rest =>
    match runInline (MainItem.run i rest s).posted (MainItem.run i rest s).state with
    | (s', some p) => (s', some p)
    | (s', none) =>
      match (MainItem.run i rest s).panic with
      | some p => (s', some p)
      | none => runInline rest s'
termination_by weight ς items
decreasing_by
  · exact weightInline i rest s
  · exact weightRest ς i rest s

end MainLoop
end VideoPreview
