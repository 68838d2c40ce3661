import VideoPreview.Dispatch.MainLoop

/-!
The plainest items of a main loop: an item writes a line, posts other items, and may panic then.
-/
namespace VideoPreview

inductive Errand (V : Type) where
  | mk (line : Option V) (posts : List (Errand V)) (panic : Option String)
  deriving Inhabited

namespace Errand

variable {V : Type}

def line : Errand V → Option V
  | mk line _ _ => line

def posts : Errand V → List (Errand V)
  | mk _ posts _ => posts

def panic : Errand V → Option String
  | mk _ _ panic => panic

mutual

def size : Errand V → Nat
  | mk _ posts _ => sizeAll posts + 1

def sizeAll : List (Errand V) → Nat
  | [] => 0
  | e :: rest => size e + sizeAll rest

end

theorem sizeAllEq (es : List (Errand V)) : sizeAll es = totalWeight size es := by
  induction es with
  | nil => simp [sizeAll]
  | cons e rest ih => simp [sizeAll, ih]

theorem sizeEq (e : Errand V) : e.size = totalWeight size e.posts + 1 := by
  cases e with
  | mk line posts panic => simp [size, sizeAllEq, Errand.posts]

def run (e : Errand V) (_ : List (Errand V)) (written : List V) : Turn (Errand V) (List V) :=
  ⟨written ++ e.line.toList, e.posts, e.panic.map .text⟩

instance : MainItem (Errand V) (List V) where
  run := run
  weight := size
  postsLess e _ _ := by
    show totalWeight size e.posts < e.size
    rw [sizeEq]
    exact Nat.lt_succ_self _

end Errand

structure ErrandLoop (V : Type) where
  trampoline : Trampoline
  pending : List (Errand V)
  written : List V

namespace ErrandLoop

variable {V : Type}

def start (trampoline : Trampoline) : ErrandLoop V := ⟨trampoline, [], []⟩

def post (l : ErrandLoop V) (e : Errand V) : Option Payload × ErrandLoop V :=
  match l.trampoline with
  | .pump => (none, { l with pending := l.pending ++ [e] })
  | .inline =>
    let (written, panic) := MainLoop.runInline [e] l.written
    (panic, { l with written })

def runUntil (l : ErrandLoop V) (done : List V → Bool) : Except Payload Bool × ErrandLoop V :=
  let drained := MainLoop.runUntil done 0 l.pending l.written
  (drained.answer, { l with pending := drained.pending, written := drained.state })

def runPending (l : ErrandLoop V) : Except Payload Nat × ErrandLoop V :=
  let drained := MainLoop.runPending l.pending l.written
  (drained.answer.map fun _ => drained.ran,
    { l with pending := drained.pending, written := drained.state })

end ErrandLoop
end VideoPreview
