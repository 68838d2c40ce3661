import VideoPreview.Proofs.Lanes
import VideoPreview.Proofs.Schedules

/-! The way of failures. Only the end of asynchronous work is one, and it is handed over once, in
the order in which such items end. Of all a hub holds, the few parts that failures pass through
behave like a small machine of their own, which is looked at first. -/
namespace VideoPreview

variable {V : Type}

def MainEntry.failure? : MainEntry V → Option Failure
  | .item _ => none
  | .handle failure => some failure

structure Channel where
  trampoline : Trampoline
  handling : FailureHandling
  awaiting : List Failure
  kept : List Failure
  errors : List LogEntry

namespace Channel

def handle (c : Channel) (failure : Failure) : Channel :=
  match c.handling with
  | .log => { c with errors := c.errors ++ [.unhandled failure.message] }
  | _ => { c with kept := c.kept ++ [failure] }

def surface (c : Channel) (failure : Failure) : Channel :=
  match c.trampoline with
  | .pump => { c with awaiting := c.awaiting ++ [failure] }
  | .inline => c.handle failure

variable {mode : Trampoline} {way : FailureHandling} {c : Channel} {failures : List Failure}

end Channel

namespace Hub

variable {h h' h₀ : Hub V} {t : ThreadRef} {n : Nat}

def laneOf : ThreadRef → List (Activity V) → Option Nat
  | .serial n, [] => some n
  | _, _ => none

def failing (h : Hub V) : Move V → List (Option Nat × Failure)
  | .turn t =>
    match h.strand t with
    | ⟨a :: below, none⟩ => (a.failure?.map (laneOf t below, ·)).toList
    | _ => []
  | _ => []

def failed (h : Hub V) (moves : List (Move V)) : List (Option Nat × Failure) :=
  seen step failing h moves

section
variable {mode : Trampoline} {way : FailureHandling} {failures : List Failure}

end

end Hub
end VideoPreview
