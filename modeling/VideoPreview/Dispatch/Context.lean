import VideoPreview.Dispatch.SerialQueue
import VideoPreview.Fault
import VideoPreview.Options
import VideoPreview.Text.Quoted

/-!
What a dispatch context is set up with: what becomes of failures, which options no context can be
built with, and the names of its serial queues.
-/
namespace VideoPreview

/-- Who is told of the failures of asynchronous work. A handler that raises keeps them like a
record, and panics where its rule has a payload for a failure and those before it. -/
inductive FailureHandling where
  | record
  | log
  | raise (rule : List Failure → Failure → Option Payload)

namespace FailureHandling

def rethrow : FailureHandling := .raise fun _ failure => some failure.raised

def thrown? : FailureHandling → List Failure → Failure → Option Payload
  | raise rule, before, failure => rule before failure
  | _, _, _ => none

def keeps : FailureHandling → Bool
  | log => false
  | _ => true

def IsGentle (handling : FailureHandling) : Prop :=
  ∀ before failure, handling.thrown? before failure = none

theorem IsGentle.record : IsGentle .record := fun _ _ => rfl

theorem IsGentle.log : IsGentle .log := fun _ _ => rfl

end FailureHandling

namespace DispatchOptions

def fault? (o : DispatchOptions) : Option DispatchError :=
  if o.backgroundThreads = some 0 then
    some (.invalidOption "background_threads must be >= 1 when set")
  else none

def crew (o : DispatchOptions) : Nat := min (o.backgroundThreads.getD 1).toNat 65535

def threadsText (o : DispatchOptions) : String :=
  match o.backgroundThreads with
  | some n => s!"Some({n})"
  | none => "None"

def readyEntry (o : DispatchOptions) : LogEntry :=
  ⟨.debug, "dispatch context ready", [("background_threads", o.threadsText)]⟩

def queueName (o : DispatchOptions) (n : Nat) : String := s!"{o.serialThreadName}-{n}"

def diagnostic (o : DispatchOptions) : String :=
  "DispatchContext \x7b opts: DispatchOpts \x7b background_threads: " ++ o.threadsText
    ++ ", serial_thread_name: " ++ Text.quoted o.serialThreadName ++ " \x7d \x7d"

end DispatchOptions
end VideoPreview
