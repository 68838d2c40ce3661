import VideoPreview.Fault
import VideoPreview.Log

/-!
A queue whose items run one at a time in the order they were submitted. Once closed it accepts
nothing more, and what it had accepted still runs. A panic that goes through its thread leaves it
deserted, and what it had accepted is lost. Its thread bears its name, which not every name allows.
-/
namespace VideoPreview

structure SerialQueue (ι : Type) where
  name : String
  backlog : List ι
  isOpen : Bool
  isServed : Bool
  deriving Repr

namespace SerialQueue

def start (name : String) : SerialQueue ι := ⟨name, [], true, true⟩

def accepts (q : SerialQueue ι) : Bool := q.isOpen && q.isServed

def submit (q : SerialQueue ι) (item : ι) : SerialQueue ι :=
  if q.accepts then { q with backlog := q.backlog ++ [item] } else q

def take? (q : SerialQueue ι) : Option (ι × SerialQueue ι) :=
  match q.backlog with
  | [] => none
  | item :: rest => some (item, { q with backlog := rest })

def close (q : SerialQueue ι) : SerialQueue ι := { q with isOpen := false }

def desert (q : SerialQueue ι) : SerialQueue ι := { q with backlog := [], isServed := false }

/-- No thread can have a zero byte in its name, and asking for one is a mistake in the program. The
message tells where the first one is, and all bytes of the name. -/
def nameFault? (name : String) : Option Payload :=
  let bytes := name.toList.flatMap String.utf8EncodeChar
  (bytes.findIdx? (· = 0)).map fun i =>
    .text ("thread name may not contain interior null bytes: NulError(" ++ toString i ++ ", ["
      ++ String.intercalate ", " (bytes.map fun b => toString b.toNat) ++ "])")

theorem submitBacklog {q : SerialQueue ι} (h : q.accepts = true) (item : ι) :
    (q.submit item).backlog = q.backlog ++ [item] := by
  simp [submit, h]

@[simp] theorem submitIsOpen (q : SerialQueue ι) (item : ι) :
    (q.submit item).isOpen = q.isOpen := by
  unfold submit
  split <;> rfl

@[simp] theorem submitIsServed (q : SerialQueue ι) (item : ι) :
    (q.submit item).isServed = q.isServed := by
  unfold submit
  split <;> rfl

theorem submitClosed {q : SerialQueue ι} (h : q.accepts = false) (item : ι) :
    q.submit item = q := by
  simp [submit, h]

end SerialQueue

namespace LogEntry

def queueStarted (name : String) : LogEntry := ⟨.debug, "serial queue started", [("queue", name)]⟩
def queueStopped (name : String) : LogEntry := ⟨.debug, "serial queue stopped", [("queue", name)]⟩

def workerPanicked (name : String) : LogEntry :=
  ⟨.error, "serial worker thread panicked", [("queue", name)]⟩

def queueDetached (name : String) : LogEntry :=
  ⟨.debug, "serial queue dropped on its own worker, detaching", [("queue", name)]⟩

def workDropped (name : String) : LogEntry :=
  ⟨.warn, "work submitted to a closed serial queue was dropped", [("queue", name)]⟩

end LogEntry
end VideoPreview
