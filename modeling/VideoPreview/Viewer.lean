import VideoPreview.Event

/-!
Receivers of events. A display shows the frame of the highest version it was offered; the recorder
keeps all events beside such a display.
-/
namespace VideoPreview

structure Display where
  gate : VersionGate
  current : Option (Frame × Version)
  deriving DecidableEq, Repr

namespace Display

def blank : Display := ⟨.initial, none⟩

def accepts (d : Display) (v : Version) : Bool := !d.gate.isStale v

def offer (d : Display) (f : Frame) (v : Version) : Display :=
  ⟨d.gate.pass v, if d.accepts v then some (f, v) else d.current⟩

def discarded (d : Display) : Nat := d.gate.rejected

def offerLog (d : Display) (v : Version) : List LogEntry :=
  if d.accepts v then [] else [⟨.trace, "discarding stale frame", [("version", v.text)]⟩]

end Display

structure Recorder where
  events : List Event
  display : Display
  deriving DecidableEq, Repr

namespace Recorder

def empty : Recorder := ⟨[], .blank⟩

def receive (r : Recorder) (e : Event) : Recorder where
  events := r.events ++ [e]
  display :=
    match e with
    | .frameReady f v => r.display.offer f v
    | _ => r.display

def receiveLog (r : Recorder) : Event → List LogEntry
  | .frameReady _ v => r.display.offerLog v
  | _ => []

def frames (r : Recorder) : List (Frame × Version) :=
  r.events.filterMap fun
    | .frameReady f v => some (f, v)
    | _ => none

def errors (r : Recorder) : List ErrorEvent := r.events.filterMap Event.error?

def latest (r : Recorder) : Option (Frame × Version) := r.display.current

def discarded (r : Recorder) : Nat := r.display.discarded

def diagnostic (r : Recorder) : String :=
  "InMemoryEventSink \x7b events: " ++ toString r.events.length ++ " \x7d"

end Recorder

structure Reception (τ : Type) where
  state : τ
  log : List LogEntry
  panic : Option Payload

class Viewer (τ : Type) where
  receive : Event → τ → Reception τ
  frames : τ → List Frame
  holdsGiven : ∀ e v, ∀ f ∈ frames (receive e v).state, f ∈ frames v ∨ e.frame? = some f

namespace Display

def receive (e : Event) (d : Display) : Reception Display :=
  match e with
  | .frameReady f v => ⟨d.offer f v, d.offerLog v, none⟩
  | _ => ⟨d, [], none⟩

def frames (d : Display) : List Frame := d.current.toList.map Prod.fst

instance : Viewer Display where
  receive := receive
  frames := frames
  holdsGiven e d f held := by
    cases e with
    | decodeError e => exact .inl held
    | renderError e => exact .inl held
    | frameReady g v =>
      cases accepted : d.accepts v with
      | true =>
        have shown : f = g := by simpa [receive, frames, offer, accepted] using held
        exact .inr (congrArg some shown.symm)
      | false => exact .inl (by simpa [receive, frames, offer, accepted] using held)

end Display

instance : Viewer Recorder where
  receive e r := ⟨r.receive e, r.receiveLog e, none⟩
  frames r := r.events.filterMap Event.frame?
  holdsGiven e r f held := by
    simpa [Recorder.receive, or_and_right, exists_or] using held

end VideoPreview
