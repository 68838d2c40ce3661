import VideoPreview.Dispatch.Context
import VideoPreview.Pipeline
import VideoPreview.Synthetic.Bands
import VideoPreview.Synthetic.Scripted
import VideoPreview.Viewer

/-!
A recorder and a display side by side, shown the same bare frames of one pipeline.
-/
namespace VideoPreview

structure Screening where
  recorder : Recorder
  display : Display
  last : Option Frame
  framesMade : Nat
  log : List LogEntry
  deriving DecidableEq, Repr

namespace Screening

def reel : ScriptedStream where
  info := { ScriptedStream.plainInfo with frameCount := frameOfNat maxFrame }
  frames := []
  fixedMatrix := false
  colorSpace := ScriptedStream.plainInfo.colorSpace

def projector : Pipeline ScriptedStream BandRenderer :=
  .start 0 (DispatchOptions.singleThreaded.queueName 0) "" reel .default 0 .default

def start : Screening where
  recorder := .empty
  display := .blank
  last := none
  framesMade := 0
  log := DispatchOptions.singleThreaded.readyEntry :: projector.startLog

def frame (s : Screening) (number : UInt64) (time : Int64) : Frame :=
  (s.last.filter fun f => f.number = number ∧ f.time = time).getD
    ⟨⟨projector.id, s.framesMade⟩, number, time, "", false, ⟨⟨1, 1⟩, #[0, 0, 0, 0]⟩⟩

def offer (s : Screening) (number : UInt64) (time : Int64) (v : Version) : Bool × Screening :=
  let f := s.frame number time
  let e := Event.frameReady f v
  (s.display.accepts v,
    { recorder := s.recorder.receive e
      display := s.display.offer f v
      last := some f
      framesMade := s.framesMade + 1
      log := s.log ++ s.recorder.receiveLog e ++ s.display.offerLog v })

def report (s : Screening) (e : Event) : Screening :=
  { s with
    recorder := s.recorder.receive e
    log := s.log ++ e.error?.toList.map ErrorEvent.logEntry }

end Screening
end VideoPreview
