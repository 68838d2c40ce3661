import VideoPreview.Fault
import VideoPreview.Frame
import VideoPreview.Log
import VideoPreview.Version

/-!
What a pipeline tells the viewer about a request.
-/
namespace VideoPreview

structure ErrorEvent where
  summary : String
  detail : String
  frame : UInt64
  version : Version
  deriving DecidableEq, Repr

namespace ErrorEvent

def ofSourceError (e : SourceError) (frame : UInt64) (v : Version) : ErrorEvent :=
  ⟨"Failed seeking video. The video file may be corrupt or incomplete.", e.message, frame, v⟩

def ofSubtitleError (e : SubtitleError) (frame : UInt64) (v : Version) : ErrorEvent :=
  ⟨"Failed rendering subtitles.", e.message, frame, v⟩

def message (e : ErrorEvent) : String := s!"{e.summary}\nError message reported: {e.detail}"

def logEntry (e : ErrorEvent) : LogEntry :=
  ⟨.error, s!"{e.summary} Error message reported: {e.detail}",
    [("frame", toString e.frame), ("version", e.version.text)]⟩

end ErrorEvent

inductive Event where
  | frameReady (frame : Frame) (version : Version)
  | decodeError (e : ErrorEvent)
  | renderError (e : ErrorEvent)
  deriving DecidableEq, Repr

namespace Event

def version : Event → Version
  | frameReady _ v => v
  | decodeError e => e.version
  | renderError e => e.version

def frame? : Event → Option Frame
  | frameReady f _ => some f
  | _ => none

def error? : Event → Option ErrorEvent
  | frameReady _ _ => none
  | decodeError e => some e
  | renderError e => some e

end Event
end VideoPreview
