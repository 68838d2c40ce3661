import VideoPreview.Json.Record

/-!
Subtitle lines and scripts, and the lines of a script that are drawn at a time.
-/
namespace VideoPreview

structure SubtitleLine where
  start : Int64
  stop : Int64
  layer : Int32
  style : String
  text : String
  comment : Bool
  deriving DecidableEq, Repr

namespace SubtitleLine

def dialogue (start stop : Int64) (text : String) : SubtitleLine :=
  ⟨start, stop, 0, "Default", text, false⟩

def visibleAt (l : SubtitleLine) (time : Int64) : Bool :=
  !l.comment && l.start ≤ time && time < l.stop

def record : Json.Record SubtitleLine where
  name := "SubtitleLine"
  fields := [
    .of "start_ms" .required .int64 fun v l => { l with start := v },
    .of "end_ms" .required .int64 fun v l => { l with stop := v },
    .of "layer" .defaulted .int32 fun v l => { l with layer := v },
    .of "style" .defaulted .string fun v l => { l with style := v },
    .of "text" .required .string fun v l => { l with text := v },
    .of "comment" .defaulted .bool fun v l => { l with comment := v }]
  start := ⟨0, 0, 0, "", "", false⟩
  strict := false

def toTree (l : SubtitleLine) : Json.Tree := .ofFields [
  ("start_ms", .ofInt64 l.start),
  ("end_ms", .ofInt64 l.stop),
  ("layer", .ofInt32 l.layer),
  ("style", .ofString l.style),
  ("text", .ofString l.text),
  ("comment", .bool l.comment)]

end SubtitleLine

abbrev Script := List SubtitleLine

namespace Script

def visibleAt (s : Script) (time : Int64) : List SubtitleLine :=
  (s.filter (·.visibleAt time)).mergeSort fun a b => a.layer ≤ b.layer

end Script
end VideoPreview
