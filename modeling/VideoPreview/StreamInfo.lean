import VideoPreview.FrameRate
import VideoPreview.Json.Record

/-!
What a video says about itself when it is opened.
-/
namespace VideoPreview
namespace FrameRate

def record : Json.Record FrameRate where
  name := "Fps"
  fields := [
    .of "num" .required .uint32 fun v r => { r with num := v },
    .of "den" .required .uint32 fun v r => { r with den := v }]
  start := ⟨0, 0⟩
  strict := false

def toTree (r : FrameRate) : Json.Tree :=
  .ofFields [("num", .ofUInt32 r.num), ("den", .ofUInt32 r.den)]

end FrameRate

structure StreamInfo where
  frameCount : UInt64
  width : UInt32
  height : UInt32
  aspect : Float
  rate : FrameRate
  keyframes : List UInt64
  colorSpace : String
  taggedColorSpace : String
  warning : Option String
  decoderName : String
  hasAudio : Bool
  setsVideoProperties : Bool

namespace StreamInfo

def record : Json.Record StreamInfo where
  name := "SourceInfo"
  fields := [
    .of "frame_count" .required .uint64 fun v i => { i with frameCount := v },
    .of "width" .required .uint32 fun v i => { i with width := v },
    .of "height" .required .uint32 fun v i => { i with height := v },
    .of "dar" .required .float fun v i => { i with aspect := v },
    .of "fps" .required FrameRate.record.read fun v i => { i with rate := v },
    .of "keyframes" .required (.list .uint64) fun v i => { i with keyframes := v },
    .of "color_space" .required .string fun v i => { i with colorSpace := v },
    .of "real_color_space" .required .string fun v i => { i with taggedColorSpace := v },
    .of "warning" .nullable (.option .string) fun v i => { i with warning := v },
    .of "decoder_name" .required .string fun v i => { i with decoderName := v },
    .of "has_audio" .required .bool fun v i => { i with hasAudio := v },
    .of "should_set_video_properties" .required .bool fun v i =>
      { i with setsVideoProperties := v }]
  start := ⟨0, 0, 0, 0, ⟨0, 0⟩, [], "", "", none, "", false, false⟩
  strict := false

end StreamInfo
end VideoPreview
