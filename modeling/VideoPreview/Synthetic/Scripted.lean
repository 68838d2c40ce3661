import VideoPreview.Source

/-!
Streams whose every answer is written down beforehand, good or bad.
-/
namespace VideoPreview

structure ScriptedFrame where
  error : Option SourceError
  crash : Option String
  width : UInt32
  height : UInt32
  stride : Option Nat
  flipped : Bool
  length : Option Nat
  base : Option Nat
  deriving DecidableEq, Repr

namespace ScriptedFrame

def default : ScriptedFrame := ⟨none, none, 4, 4, none, false, none, none⟩

def picture (f : ScriptedFrame) (n : UInt64) : Picture :=
  let stride := f.stride.getD (f.width.toNat * bytesPerPixel)
  let base := f.base.getD n.toNat
  { width := f.width
    height := f.height
    stride
    flipped := f.flipped
    data := ((List.range (f.length.getD (stride * f.height.toNat))).map fun i =>
      UInt8.ofNat (base + i)).toArray }

def decode (f : ScriptedFrame) (n : UInt64) : Attempt SourceError Picture :=
  match f.error, f.crash with
  | some e, _ => .refused e
  | none, some text => .panicked (.text text)
  | none, none => .done (f.picture n)

end ScriptedFrame

structure ScriptedStream where
  info : StreamInfo
  frames : List (String × ScriptedFrame)
  fixedMatrix : Bool
  colorSpace : String

namespace ScriptedStream

def plainInfo : StreamInfo where
  frameCount := 100
  width := 4
  height := 4
  aspect := 0.0
  rate := ⟨25, 1⟩
  keyframes := []
  colorSpace := "TV.601"
  taggedColorSpace := "TV.601"
  warning := none
  decoderName := "custom"
  hasAudio := false
  setsVideoProperties := false

def entry (s : ScriptedStream) (n : UInt64) : ScriptedFrame :=
  ((s.frames.lookup (toString n)).or (s.frames.lookup "*")).getD .default

instance : FrameSource ScriptedStream where
  info := info
  colorSpace s := .ok s.colorSpace
  setColorSpace matrix s := (none, if s.fixedMatrix then s else { s with colorSpace := matrix })
  decode n s := ((s.entry n).decode n, s)

end ScriptedStream

structure ScriptedProvider where
  error : Option SourceError
  stream : ScriptedStream
  asked : List (String × String)

instance : SourceProvider ScriptedProvider ScriptedStream where
  openStream path hint p :=
    (match p.error with
      | some e => .error e
      | none => .ok p.stream,
    { p with asked := p.asked ++ [(path, hint)] })

end VideoPreview
