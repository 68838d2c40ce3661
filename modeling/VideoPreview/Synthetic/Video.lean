import VideoPreview.Source
import VideoPreview.Text.Location

/-!
Videos made up on the spot. Every pixel of a frame has the same colour, which depends on the number
of the frame and the matrix alone.
-/
namespace VideoPreview

structure SyntheticVideo where
  frameCount : UInt64
  width : UInt32
  height : UInt32
  rate : FrameRate
  colorSpace : String
  bad : List UInt64
  crashing : List UInt64
  flipped : Bool
  deriving DecidableEq, Repr

def SyntheticVideo.default : SyntheticVideo := ⟨100, 16, 16, ⟨25, 1⟩, "TV.601", [], [], false⟩

def tint (colorSpace : String) : UInt8 :=
  colorSpace.toByteArray.toList.foldl (fun acc b => acc * 31 + b) 0

def pixelOf (n : UInt64) (colorSpace : String) : List UInt8 :=
  [n.toUInt8, (n / 256).toUInt8, tint colorSpace, 255]

structure SyntheticStream where
  video : SyntheticVideo
  colorSpace : String
  deriving DecidableEq, Repr

namespace SyntheticStream

def info (s : SyntheticStream) : StreamInfo where
  frameCount := s.video.frameCount
  width := s.video.width
  height := s.video.height
  aspect := s.video.width.toFloat / s.video.height.toFloat
  rate := s.video.rate
  keyframes := (List.range ((s.video.frameCount.toNat + 9) / 10)).map fun i => UInt64.ofNat (10 * i)
  colorSpace := s.colorSpace
  taggedColorSpace := s.video.colorSpace
  warning := none
  decoderName := "synthetic"
  hasAudio := false
  setsVideoProperties := true

def picture (s : SyntheticStream) (n : UInt64) : Picture where
  width := s.video.width
  height := s.video.height
  stride := s.video.width.toNat * bytesPerPixel
  flipped := s.video.flipped
  data :=
    (List.replicate (s.video.width.toNat * s.video.height.toNat)
      (pixelOf n s.colorSpace)).flatten.toArray

def decode (s : SyntheticStream) (n : UInt64) : Attempt SourceError Picture :=
  if s.video.frameCount ≤ n then .refused (.outOfRange n s.video.frameCount)
  else if n ∈ s.video.bad then .refused (.undecodable n "corrupt packet")
  else if n ∈ s.video.crashing then .panicked (.text s!"decoder crashed on frame {n}")
  else .done (s.picture n)

instance : FrameSource SyntheticStream where
  info := info
  colorSpace s := .ok s.colorSpace
  setColorSpace matrix s := (none, { s with colorSpace := matrix })
  decode n s := (s.decode n, s)

end SyntheticStream

structure SyntheticProvider where
  video : SyntheticVideo
  missing : List String
  opened : Nat
  deriving DecidableEq, Repr

namespace SyntheticProvider

def ofVideo (video : SyntheticVideo) : SyntheticProvider := ⟨video, [], 0⟩

def withMissing (p : SyntheticProvider) (path : String) : SyntheticProvider :=
  { p with missing := path :: p.missing }

def openAt (p : SyntheticProvider) (path hint : String) :
    Except SourceError SyntheticStream × SyntheticProvider :=
  if p.missing.any (Text.sameLocation path) then (.error (.notFound path), p)
  else if p.video.frameCount = 0 ∨ p.video.width = 0 ∨ p.video.height = 0 then
    (.error (.unopenable path "video has no frames"), p)
  else
    (.ok ⟨p.video, if p.video.colorSpace = "" then hint else p.video.colorSpace⟩,
      { p with opened := p.opened + 1 })

instance : SourceProvider SyntheticProvider SyntheticStream where
  openStream path hint p := p.openAt path hint

end SyntheticProvider

structure SyntheticDesk where
  provider : SyntheticProvider
  stream : Option SyntheticStream
  decodes : List (UInt64 × String)
  deriving DecidableEq, Repr

namespace SyntheticDesk

def ofVideo (video : SyntheticVideo) : SyntheticDesk := ⟨.ofVideo video, none, []⟩

def openAt (d : SyntheticDesk) (path hint : String) : Option SourceError × SyntheticDesk :=
  match d.provider.openAt path hint with
  | (.ok stream, provider) => (none, { d with provider, stream := some stream })
  | (.error e, provider) => (some e, { d with provider })

def decode (d : SyntheticDesk) (s : SyntheticStream) (n : UInt64) :
    Attempt SourceError Picture × SyntheticDesk :=
  match s.decode n with
  | .done p => (.done p, { d with decodes := d.decodes ++ [(n, s.colorSpace)] })
  | other => (other, d)

end SyntheticDesk
end VideoPreview
