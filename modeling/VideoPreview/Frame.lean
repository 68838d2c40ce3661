import VideoPreview.Pool

/-!
Rendered frames: what a viewer is shown. A frame is shared by those who hold it, and its identity
tells one rendering from another that looks the same.
-/
namespace VideoPreview

structure FrameId where
  pipeline : Nat
  number : Nat
  deriving DecidableEq, Repr

structure Frame where
  id : FrameId
  number : UInt64
  time : Int64
  colorSpace : String
  hasSubtitles : Bool
  buffer : Buffer
  deriving DecidableEq, Repr

namespace Frame

def width (f : Frame) : UInt32 := f.buffer.size.width
def height (f : Frame) : UInt32 := f.buffer.size.height

def pixel? (f : Frame) (x y : UInt32) : Option (List UInt8) :=
  if f.width ≤ x || f.height ≤ y then none
  else
    let start := (y.toNat * f.width.toNat + x.toNat) * bytesPerPixel
    if start + bytesPerPixel ≤ f.buffer.data.size then
      some (f.buffer.data.extract start (start + bytesPerPixel)).toList
    else none

end Frame
end VideoPreview
