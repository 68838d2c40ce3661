import VideoPreview.Json.Variant

/-!
Modes of the display aspect ratio and the ratio each stands for.
-/
namespace VideoPreview

inductive AspectRatio where
  | native
  | fullscreen
  | widescreen
  | cinematic
  | custom (ratio : Float)

namespace AspectRatio

def least : Float := 0.5
def greatest : Float := 5.0

def clamp (x : Float) : Float := if x < least then least else if greatest < x then greatest else x

def ratio? (size : Option (UInt32 × UInt32)) : AspectRatio → Option Float
  | native =>
    match size with
    | some (width, height) => if height = 0 then none else some (width.toFloat / height.toFloat)
    | none => none
  | fullscreen => some (4.0 / 3.0)
  | widescreen => some (16.0 / 9.0)
  | cinematic => some 2.35
  | custom x => some x

def read : Json.Reader AspectRatio := Json.Variant.read [
  ("Default", .plain .native),
  ("Fullscreen", .plain .fullscreen),
  ("Widescreen", .plain .widescreen),
  ("Cinematic", .plain .cinematic),
  ("Custom", .carrying fun t => (Json.Reader.float t).map .custom)]

end AspectRatio
end VideoPreview
