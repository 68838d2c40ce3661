import VideoPreview.Picture
import VideoPreview.Text.Hexadecimal

/-!
Pixels in short: one text for each row, and equal neighbours written once with their number.
-/
namespace VideoPreview.Text

def isUniform (row : Pixels) : Bool :=
  row.size > 0
    && (List.range row.size).all fun i => row[i]? = row[i % bytesPerPixel]?

def pixelRow (row : Pixels) : String :=
  hexOfBytes (if isUniform row then row.extract 0 bytesPerPixel else row).toList

def runs : List String → List (String × Nat)
  | [] => []
  | r :: rest =>
    match runs rest with
    | (s, n) :: more => if r = s then (s, n + 1) :: more else (r, 1) :: (s, n) :: more
    | [] => [(r, 1)]

def pixelRows (data : Pixels) (width height : UInt32) (stride : Nat) : List (String × Nat) :=
  runs ((List.range height.toNat).map fun y =>
    pixelRow (data.extract (y * stride) (y * stride + width.toNat * bytesPerPixel)))

end VideoPreview.Text
