import VideoPreview.Renderer
import VideoPreview.Text.Quoted

/-!
A renderer that draws a white band for every line, one below the other. It refuses a line that has
a marker in its text, after it has drawn the bands above.
-/
namespace VideoPreview

def rowOfNat (n : Nat) : UInt32 := UInt32.ofNat (min n (UInt32.size - 1))

def occursIn (marker : List Char) : List Char → Bool
  | [] => marker.isEmpty
  | c :: rest => marker.isPrefixOf (c :: rest) || occursIn marker rest

structure BandRenderer where
  height : UInt32
  marker : Option String
  deriving DecidableEq, Repr

namespace BandRenderer

def default : BandRenderer := ⟨2, none⟩

def withHeight (r : BandRenderer) (rows : UInt32) : BandRenderer :=
  { r with height := if rows = 0 then 1 else rows }

def bandStart (r : BandRenderer) (i : Nat) : UInt32 :=
  rowOfNat (r.height.toNat * (i % UInt32.size))

def bandStop (r : BandRenderer) (i : Nat) : UInt32 :=
  rowOfNat ((r.bandStart i).toNat + r.height.toNat)

def refuses (r : BandRenderer) (l : SubtitleLine) : Bool :=
  match r.marker with
  | some m => occursIn m.toList l.text.toList
  | none => false

def paint (rowBytes start stop : Nat) (pixels : Pixels) : Pixels :=
  pixels.mapIdx fun i b => if start * rowBytes ≤ i ∧ i < stop * rowBytes then 255 else b

def drawBand (r : BandRenderer) (size : PictureSize) (i : Nat) (pixels : Pixels) : Pixels :=
  paint (size.width.toNat * bytesPerPixel) (r.bandStart i).toNat
    (min (r.bandStop i).toNat size.height.toNat) pixels

def drawFrom (r : BandRenderer) (size : PictureSize) :
    Nat → List SubtitleLine → Pixels → Attempt SubtitleError Unit × Pixels
  | _, [], pixels => (.done (), pixels)
  | i, l :: rest, pixels =>
    if r.refuses l then (.refused ⟨s!"cannot render line {i}: {Text.quoted l.text}"⟩, pixels)
    else drawFrom r size (i + 1) rest (r.drawBand size i pixels)

theorem sizeDrawFrom (r : BandRenderer) (size : PictureSize) (i : Nat) (lines : List SubtitleLine)
    (pixels : Pixels) : (r.drawFrom size i lines pixels).2.size = pixels.size := by
  induction lines generalizing i pixels with
  | nil => rfl
  | cons l rest ih =>
    simp only [drawFrom]
    split
    · rfl
    · simp [ih, drawBand, paint]

instance : SubtitleRenderer BandRenderer where
  render b _ lines r :=
    let (result, pixels) := r.drawFrom b.size 0 lines b.data
    ⟨result, pixels, r⟩
  keepsSize b _ lines r := sizeDrawFrom r b.size 0 lines b.data

end BandRenderer
end VideoPreview
