import VideoPreview.Pool
import VideoPreview.Source
import VideoPreview.Subtitle

/-!
Drawing of subtitles onto a picture's pixels.
-/
namespace VideoPreview

structure Drawing (ρ : Type) where
  result : Attempt SubtitleError Unit
  pixels : Pixels
  renderer : ρ

class SubtitleRenderer (ρ : Type) where
  render : Buffer → Int64 → List SubtitleLine → ρ → Drawing ρ
  keepsSize : ∀ b t lines r, (render b t lines r).pixels.size = b.data.size

end VideoPreview
