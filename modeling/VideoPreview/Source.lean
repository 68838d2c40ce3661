import VideoPreview.Fault
import VideoPreview.Picture
import VideoPreview.StreamInfo

/-!
Videos as a pipeline sees them: something that opens a file, and an open stream that decodes one
frame at a time with the colour matrix in force.
-/
namespace VideoPreview

inductive Attempt (ε α : Type) where
  | done (a : α)
  | refused (e : ε)
  | panicked (p : Payload)
  deriving DecidableEq, Repr

def Attempt.toOption : Attempt ε α → Option α
  | done a => some a
  | _ => none

class FrameSource (σ : Type) where
  info : σ → StreamInfo
  colorSpace : σ → Except Payload String
  setColorSpace : String → σ → Option Payload × σ
  decode : UInt64 → σ → Attempt SourceError Picture × σ

class SourceProvider (π : Type) (σ : outParam Type) where
  openStream : (path hint : String) → π → Except SourceError σ × π

end VideoPreview
