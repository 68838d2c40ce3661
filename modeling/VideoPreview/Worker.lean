import VideoPreview.Event
import VideoPreview.Renderer

/-!
The part of a pipeline that computes frames: it decodes a picture, copies it into a pooled buffer
and has the visible lines drawn onto it. It remembers the picture it decoded last and the frame it
rendered last, so that asking again for the same is cheap.
-/
namespace VideoPreview

structure Counts where
  computed : Nat
  superseded : Nat
  decoded : Nat
  decodeReused : Nat
  rendered : Nat
  renderReused : Nat
  decodeErrors : Nat
  renderErrors : Nat
  deriving DecidableEq, Repr

def Counts.zero : Counts := ⟨0, 0, 0, 0, 0, 0, 0, 0⟩

inductive Call where
  | decode (frame : UInt64) (colorSpace : Option String) (delivered : Bool)
  | matrix (name : String)
  | render (size : PictureSize) (time : Int64) (lines : List SubtitleLine)
  deriving DecidableEq, Repr

structure LastRender where
  lines : List SubtitleLine
  frame : Frame
  subtitled : frame.hasSubtitles = !lines.isEmpty
  deriving DecidableEq, Repr

structure Rendered where
  frame : Frame
  fault : Option SubtitleError
  deriving DecidableEq, Repr

structure Worker (σ ρ : Type) where
  pipeline : Nat
  source : σ
  renderer : ρ
  script : Script
  frameCount : UInt64
  position : Option (UInt64 × Int64)
  decoded : Option (UInt64 × Picture)
  lastRender : Option LastRender
  pool : Pool
  options : PipelineOptions
  counts : Counts
  framesMade : Nat
  calls : List Call

namespace Worker

def start (pipeline : Nat) (source : σ) (renderer : ρ) (frameCount : UInt64)
    (options : PipelineOptions) : Worker σ ρ where
  pipeline
  source
  renderer
  script := []
  frameCount
  position := none
  decoded := none
  lastRender := none
  pool := .empty options.pool
  options
  counts := .zero
  framesMade := 0
  calls := []

variable {σ ρ : Type}

def renderedBefore? (w : Worker σ ρ) (n : UInt64) (t : Int64) (lines : List SubtitleLine) :
    Option Frame :=
  match w.lastRender with
  | some last =>
    if w.options.reuseRendered && last.frame.number = n && last.frame.time = t
        && last.lines = lines && last.frame.hasSubtitles == !lines.isEmpty
    then some last.frame
    else none
  | none => none

def decodedBefore? (w : Worker σ ρ) (n : UInt64) : Option Picture :=
  match w.decoded with
  | some (m, p) => if w.options.reuseDecoded && m = n then some p else none
  | none => none

def decode [FrameSource σ] (w : Worker σ ρ) (n : UInt64) :
    Attempt SourceError Picture × Worker σ ρ :=
  let colorSpace := (FrameSource.colorSpace w.source).toOption
  match FrameSource.decode n w.source with
  | (.done p, source) =>
    let w := { w with source, decoded := none, calls := w.calls ++ [.decode n colorSpace true] }
    if p.isWellFormed then
      (.done p, { w with
        decoded := some (n, p)
        counts := { w.counts with decoded := w.counts.decoded + 1 } })
    else
      (.refused (.undecodable n "decoder returned a buffer smaller than its geometry"), w)
  | (.refused e, source) =>
    (.refused e,
      { w with source, decoded := none, calls := w.calls ++ [.decode n colorSpace false] })
  | (.panicked p, source) =>
    (.panicked p,
      { w with source, decoded := none, calls := w.calls ++ [.decode n colorSpace false] })

def picture [FrameSource σ] (w : Worker σ ρ) (n : UInt64) :
    Attempt SourceError Picture × Worker σ ρ :=
  match w.decodedBefore? n with
  | some p =>
    (.done p, { w with counts := { w.counts with decodeReused := w.counts.decodeReused + 1 } })
  | none => w.decode n

def borrow (w : Worker σ ρ) (size : PictureSize) : Worker σ ρ × Buffer :=
  ({ w with pool := (w.pool.borrow size).1 }, (w.pool.borrow size).2)

def takeBack (w : Worker σ ρ) (b : Buffer) : Worker σ ρ := { w with pool := w.pool.release b }

def render [SubtitleRenderer ρ] (w : Worker σ ρ) (b : Buffer) (t : Int64)
    (lines : List SubtitleLine) : Attempt SubtitleError Unit × Pixels × Worker σ ρ :=
  let drawing := SubtitleRenderer.render b t lines w.renderer
  (drawing.result, drawing.pixels, { w with
    renderer := drawing.renderer
    calls := w.calls ++ [.render b.size t lines]
    counts := { w.counts with rendered := w.counts.rendered + 1 } })

def countFault (w : Worker σ ρ) : Worker σ ρ :=
  { w with counts := { w.counts with renderErrors := w.counts.renderErrors + 1 } }

def newFrame (w : Worker σ ρ) (n : UInt64) (t : Int64) (colorSpace : String) (hasSubtitles : Bool)
    (buffer : Buffer) : Frame where
  id := ⟨w.pipeline, w.framesMade⟩
  number := n
  time := t
  colorSpace
  hasSubtitles
  buffer

def finish [FrameSource σ] (w : Worker σ ρ) (n : UInt64) (t : Int64) (lines : List SubtitleLine)
    (fault : Option SubtitleError) (buffer : Buffer) :
    Attempt SourceError Rendered × Worker σ ρ :=
  match FrameSource.colorSpace w.source with
  | .error payload => (.panicked payload, w.takeBack buffer)
  | .ok colorSpace =>
    let frame := w.newFrame n t colorSpace (!lines.isEmpty && fault.isNone) buffer
    (.done ⟨frame, fault⟩, { w with
      framesMade := w.framesMade + 1
      lastRender :=
        if clean : fault.isNone then some ⟨lines, frame, by simp [frame, newFrame, clean]⟩
        else w.lastRender })

/-- Makes a frame of a picture and lines. Whatever a renderer drew before it failed is painted
over; if it panics, the buffer goes back to the pool. -/
def draw [FrameSource σ] [SubtitleRenderer ρ] (w : Worker σ ρ) (n : UInt64) (t : Int64)
    (lines : List SubtitleLine) (p : Picture) : Attempt SourceError Rendered × Worker σ ρ :=
  let (w, blank) := w.borrow ⟨p.width, p.height⟩
  let buffer : Buffer := { blank with data := p.copyInto blank.data }
  if lines.isEmpty then w.finish n t lines none buffer
  else
    match w.render buffer t lines with
    | (.done (), pixels, w) => w.finish n t lines none { buffer with data := pixels }
    | (.refused fault, pixels, w) =>
      w.countFault.finish n t lines (some fault) { buffer with data := p.copyInto pixels }
    | (.panicked payload, pixels, w) =>
      (.panicked payload, w.takeBack { buffer with data := pixels })

def lines (w : Worker σ ρ) (t : Int64) (withSubtitles : Bool) : List SubtitleLine :=
  if withSubtitles then w.script.visibleAt t else []

def produce [FrameSource σ] [SubtitleRenderer ρ] (w : Worker σ ρ) (n : UInt64) (t : Int64)
    (withSubtitles : Bool) : Attempt SourceError Rendered × Worker σ ρ :=
  let lines := w.lines t withSubtitles
  let w := { w with counts := { w.counts with computed := w.counts.computed + 1 } }
  match w.renderedBefore? n t lines with
  | some frame =>
    (.done ⟨frame, none⟩,
      { w with counts := { w.counts with renderReused := w.counts.renderReused + 1 } })
  | none =>
    if w.frameCount ≤ n then (.refused (.outOfRange n w.frameCount), w)
    else
      match w.picture n with
      | (.done p, w) => w.draw n t lines p
      | (.refused e, w) => (.refused e, w)
      | (.panicked payload, w) => (.panicked payload, w)

def recolor [FrameSource σ] (w : Worker σ ρ) (matrix : String) :
    Option Payload × Worker σ ρ :=
  match FrameSource.setColorSpace matrix w.source with
  | (some payload, source) =>
    (some payload, { w with source, calls := w.calls ++ [.matrix matrix] })
  | (none, source) =>
    (none, { w with
      source
      calls := w.calls ++ [.matrix matrix]
      decoded := none
      lastRender := none })

def frames (w : Worker σ ρ) : List Frame := (w.lastRender.map (·.frame)).toList

end Worker
end VideoPreview
