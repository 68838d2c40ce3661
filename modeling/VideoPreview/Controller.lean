import VideoPreview.AspectRatio
import VideoPreview.Pipeline

/-!
The controller owns the video on display. It follows seeks, commits of the script and changes of
the active line, and asks the video's pipeline for what is to be shown. Without a video it does
nothing.
-/
namespace VideoPreview

structure Controller (σ ρ : Type) where
  pipeline : Option (Pipeline σ ρ)
  frame : UInt64
  colorMatrix : String
  aspect : AspectRatio
  aspectValue : Float
  options : ControllerOptions

namespace Controller

variable {σ ρ : Type}

def start (options : ControllerOptions) : Controller σ ρ := ⟨none, 0, "", .native, 1.0, options⟩

structure Reply (σ ρ : Type) where
  controller : Controller σ ρ
  version : Option Version
  log : List LogEntry

def unchanged (c : Controller σ ρ) : Reply σ ρ := ⟨c, none, []⟩

def setPipeline (c : Controller σ ρ) (p : Option (Pipeline σ ρ)) :
    Controller σ ρ × Option (Pipeline σ ρ) :=
  ({ c with
      pipeline := p
      frame := 0
      colorMatrix := (p.map (·.colorSpace)).getD "" },
    c.pipeline)

def replacedLog (c : Controller σ ρ) : List LogEntry :=
  [⟨.debug, "video pipeline replaced", [
    ("open", toString c.pipeline.isSome),
    ("color_matrix", c.colorMatrix)]⟩]

def lastFrame (info : StreamInfo) : UInt64 :=
  if info.frameCount = 0 then 0 else info.frameCount - 1

def nearestFrame (info : StreamInfo) (n : Int) : UInt64 :=
  UInt64.ofNat (min n.toNat (lastFrame info).toNat)

def jumpToFrame (c : Controller σ ρ) (n : Int64) : Reply σ ρ :=
  match c.pipeline with
  | none => c.unchanged
  | some p =>
    let frame := nearestFrame p.info n.toInt
    let time := p.info.rate.timeOfFrame frame
    ⟨{ c with frame, pipeline := some (p.requestFrame frame time) }, some p.version.next,
      p.requestLog frame time⟩

def target (frame : UInt64) : Int64 := Int64.ofNat (min frame.toNat Int64.maxValue.toInt.toNat)

def jumpToTime (c : Controller σ ρ) (ms : Int64) : Reply σ ρ :=
  match c.pipeline with
  | none => c.unchanged
  | some p => c.jumpToFrame (target (p.info.rate.frameAt ms))

def jumpToStartTime (c : Controller σ ρ) (ms : Int64) : Reply σ ρ :=
  match c.pipeline with
  | none => c.unchanged
  | some p => c.jumpToFrame (target (p.info.rate.firstFrameFrom ms))

def timeOfFrame? (c : Controller σ ρ) (frame : UInt64) : Option Int64 :=
  c.pipeline.map fun p => p.info.rate.timeOfFrame frame

def frameAt? (c : Controller σ ρ) (ms : Int64) : Option UInt64 :=
  c.pipeline.map fun p => p.info.rate.frameAt ms

def commitScriptInfo (c : Controller σ ρ) (matrix : String) : Reply σ ρ :=
  match c.pipeline with
  | none => c.unchanged
  | some p =>
    if matrix = "" ∨ matrix = c.colorMatrix then c.unchanged
    else
      ⟨{ c with colorMatrix := matrix, pipeline := some (p.setColorSpace matrix) },
        some p.version.next, p.recolorLog matrix⟩

def commitSubtitles (c : Controller σ ρ) (script : Script) : Reply σ ρ :=
  match c.pipeline with
  | none => c.unchanged
  | some p =>
    ⟨{ c with pipeline := some (p.updateSubtitles script) }, some p.version.next,
      p.updateLog script⟩

def activateLine (c : Controller σ ρ) : Option SubtitleLine → Reply σ ρ
  | some line =>
    if c.options.subtitleSync then c.jumpToStartTime line.start else c.unchanged
  | none => c.unchanged

def setAspect (c : Controller σ ρ) (mode : AspectRatio) : Controller σ ρ :=
  match mode.ratio? (c.pipeline.map fun p => (p.info.width, p.info.height)) with
  | some x =>
    if x.isFinite then { c with aspect := mode, aspectValue := AspectRatio.clamp x } else c
  | none => c

end Controller
end VideoPreview
