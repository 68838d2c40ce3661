import VideoPreview.Dispatch.SerialQueue
import VideoPreview.Worker

/-!
A pipeline shows one open video. Every request gets a version at once and is computed by the
worker later, in the order of the requests. What a computation yields is handed over to the main
thread before the worker takes up the next one. Nothing is cancelled: a request that was overtaken
is computed and handed over all the same.
-/
namespace VideoPreview

inductive Job where
  | display (frame : UInt64) (time : Int64) (version : Version)
  | rescript (script : Script) (version : Version)
  | recolor (matrix : String)
  | fetch (frame : UInt64) (time : Int64) (withSubtitles : Bool)
  | inspect
  deriving DecidableEq, Repr

inductive JobAnswer where
  | computed (outcome : Attempt SourceError Rendered)
  | inspected (counts : Counts) (pool : PoolStats)
  deriving DecidableEq, Repr

def JobAnswer.frame? : JobAnswer → Option Frame
  | computed (.done rendered) => some rendered.frame
  | _ => none

inductive Handover where
  | deliver (events : List Event)
  | surface (failure : Failure)
  deriving DecidableEq, Repr

namespace Handover

def ofOutcome (n : UInt64) (v : Version) : Attempt SourceError Rendered → Handover
  | .done ⟨frame, none⟩ => deliver [.frameReady frame v]
  | .done ⟨frame, some fault⟩ =>
    deliver [.renderError (.ofSubtitleError fault n v), .frameReady frame v]
  | .refused e => deliver [.decodeError (.ofSourceError e n v)]
  | .panicked payload => surface (.ofPanic payload)

def events : Handover → List Event
  | deliver events => events
  | surface _ => []

def frames (h : Handover) : List Frame := h.events.filterMap Event.frame?

end Handover

inductive Yield where
  | nothing
  | handover (h : Handover)
  | answer (a : JobAnswer)
  deriving DecidableEq, Repr

def Counts.account (c : Counts) (current v : Version) :
    Attempt SourceError Rendered → Counts
  | .panicked _ => c
  | .refused _ => { c with
      superseded := if current ≠ v then c.superseded + 1 else c.superseded
      decodeErrors := c.decodeErrors + 1 }
  | .done _ => { c with superseded := if current ≠ v then c.superseded + 1 else c.superseded }

namespace Worker

variable {σ ρ : Type}

def queueLabel : String := "serial"

def processLog (current v : Version) : Handover → List LogEntry
  | .surface failure => [.surfacing queueLabel failure.message]
  | .deliver events =>
    (events.filterMap Event.error?).map ErrorEvent.logEntry
      ++ if current ≠ v then
        [⟨.trace, "delivering superseded result", [
          ("version", v.text),
          ("current", current.text)]⟩]
      else []

def process [FrameSource σ] [SubtitleRenderer ρ] (w : Worker σ ρ) (current : Version)
    (n : UInt64) (t : Int64) (v : Version) : Yield × Worker σ ρ × List LogEntry :=
  let (outcome, w) := w.produce n t true
  let handover := Handover.ofOutcome n v outcome
  (.handover handover, { w with counts := w.counts.account current v outcome },
    processLog current v handover)

def carryOut [FrameSource σ] [SubtitleRenderer ρ] (w : Worker σ ρ) (current : Version) :
    Job → Yield × Worker σ ρ × List LogEntry
  | .display n t v => { w with position := some (n, t) }.process current n t v
  | .rescript script v =>
    match w.position with
    | some (n, t) => { w with script }.process current n t v
    | none => (.nothing, { w with script }, [])
  | .recolor matrix =>
    match w.recolor matrix with
    | (none, w) => (.nothing, w, [])
    | (some payload, w) =>
      let failure := Failure.ofPanic payload
      (.handover (.surface failure), w, [.surfacing queueLabel failure.message])
  | .fetch n t withSubtitles =>
    let (outcome, w) := w.produce n t withSubtitles
    (.answer (.computed outcome), w, [])
  | .inspect => (.answer (.inspected w.counts w.pool.stats), w, [])

end Worker

structure Pipeline (σ ρ : Type) where
  id : Nat
  queue : SerialQueue Job
  worker : Worker σ ρ
  version : Version
  path : String
  info : StreamInfo
  colorSpace : String
  viewer : Nat
  handover : Option Handover
  answers : List JobAnswer

namespace Pipeline

variable {σ ρ : Type}

def fault? (path : String) (info : StreamInfo) : Option SourceError :=
  if info.rate.isValid then none
  else some (.unopenable path s!"invalid frame rate {info.rate.num}/{info.rate.den}")

def start [FrameSource σ] (id : Nat) (queue path : String) (source : σ) (renderer : ρ)
    (viewer : Nat) (options : PipelineOptions) : Pipeline σ ρ where
  id
  queue := .start queue
  worker := .start id source renderer (FrameSource.info source).frameCount options
  version := .none
  path
  info := FrameSource.info source
  colorSpace := (FrameSource.info source).colorSpace
  viewer
  handover := none
  answers := []

def startLog (p : Pipeline σ ρ) : List LogEntry := [
  .queueStarted p.queue.name,
  ⟨.debug, "frame pipeline opened", [
    ("frames", toString p.info.frameCount),
    ("width", toString p.info.width),
    ("height", toString p.info.height),
    ("decoder", p.info.decoderName),
    ("queue", p.queue.name)]⟩]

def isOpen (p : Pipeline σ ρ) : Bool := p.queue.isOpen

def submit (p : Pipeline σ ρ) (job : Job) : Pipeline σ ρ := { p with queue := p.queue.submit job }

def bump (p : Pipeline σ ρ) : Pipeline σ ρ := { p with version := p.version.next }

def requestFrame (p : Pipeline σ ρ) (n : UInt64) (t : Int64) : Pipeline σ ρ :=
  p.bump.submit (.display n t p.version.next)

/-- Once its thread is gone a queue that is still open drops what it is given. -/
def lossLog (p : Pipeline σ ρ) : List LogEntry :=
  if p.queue.accepts then [] else [.workDropped p.queue.name]

def requestLog (p : Pipeline σ ρ) (n : UInt64) (t : Int64) : List LogEntry :=
  ⟨.trace, "frame requested", [
    ("frame", toString n),
    ("time_ms", toString t),
    ("version", p.version.next.text)]⟩ :: p.lossLog

def updateSubtitles (p : Pipeline σ ρ) (script : Script) : Pipeline σ ρ :=
  p.bump.submit (.rescript script p.version.next)

def updateLog (p : Pipeline σ ρ) (script : Script) : List LogEntry :=
  ⟨.debug, "subtitles updated", [
    ("lines", toString script.length),
    ("version", p.version.next.text)]⟩ :: p.lossLog

def setColorSpace (p : Pipeline σ ρ) (matrix : String) : Pipeline σ ρ :=
  { p.bump with colorSpace := matrix }.submit (.recolor matrix)

def recolorLog (p : Pipeline σ ρ) (matrix : String) : List LogEntry :=
  ⟨.debug, "color space change requested", [
    ("matrix", matrix),
    ("version", p.version.next.text)]⟩ :: p.lossLog

def requestFetch (p : Pipeline σ ρ) (n : UInt64) (t : Int64) (withSubtitles : Bool) :
    Pipeline σ ρ :=
  p.submit (.fetch n t withSubtitles)

def requestInspection (p : Pipeline σ ρ) : Pipeline σ ρ := p.submit .inspect

def gain (p : Pipeline σ ρ) : Yield → Pipeline σ ρ
  | .nothing => p
  | .handover h => { p with handover := some h }
  | .answer a => { p with answers := p.answers ++ [a] }

def perform [FrameSource σ] [SubtitleRenderer ρ] (p : Pipeline σ ρ) (job : Job) :
    Pipeline σ ρ × List LogEntry :=
  let (yield, worker, log) := p.worker.carryOut p.version job
  ({ p with worker }.gain yield, log)

def compute [FrameSource σ] [SubtitleRenderer ρ] (p : Pipeline σ ρ) :
    Pipeline σ ρ × List LogEntry :=
  match p.handover, p.queue.take? with
  | none, some (job, queue) => { p with queue }.perform job
  | _, _ => (p, [])

def desert (p : Pipeline σ ρ) : Pipeline σ ρ := { p with queue := p.queue.desert }

def relieved (p : Pipeline σ ρ) : Pipeline σ ρ := { p with handover := none }

def takeBack (p : Pipeline σ ρ) (b : Buffer) : Pipeline σ ρ :=
  { p with worker := p.worker.takeBack b }

def remaining (p : Pipeline σ ρ) : Nat :=
  2 * p.queue.backlog.length + if p.handover.isSome then 1 else 0

def takeAnswer? (p : Pipeline σ ρ) : Option (JobAnswer × Pipeline σ ρ) :=
  match p.answers with
  | [] => none
  | a :: rest => some (a, { p with answers := rest })

def shut (p : Pipeline σ ρ) : Pipeline σ ρ where
  id := p.id
  queue := p.queue.close
  worker := { p.worker with decoded := none, lastRender := none }
  version := p.version
  path := p.path
  info := p.info
  colorSpace := p.colorSpace
  viewer := p.viewer
  handover := p.handover
  answers := p.answers

def drainLog (p : Pipeline σ ρ) : List LogEntry :=
  if p.queue.isServed then []
  else [⟨.warn, "frame pipeline drain failed",
    [("failure", (Failure.abandoned Worker.queueLabel).message)]⟩]

def shutLog (p : Pipeline σ ρ) : List LogEntry :=
  p.drainLog
    ++ [⟨.debug, "frame pipeline closed", [("path", p.path), ("version", p.version.text)]⟩]
    ++ (if p.queue.isServed then [] else [.workerPanicked p.queue.name])
    ++ [.queueStopped p.queue.name]

def frames (p : Pipeline σ ρ) : List Frame :=
  p.worker.frames
    ++ (p.handover.map Handover.frames).getD []
    ++ p.answers.filterMap JobAnswer.frame?

def counts (p : Pipeline σ ρ) : Counts := p.worker.counts

def poolStats (p : Pipeline σ ρ) : PoolStats := p.worker.pool.stats

def diagnostic (p : Pipeline σ ρ) : String :=
  "FramePipeline \x7b path: " ++ Text.quoted p.path
    ++ ", version: Version(" ++ toString p.version.number
    ++ "), color_space: " ++ Text.quoted p.colorSpace ++ " \x7d"

end Pipeline
end VideoPreview
