import VideoPreview.Controller
import VideoPreview.Dispatch.Context
import VideoPreview.Dispatch.MainLoop
import VideoPreview.Viewer

/-!
A session: open videos, the viewers they are shown to, the main loop between them and everybody who
holds a rendered frame. The buffer of a frame goes back to its pipeline's pool when the last one
lets go of it.
-/
namespace VideoPreview

inductive MainTask where
  | deliver (viewer : Nat) (events : List Event)
  | handle (failure : Failure)
  deriving DecidableEq, Repr

def MainTask.frames : MainTask → List Frame
  | deliver _ events => events.filterMap Event.frame?
  | handle _ => []

def Handover.task (viewer : Nat) : Handover → MainTask
  | deliver events => .deliver viewer events
  | surface failure => .handle failure

structure Session (σ ρ τ : Type) where
  trampoline : Trampoline
  handling : FailureHandling
  options : DispatchOptions
  queuesAsked : Nat
  pipelinesMade : Nat
  controller : Controller σ ρ
  others : List (Pipeline σ ρ)
  viewers : List τ
  pending : List MainTask
  kept : List (String × Frame)
  /-- Pipelines whose worker stops before it hands anything over. -/
  paused : List Nat
  log : List LogEntry
  heard : List (Nat × Event)
  failures : List Failure

namespace Session

variable {σ ρ τ : Type}

def start (trampoline : Trampoline) (handling : FailureHandling) (options : DispatchOptions) :
    Except DispatchError (Session σ ρ τ) :=
  match options.fault? with
  | some e => .error e
  | none => .ok {
      trampoline
      handling
      options
      queuesAsked := 0
      pipelinesMade := 0
      controller := .start .default
      others := []
      viewers := []
      pending := []
      kept := []
      paused := []
      log := [options.readyEntry]
      heard := []
      failures := [] }

def note (s : Session σ ρ τ) (entries : List LogEntry) : Session σ ρ τ :=
  { s with log := s.log ++ entries }

def pipelines (s : Session σ ρ τ) : List (Pipeline σ ρ) :=
  s.controller.pipeline.toList ++ s.others

def pipeline? (s : Session σ ρ τ) (id : Nat) : Option (Pipeline σ ρ) :=
  s.pipelines.find? (·.id = id)

def openPipeline? (s : Session σ ρ τ) (id : Nat) : Option (Pipeline σ ρ) :=
  (s.pipeline? id).filter (·.isOpen)

def put (s : Session σ ρ τ) (p : Pipeline σ ρ) : Session σ ρ τ :=
  let swap q := if q.id = p.id then p else q
  { s with
    controller := { s.controller with pipeline := s.controller.pipeline.map swap }
    others := s.others.map swap }

def frames [Viewer τ] (s : Session σ ρ τ) : List Frame :=
  s.pipelines.flatMap Pipeline.frames
    ++ s.viewers.flatMap Viewer.frames
    ++ s.pending.flatMap MainTask.frames
    ++ s.kept.map Prod.snd

def giveBack (s : Session σ ρ τ) (f : Frame) : Session σ ρ τ :=
  match s.openPipeline? f.id.pipeline with
  | some p => s.put (p.takeBack f.buffer)
  | none => s

def reclaim [Viewer τ] (s : Session σ ρ τ) (released : List Frame) (waiting : List MainTask) :
    Session σ ρ τ :=
  let held := s.frames ++ waiting.flatMap MainTask.frames
  let free := released.filter fun f => held.all fun h => h.id ≠ f.id
  (free.eraseDupsBy fun a b => a.id = b.id).foldl giveBack s

/-! ### The main loop -/

def receive [Viewer τ] (viewer : Nat) : List Event → Session σ ρ τ → Session σ ρ τ × Option Payload
  | [], s => (s, none)
  | e :: rest, s =>
    match s.viewers[viewer]? with
    | none => (s, none)
    | some v =>
      let reception := Viewer.receive e v
      let s := { s with
        viewers := s.viewers.set viewer reception.state
        heard := s.heard ++ [(viewer, e)]
        log := s.log ++ reception.log }
      match reception.panic with
      | some payload => (s, some payload)
      | none => receive viewer rest s

def viewerFrames [Viewer τ] (s : Session σ ρ τ) (viewer : Nat) : List Frame :=
  (s.viewers[viewer]?.map Viewer.frames).getD []

def handle (s : Session σ ρ τ) (failure : Failure) : Session σ ρ τ :=
  match s.handling with
  | .log => s.note [.unhandled failure.message]
  | _ => { s with failures := s.failures ++ [failure] }

def thrown? (s : Session σ ρ τ) (failure : Failure) : Option Payload :=
  s.handling.thrown? s.failures failure

def runTask [Viewer τ] (task : MainTask) (waiting : List MainTask) (s : Session σ ρ τ) :
    Turn MainTask (Session σ ρ τ) :=
  match task with
  | .handle failure => ⟨s.handle failure, [], s.thrown? failure⟩
  | .deliver viewer events =>
    match receive viewer events s with
    | (s', none) => ⟨s'.reclaim (task.frames ++ s.viewerFrames viewer) waiting, [], none⟩
    | (s', some payload) =>
      let failure := Failure.ofPanic payload
      ⟨(s'.reclaim (task.frames ++ s.viewerFrames viewer) waiting).note
          [.surfacing "main" failure.message],
        [.handle failure], none⟩

def taskWeight : MainTask → Nat
  | .deliver _ _ => 2
  | .handle _ => 1

theorem taskPostsLess [Viewer τ] (task : MainTask) (waiting : List MainTask)
    (s : Session σ ρ τ) :
    totalWeight taskWeight (runTask task waiting s).posted < taskWeight task := by
  cases task with
  | handle failure => simp [runTask, taskWeight]
  | deliver viewer events =>
    simp only [runTask]
    split <;> simp [taskWeight]

instance [Viewer τ] : MainItem MainTask (Session σ ρ τ) where
  run := runTask
  weight := taskWeight
  postsLess := taskPostsLess

def post [Viewer τ] (s : Session σ ρ τ) (task : MainTask) : Option Payload × Session σ ρ τ :=
  match s.trampoline with
  | .pump => (none, { s with pending := s.pending ++ [task] })
  | .inline =>
    let (s, thrown) := MainLoop.runInline [task] s
    (thrown, s)

def pump [Viewer τ] (s : Session σ ρ τ) : Except Payload Nat × Session σ ρ τ :=
  let drained := MainLoop.runPending s.pending { s with pending := [] }
  (drained.answer.map fun _ => drained.ran, { drained.state with pending := drained.pending })

/-! ### Workers -/

variable [FrameSource σ] [SubtitleRenderer ρ] [Viewer τ]

def desert (s : Session σ ρ τ) (id : Nat) : Session σ ρ τ :=
  match s.pipeline? id with
  | none => s
  | some p => s.put p.desert

/-- A panic of the failure handler on the thread of a worker. It makes the job that was handing over
fail, which is a failure like any other; while a failure is handled, the thread ends. -/
def unwind (s : Session σ ρ τ) (id : Nat) (payload : Payload) : Handover → Session σ ρ τ
  | .surface _ => s.desert id
  | .deliver _ =>
    let failure := Failure.ofPanic payload
    match (s.note [.surfacing Worker.queueLabel failure.message]).post (.handle failure) with
    | (none, s) => s
    | (some _, s) => s.desert id

def handOver (s : Session σ ρ τ) (p : Pipeline σ ρ) (h : Handover) : Session σ ρ τ :=
  match (s.put p.relieved).post (h.task p.viewer) with
  | (none, s) => s
  | (some payload, s) => s.unwind p.id payload h

def work (s : Session σ ρ τ) (id : Nat) : Session σ ρ τ :=
  match s.pipeline? id with
  | none => s
  | some p =>
    match p.handover with
    | some h => s.handOver p h
    | none =>
      let (p', log) := p.compute
      ((s.put p').note log).reclaim p.frames []

def isStopped (s : Session σ ρ τ) (p : Pipeline σ ρ) : Bool :=
  s.paused.contains p.id && p.handover.isSome

def advance (id : Nat) (s : Session σ ρ τ) : Session σ ρ τ :=
  match s.pipeline? id with
  | none => s
  | some p => if s.isStopped p then s else s.work id

def drain (s : Session σ ρ τ) (id : Nat) : Session σ ρ τ :=
  match s.pipeline? id with
  | none => s
  | some p => Nat.repeat (advance id) p.remaining s

def settle (s : Session σ ρ τ) : Session σ ρ τ :=
  s.pipelines.foldl (fun s p => s.drain p.id) s

def pause (s : Session σ ρ τ) (id : Nat) : Session σ ρ τ :=
  if s.paused.contains id then s else { s with paused := id :: s.paused }

def resume (s : Session σ ρ τ) (id : Nat) : Session σ ρ τ :=
  { s with paused := s.paused.filter (· ≠ id) }.drain id

def addViewer (s : Session σ ρ τ) (v : τ) : Nat × Session σ ρ τ :=
  (s.viewers.length, { s with viewers := s.viewers ++ [v] })

def openPipeline (s : Session σ ρ τ) (path : String) (stream : Except SourceError σ) (renderer : ρ)
    (viewer : Nat) (options : PipelineOptions) : Attempt PreviewError Nat × Session σ ρ τ :=
  match stream with
  | .error e => (.refused (.source e), s)
  | .ok source =>
    match Pipeline.fault? path (FrameSource.info source) with
    | some e => (.refused (.source e), s)
    | none =>
      let name := s.options.queueName s.queuesAsked
      let s := { s with queuesAsked := s.queuesAsked + 1 }
      match SerialQueue.nameFault? name with
      | some payload => (.panicked payload, s)
      | none =>
        let p := Pipeline.start s.pipelinesMade name path source renderer viewer options
        (.done p.id, { s with
          others := s.others ++ [p]
          pipelinesMade := s.pipelinesMade + 1
          log := s.log ++ p.startLog })

def display (s : Session σ ρ τ) (id : Option Nat) : Option Nat × Session σ ρ τ :=
  let chosen := id.bind fun id => s.others.find? fun p => p.id = id ∧ p.isOpen
  let (controller, before) := s.controller.setPipeline chosen
  let others := s.others.filter fun p => chosen.all fun q => p.id ≠ q.id
  (before.map (·.id),
    { s with controller, others := others ++ before.toList }.note controller.replacedLog)

def withdraw (s : Session σ ρ τ) (id : Nat) : Session σ ρ τ :=
  if s.controller.pipeline.any (·.id = id) then (s.display none).2 else s

def close (s : Session σ ρ τ) (id : Nat) : Session σ ρ τ :=
  match (s.resume id).openPipeline? id with
  | none => s
  | some p =>
    let s := ((((s.resume id).withdraw id).put p.bump).note p.lossLog).drain id
    match s.pipeline? id with
    | none => s
    | some p => (s.put p.shut).note p.shutLog

def request (s : Session σ ρ τ) (p : Pipeline σ ρ) (n : UInt64) (t : Int64) : Session σ ρ τ :=
  (s.put (p.requestFrame n t)).note (p.requestLog n t)

def updateSubtitles (s : Session σ ρ τ) (p : Pipeline σ ρ) (script : Script) : Session σ ρ τ :=
  (s.put (p.updateSubtitles script)).note (p.updateLog script)

def setColorSpace (s : Session σ ρ τ) (p : Pipeline σ ρ) (matrix : String) : Session σ ρ τ :=
  (s.put (p.setColorSpace matrix)).note (p.recolorLog matrix)

def fetched : Attempt SourceError Rendered → Except PreviewError Frame
  | .done ⟨frame, none⟩ => .ok frame
  | .done ⟨_, some fault⟩ => .error (.subtitle fault)
  | .refused e => .error (.source e)
  | .panicked payload => .error (.work (.ofPanic payload))

def keep (s : Session σ ρ τ) (name : String) (frame : Frame) : Session σ ρ τ :=
  let before := (s.kept.filter (·.1 = name)).map Prod.snd
  { s with kept := (name, frame) :: s.kept.filter (·.1 ≠ name) }.reclaim before []

def collect (s : Session σ ρ τ) (outcome : Attempt SourceError Rendered) (name : Option String) :
    Except PreviewError Frame × Session σ ρ τ :=
  match outcome, fetched outcome with
  | .done rendered, .error e => (.error e, s.reclaim [rendered.frame] [])
  | _, .error e => (.error e, s)
  | _, .ok frame =>
    match name with
    | none => (.ok frame, s.reclaim [frame] [])
    | some name => (.ok frame, s.keep name frame)

def fetch (s : Session σ ρ τ) (id : Nat) (n : UInt64) (t : Int64) (withSubtitles : Bool)
    (name : Option String) : Except PreviewError Frame × Session σ ρ τ :=
  let abandoned := .error (.work (.abandoned Worker.queueLabel))
  match (s.resume id).openPipeline? id with
  | none => (abandoned, s)
  | some p =>
    let s := (((s.resume id).put (p.requestFetch n t withSubtitles)).note p.lossLog).drain id
    match (s.pipeline? id).bind Pipeline.takeAnswer? with
    | some (.computed outcome, p') => (s.put p').collect outcome name
    | _ => (abandoned, s)

def inspect (s : Session σ ρ τ) (id : Nat) :
    Except PreviewError (Counts × PoolStats) × Session σ ρ τ :=
  let abandoned := .error (.work (.abandoned Worker.queueLabel))
  match (s.resume id).openPipeline? id with
  | none => (abandoned, s)
  | some p =>
    let s := (((s.resume id).put p.requestInspection).note p.lossLog).drain id
    match (s.pipeline? id).bind Pipeline.takeAnswer? with
    | some (.inspected counts pool, p') => (.ok (counts, pool), s.put p')
    | _ => (abandoned, s)

def kept? (s : Session σ ρ τ) (name : String) : Option Frame :=
  (s.kept.find? (·.1 = name)).map Prod.snd

def discard (s : Session σ ρ τ) (name : String) : Session σ ρ τ :=
  let before := (s.kept.filter (·.1 = name)).map Prod.snd
  { s with kept := s.kept.filter (·.1 ≠ name) }.reclaim before []

def follow (s : Session σ ρ τ) (reply : Controller.Reply σ ρ) :
    Option Version × Session σ ρ τ :=
  (reply.version, { s with controller := reply.controller }.note reply.log)

def replaceController (s : Session σ ρ τ) (options : ControllerOptions) : Session σ ρ τ :=
  let before := s.controller.pipeline
  let s := { s with controller := .start options, others := s.others ++ before.toList }
  before.elim s fun p => s.close p.id

end Session
end VideoPreview
