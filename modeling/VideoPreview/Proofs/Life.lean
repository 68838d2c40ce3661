import Mathlib.Data.List.Induction
import VideoPreview.Dispatch.Context
import VideoPreview.Dispatch.MainLoop
import VideoPreview.Pipeline
import VideoPreview.Proofs.Run

/-! The life of a pipeline. Whoever asks it for something, its worker, the main thread that takes
what is handed over, those who wait for answers, and everybody who lets go of a frame take turns in
any order, until the owner closes it. Whatever the order, the worker does the jobs one after the
other as they were asked for: `Worked` is the worker's own view of any such life. Its thread may end
before it has done them all, if the failure handler runs on it and panics. -/
namespace VideoPreview

inductive Request where
  | display (frame : UInt64) (time : Int64)
  | rescript (script : Script)
  | recolor (matrix : String)
  | fetch (frame : UInt64) (time : Int64) (withSubtitles : Bool)
  | inspect
  deriving DecidableEq, Repr

namespace Request

def isNumbered : Request → Bool
  | display _ _ => true
  | rescript _ => true
  | recolor _ => true
  | fetch _ _ _ => false
  | inspect => false

/-! What is in force once all of some requests, the oldest first, were made. -/

def matrices (made : List Request) : List String :=
  made.filterMap fun
    | recolor matrix => some matrix
    | _ => none

def script (made : List Request) : Script :=
  made.foldl (fun script q => match q with | rescript s => s | _ => script) []

def position (made : List Request) : Option (UInt64 × Int64) :=
  made.foldl (fun position q => match q with | display n t => some (n, t) | _ => position) none

def numbered (made : List Request) : Nat := made.countP isNumbered

def version (made : List Request) : Version := ⟨.ofNat (numbered made)⟩

def each (f : List Request → Request → List β) : List Request → List Request → List β :=
  seen (fun made q => made ++ [q]) (fun made q => f (made ++ [q]) q)

@[simp]
theorem eachSnoc (f : List Request → Request → List β) (made more : List Request) (q : Request) :
    each f made (more ++ [q]) = each f made more ++ f (made ++ more ++ [q]) q := by
  simp [each, playCollect]

theorem eachCons (f : List Request → Request → List β) (made rest : List Request) (q : Request) :
    each f made (q :: rest) = f (made ++ [q]) q ++ each f (made ++ [q]) rest := rfl

/-- The job that a request becomes; `made` ends with the request itself. -/
def job (made : List Request) : Request → Job
  | display n t => .display n t (version made)
  | rescript script => .rescript script (version made)
  | recolor matrix => .recolor matrix
  | fetch n t withSubtitles => .fetch n t withSubtitles
  | inspect => .inspect

def jobs : List Request → List Request → List Job := each fun made q => [job made q]

theorem jobsLength (made more : List Request) : (jobs made more).length = more.length := by
  induction more generalizing made with
  | nil => rfl
  | cons q rest ih => simp [jobs, eachCons, ← ih (made ++ [q])]

theorem matricesSnoc (made : List Request) (q : Request) :
    matrices (made ++ [q]) = matrices made ++ matrices [q] := by
  simp [matrices]

theorem scriptSnoc (made : List Request) (q : Request) :
    script (made ++ [q]) = match q with | rescript s => s | _ => script made := by
  simp [script]

theorem positionSnoc (made : List Request) (q : Request) :
    position (made ++ [q]) = match q with | display n t => some (n, t) | _ => position made := by
  simp [position]

theorem versionSnoc (made : List Request) (q : Request) :
    version (made ++ [q]) = if q.isNumbered then (version made).next else version made := by
  unfold version numbered Version.next
  cases h : q.isNumbered <;> simp [h]

end Request

variable {σ ρ : Type}

namespace Pipeline

def ask (p : Pipeline σ ρ) : Request → Pipeline σ ρ
  | .display n t => p.requestFrame n t
  | .rescript script => p.updateSubtitles script
  | .recolor matrix => p.setColorSpace matrix
  | .fetch n t withSubtitles => p.requestFetch n t withSubtitles
  | .inspect => p.requestInspection

@[simp] theorem askId (p : Pipeline σ ρ) (q : Request) : (p.ask q).id = p.id := by
  cases q <;> rfl

@[simp] theorem askViewer (p : Pipeline σ ρ) (q : Request) : (p.ask q).viewer = p.viewer := by
  cases q <;> rfl

@[simp] theorem askWorker (p : Pipeline σ ρ) (q : Request) : (p.ask q).worker = p.worker := by
  cases q <;> rfl

@[simp] theorem askHandover (p : Pipeline σ ρ) (q : Request) :
    (p.ask q).handover = p.handover := by
  cases q <;> rfl

@[simp] theorem askAnswers (p : Pipeline σ ρ) (q : Request) : (p.ask q).answers = p.answers := by
  cases q <;> rfl

theorem askVersion (p : Pipeline σ ρ) (q : Request) {made : List Request}
    (version : p.version = Request.version made) :
    (p.ask q).version = Request.version (made ++ [q]) := by
  rw [Request.versionSnoc, ← version]
  cases q <;> rfl

@[simp] theorem askIsOpen (p : Pipeline σ ρ) (q : Request) : (p.ask q).isOpen = p.isOpen := by
  cases q <;> exact SerialQueue.submitIsOpen ..

@[simp] theorem askServed (p : Pipeline σ ρ) (q : Request) :
    (p.ask q).queue.isServed = p.queue.isServed := by
  cases q <;> exact SerialQueue.submitIsServed ..

theorem askQueue {p : Pipeline σ ρ} {made : List Request} (q : Request)
    (accepts : p.queue.accepts = true) (version : p.version = Request.version made) :
    (p.ask q).queue.backlog = p.queue.backlog ++ [Request.job (made ++ [q]) q] := by
  have accepted := SerialQueue.submitBacklog accepts
  have next := Request.versionSnoc made q
  cases q <;>
    simp_all [ask, requestFrame, updateSubtitles, setColorSpace, requestFetch, requestInspection,
      submit, bump, Request.job, Request.isNumbered]

theorem askLost {p : Pipeline σ ρ} (q : Request) (refuses : p.queue.accepts = false) :
    (p.ask q).queue = p.queue := by
  have lost (job : Job) : p.queue.submit job = p.queue := SerialQueue.submitClosed refuses job
  cases q <;> exact lost _

theorem idleRests {p : Pipeline σ ρ} {done waiting : List Request}
    (backlog : p.queue.backlog = Request.jobs done waiting) (idle : p.remaining = 0) :
    waiting = [] ∧ p.handover = none := by
  unfold remaining at idle
  have empty : p.queue.backlog.length = 0 := by omega
  rw [backlog, Request.jobsLength] at empty
  refine ⟨List.length_eq_zero_iff.mp empty, ?_⟩
  cases held : p.handover with
  | none => rfl
  | some h => simp [held] at idle

inductive Move where
  | ask (q : Request)
  | compute
  /-- The viewer may crash on what it is given. The handler has heard of other failures before. -/
  | handOver (crash : Option Payload) (heard : List Failure)
  | pickUp
  | letGo (b : Buffer)
  | close
  | shut

def Move.isWorkers : Move → Bool
  | compute => true
  | handOver _ _ => true
  | shut => true
  | _ => false

end Pipeline

structure Life (σ ρ : Type) where
  trampoline : Trampoline
  handling : FailureHandling
  pipeline : Pipeline σ ρ
  closing : Bool

namespace Life

open Pipeline (Move)

def begin (trampoline : Trampoline) (handling : FailureHandling) (p : Pipeline σ ρ) : Life σ ρ :=
  ⟨trampoline, handling, p, false⟩

def thrown? (l : Life σ ρ) (heard : List Failure) (failure : Failure) : Option Payload :=
  match l.trampoline with
  | .pump => none
  | .inline => l.handling.thrown? heard failure

/-- A handler that panics while it is told of a crashed viewer makes the job fail, of which it is
told too. Only a panic while a failure of the job is handled ends the thread. -/
def topples (l : Life σ ρ) (crash : Option Payload) (heard : List Failure) : Handover → Bool
  | .surface failure => (l.thrown? heard failure).isSome
  | .deliver _ => Option.isSome do
    let failure ← crash.map Failure.ofPanic
    let payload ← l.thrown? heard failure
    l.thrown? (heard ++ [failure]) (.ofPanic payload)

def handOver (l : Life σ ρ) (crash : Option Payload) (heard : List Failure) : Pipeline σ ρ :=
  if l.pipeline.handover.any (l.topples crash heard) then l.pipeline.relieved.desert
  else l.pipeline.relieved

def takes (l : Life σ ρ) : Move → List Request
  | .ask q => if l.closing then [] else [q]
  | _ => []

def step [FrameSource σ] [SubtitleRenderer ρ] (l : Life σ ρ) (m : Move) : Life σ ρ :=
  match m with
  | .ask q => if l.closing then l else { l with pipeline := l.pipeline.ask q }
  | .compute => { l with pipeline := l.pipeline.compute.1 }
  | .handOver crash heard => { l with pipeline := l.handOver crash heard }
  | .pickUp =>
    match l.pipeline.takeAnswer? with
    | some (_, p) => { l with pipeline := p }
    | none => l
  | .letGo b => { l with pipeline := l.pipeline.takeBack b }
  | .close => if l.closing then l else { l with pipeline := l.pipeline.bump, closing := true }
  | .shut =>
    if l.closing ∧ l.pipeline.remaining = 0 then { l with pipeline := l.pipeline.shut } else l

def taking (l : Life σ ρ) : Move → List Job
  | .compute => if l.pipeline.handover.isNone then l.pipeline.queue.backlog.head?.toList else []
  | _ => []

def handing (l : Life σ ρ) : Move → List Handover
  | .handOver _ _ => l.pipeline.handover.toList
  | _ => []

def answering (l : Life σ ρ) : Move → List JobAnswer
  | .pickUp => l.pipeline.answers.head?.toList
  | _ => []

def returning (l : Life σ ρ) : Move → List Version
  | .ask q => if q.isNumbered ∧ l.closing = false then [(l.pipeline.ask q).version] else []
  | _ => []

variable [FrameSource σ] [SubtitleRenderer ρ]

def run (l : Life σ ρ) (moves : List Move) : Life σ ρ := play step l moves

def asked (l : Life σ ρ) (moves : List Move) : List Request := seen step takes l moves

def returned (l : Life σ ρ) (moves : List Move) : List Version := seen step returning l moves

def handed (l : Life σ ρ) (moves : List Move) : List Handover := seen step handing l moves

def answered (l : Life σ ρ) (moves : List Move) : List JobAnswer := seen step answering l moves

def takenUp (l : Life σ ρ) (moves : List Move) : List Job := seen step taking l moves

def taken (l : Life σ ρ) (moves : List Move) : List Request :=
  (l.asked moves).take (l.takenUp moves).length

def handovers (l : Life σ ρ) (moves : List Move) : List Handover :=
  l.handed moves ++ (l.run moves).pipeline.handover.toList

def replies (l : Life σ ρ) (moves : List Move) : List JobAnswer :=
  l.answered moves ++ (l.run moves).pipeline.answers

end Life

namespace Yield

def handover? : Yield → Option Handover
  | handover h => some h
  | _ => none

def answer? : Yield → Option JobAnswer
  | answer a => some a
  | _ => none

theorem handoversSnoc (yields : List Yield) (y : Yield) :
    (yields ++ [y]).filterMap handover? = yields.filterMap handover? ++ y.handover?.toList := by
  rw [List.filterMap_append]
  cases y <;> rfl

theorem answersSnoc (yields : List Yield) (y : Yield) :
    (yields ++ [y]).filterMap answer? = yields.filterMap answer? ++ y.answer?.toList := by
  rw [List.filterMap_append]
  cases y <;> rfl

end Yield

namespace Worker

variable [FrameSource σ] [SubtitleRenderer ρ]

theorem rescriptIdle {w : Worker σ ρ} (shown : w.position = none) (current : Version)
    (script : Script) (v : Version) :
    w.carryOut current (.rescript script v) = (.nothing, { w with script }, []) := by
  cases w
  simp only at shown
  subst shown
  rfl

theorem rescriptBusy {w : Worker σ ρ} {last : UInt64 × Int64} (shown : w.position = some last)
    (current : Version) (script : Script) (v : Version) :
    w.carryOut current (.rescript script v) =
      { w with script }.process current last.1 last.2 v := by
  cases w
  simp only at shown
  subst shown
  rfl

theorem recolorDone {w : Worker σ ρ} {matrix : String} {source : σ}
    (set : FrameSource.setColorSpace matrix w.source = (none, source)) (current : Version) :
    w.carryOut current (.recolor matrix) = (.nothing,
      { w with source, calls := w.calls ++ [.matrix matrix], decoded := none, lastRender := none },
      []) := by
  simp [carryOut, recolor, set]

theorem recolorThrew {w : Worker σ ρ} {matrix : String} {source : σ} {payload : Payload}
    (set : FrameSource.setColorSpace matrix w.source = (some payload, source)) (current : Version) :
    w.carryOut current (.recolor matrix) = (.handover (.surface (.ofPanic payload)),
      { w with source, calls := w.calls ++ [.matrix matrix] },
      [.surfacing queueLabel (Failure.ofPanic payload).message]) := by
  simp [carryOut, recolor, set]

end Worker

namespace Pipeline

structure Advanced (before after : Pipeline σ ρ) (rest : List Job) (yield : Yield)
    (worker : Worker σ ρ) : Prop where
  backlog : after.queue.backlog = rest
  isOpen : after.isOpen = before.isOpen
  isServed : after.queue.isServed = before.queue.isServed
  worker : after.worker = worker
  version : after.version = before.version
  handover : after.handover = yield.handover?
  answers : after.answers = before.answers ++ yield.answer?.toList

variable [FrameSource σ] [SubtitleRenderer ρ]

theorem computeBusy {p : Pipeline σ ρ} {h : Handover} (busy : p.handover = some h) :
    p.compute.1 = p := by
  simp [compute, busy]

@[simp] theorem computeId (p : Pipeline σ ρ) : p.compute.1.id = p.id := by
  unfold compute perform
  split
  case h_1 =>
    simp only
    cases (p.worker.carryOut p.version _).1 <;> rfl
  case h_2 => rfl

@[simp] theorem computeViewer (p : Pipeline σ ρ) : p.compute.1.viewer = p.viewer := by
  unfold compute perform
  split
  case h_1 =>
    simp only
    cases (p.worker.carryOut p.version _).1 <;> rfl
  case h_2 => rfl

@[simp] theorem computeServed (p : Pipeline σ ρ) :
    p.compute.1.queue.isServed = p.queue.isServed := by
  unfold compute perform SerialQueue.take?
  split
  case h_1 next =>
    split at next <;> cases next
    simp only
    cases (p.worker.carryOut p.version _).1 <;> rfl
  case h_2 => rfl

theorem computeIdle {p : Pipeline σ ρ} (idle : p.queue.backlog = []) : p.compute.1 = p := by
  cases h : p.handover <;> simp [compute, h, SerialQueue.take?, idle]

theorem computeNext {p : Pipeline σ ρ} {job : Job} {rest : List Job} (free : p.handover = none)
    (next : p.queue.backlog = job :: rest) :
    Advanced p p.compute.1 rest (p.worker.carryOut p.version job).1
      (p.worker.carryOut p.version job).2.1 := by
  have same : p.compute.1 =
      { p with
        queue := { p.queue with backlog := rest }
        worker := (p.worker.carryOut p.version job).2.1 }.gain
          (p.worker.carryOut p.version job).1 := by
    simp [compute, free, SerialQueue.take?, next, perform]
  rw [same]
  cases (p.worker.carryOut p.version job).1 <;>
    constructor <;> simp [gain, isOpen, free, Yield.handover?, Yield.answer?]

end Pipeline

variable [FrameSource σ] [SubtitleRenderer ρ]

/-- What a worker has been through: it did a job for each of the requests, one after the other, and
each came to its yield. In between buffers came back to its pool, and it forgot what it held. -/
inductive Worked (first : Worker σ ρ) : List Request → List Yield → Worker σ ρ → Prop where
  | start : Worked first [] [] first
  | job {done yields w} (earlier : Worked first done yields w) (q : Request) (current : Version) :
      Worked first (done ++ [q])
        (yields ++ [(w.carryOut current (Request.job (done ++ [q]) q)).1])
        (w.carryOut current (Request.job (done ++ [q]) q)).2.1
  | letGo {done yields w} (earlier : Worked first done yields w) (b : Buffer) :
      Worked first done yields (w.takeBack b)
  | forget {done yields w} (earlier : Worked first done yields w) :
      Worked first done yields { w with decoded := none, lastRender := none }

namespace Life

open Pipeline (Move)

/-- The state of a life in which some requests were made, some jobs taken up, and some handovers and
answers came out. The requests in `done` were done with the given yields, and the others wait, or
are lost with the thread. -/
structure Course (first : Worker σ ρ) (made : List Request) (took : List Job) (out : List Handover)
    (replies : List JobAnswer) (done waiting lost : List Request) (yields : List Yield)
    (l : Life σ ρ) : Prop where
  made : made = done ++ waiting ++ lost
  took : took = Request.jobs [] done
  backlog : l.pipeline.queue.backlog = Request.jobs done waiting
  worked : Worked first done yields l.pipeline.worker
  handed : out ++ l.pipeline.handover.toList = yields.filterMap Yield.handover?
  answered : replies ++ l.pipeline.answers = yields.filterMap Yield.answer?
  version : l.pipeline.version =
    if l.closing then (Request.version (done ++ waiting ++ lost)).next
    else Request.version (done ++ waiting ++ lost)
  opened : l.closing = false → l.pipeline.isOpen = true
  ended : l.pipeline.isOpen = false → waiting = [] ∧ l.pipeline.handover = none
  served : l.pipeline.queue.isServed = true → lost = []
  deserted : l.pipeline.queue.isServed = false → waiting = []

variable {first : Worker σ ρ} {made : List Request} {took : List Job} {out : List Handover}
  {replies : List JobAnswer} {done waiting lost : List Request} {yields : List Yield} {l : Life σ ρ}

theorem courseAsk (course : Course first made took out replies done waiting lost yields l)
    (open' : l.closing = false) (q : Request) : ∃ waiting lost,
      Course first (made ++ [q]) took out replies done waiting lost yields
        { l with pipeline := l.pipeline.ask q } := by
  have version : l.pipeline.version = Request.version (done ++ waiting ++ lost) := by
    simpa only [open', Bool.false_eq_true, if_false] using course.version
  have isOpen := (l.pipeline.askIsOpen q).trans (course.opened open')
  have next := Pipeline.askVersion l.pipeline q version
  cases served : l.pipeline.queue.isServed with
  | true =>
    cases course.served served
    rw [List.append_nil] at version
    have accepts : l.pipeline.queue.accepts = true :=
      Bool.and_eq_true_iff.mpr ⟨course.opened open', served⟩
    refine ⟨waiting ++ [q], [], by simp [course.made], course.took, ?_,
      by simpa using course.worked, by simpa using course.handed,
      by simpa using course.answered, by simpa [open'] using next, fun _ => isOpen,
      fun shut => by simp [course.opened open'] at shut, fun _ => rfl,
      fun gone => by simp [served] at gone⟩
    rw [Pipeline.askQueue q accepts version, course.backlog, Request.jobs, Request.eachSnoc]
  | false =>
    have refuses : l.pipeline.queue.accepts = false := by simp [SerialQueue.accepts, served]
    refine ⟨waiting, lost ++ [q], by simp [course.made], course.took, ?_,
      by simpa using course.worked, by simpa using course.handed,
      by simpa using course.answered, by simpa [open'] using next, fun _ => isOpen,
      fun shut => by simp [course.opened open'] at shut, fun alive => by simp [served] at alive,
      fun _ => course.deserted served⟩
    rw [Pipeline.askLost q refuses]
    exact course.backlog

theorem courseCompute (course : Course first made took out replies done waiting lost yields l) :
    ∃ done waiting yields, Course first made (took ++ l.taking .compute) out replies done
      waiting lost yields { l with pipeline := l.pipeline.compute.1 } := by
  cases busy : l.pipeline.handover with
  | some h =>
    rw [Pipeline.computeBusy busy]
    exact ⟨done, waiting, yields, by simpa [taking, busy] using course⟩
  | none =>
    cases waiting with
    | nil =>
      have idle : l.pipeline.queue.backlog = [] := course.backlog
      rw [Pipeline.computeIdle idle]
      exact ⟨done, [], yields, by simpa [taking, busy, idle] using course⟩
    | cons q rest =>
      have next := Pipeline.computeNext busy course.backlog
      have worked := course.worked.job q l.pipeline.version
      have handed := course.handed
      have waits : l.pipeline.queue.backlog = _ :: _ := course.backlog
      simp only [busy, Option.toList_none, List.append_nil] at handed
      refine ⟨done ++ [q], rest, _, ?_, ?_, next.backlog, next.worker ▸ worked, ?_, ?_, ?_, ?_, ?_,
        ?_, ?_⟩
      · simpa using course.made
      · rw [Request.jobs, Request.eachSnoc, course.took]
        simp [taking, busy, waits, Request.jobs]
      · rw [Yield.handoversSnoc, ← handed, next.handover]
      · rw [Yield.answersSnoc, ← course.answered, next.answers, List.append_assoc]
      · simpa [next.version] using course.version
      · intro open'
        simpa [next.isOpen] using course.opened open'
      · intro shut
        rw [next.isOpen] at shut
        exact absurd (course.ended shut).1 (List.cons_ne_nil q rest)
      · intro served
        exact course.served (next.isServed ▸ served)
      · intro gone
        exact absurd (course.deserted (next.isServed ▸ gone)) (List.cons_ne_nil q rest)

theorem courseHandOver (course : Course first made took out replies done waiting lost yields l)
    (crash : Option Payload) (heard : List Failure) : ∃ waiting lost,
      Course first made took (out ++ l.pipeline.handover.toList) replies done waiting lost yields
        { l with pipeline := l.handOver crash heard } := by
  have handed : (out ++ l.pipeline.handover.toList) ++ (none : Option Handover).toList =
      yields.filterMap Yield.handover? := by
    simpa using course.handed
  unfold handOver
  split
  case isTrue topples =>
    have version := course.version
    rw [List.append_assoc] at version
    exact ⟨[], waiting ++ lost, by simp [course.made], course.took, rfl, course.worked, handed,
      course.answered, (List.append_nil done).symm ▸ version, course.opened, fun _ => ⟨rfl, rfl⟩,
      fun alive => (nomatch alive), fun _ => rfl⟩
  case isFalse stands =>
    exact ⟨waiting, lost, course.made, course.took, course.backlog, course.worked, handed,
      course.answered, course.version, course.opened, fun shut => ⟨(course.ended shut).1, rfl⟩,
      course.served, course.deserted⟩

theorem coursePickUp (course : Course first made took out replies done waiting lost yields l) :
    Course first made took out (replies ++ l.answering .pickUp) done waiting lost yields
      (l.step .pickUp) := by
  have answered := course.answered
  cases h : l.pipeline.answers with
  | nil => simpa [answering, step, Pipeline.takeAnswer?, h] using course
  | cons a rest =>
    rw [h] at answered
    simp only [answering, step, Pipeline.takeAnswer?, h]
    exact ⟨course.made, course.took, course.backlog, course.worked, course.handed,
      by simpa using answered, course.version, course.opened, course.ended, course.served,
      course.deserted⟩

theorem courseClose (course : Course first made took out replies done waiting lost yields l) :
    Course first made took out replies done waiting lost yields (l.step .close) := by
  cases open' : l.closing with
  | true => simpa [step, open'] using course
  | false =>
    have version := course.version
    simp only [open', Bool.false_eq_true, if_false] at version
    simp only [step, open']
    exact ⟨course.made, course.took, course.backlog, course.worked, course.handed, course.answered,
      by simp [Pipeline.bump, version], fun h => by simp at h, course.ended, course.served,
      course.deserted⟩

theorem courseShut (course : Course first made took out replies done waiting lost yields l) :
    Course first made took out replies done waiting lost yields (l.step .shut) := by
  simp only [step]
  split
  case isFalse => exact course
  case isTrue idle =>
    obtain ⟨closing, idle⟩ := idle
    exact ⟨course.made, course.took, course.backlog, course.worked.forget, course.handed,
      course.answered, course.version, fun h => by simp [closing] at h,
      fun _ => Pipeline.idleRests course.backlog idle, course.served, course.deserted⟩

theorem courseStep (course : Course first made took out replies done waiting lost yields l)
    (m : Move) : ∃ done waiting lost yields,
      Course first (made ++ l.takes m) (took ++ l.taking m) (out ++ l.handing m)
        (replies ++ l.answering m) done waiting lost yields (l.step m) := by
  cases m with
  | ask q =>
    cases open' : l.closing with
    | true =>
      refine ⟨done, waiting, lost, yields, ?_⟩
      simpa [takes, taking, handing, answering, step, open'] using course
    | false =>
      obtain ⟨waiting, lost, course⟩ := courseAsk course open' q
      refine ⟨done, waiting, lost, yields, ?_⟩
      simpa [takes, taking, handing, answering, step, open'] using course
  | compute =>
    obtain ⟨done, waiting, yields, course⟩ := courseCompute course
    exact ⟨done, waiting, lost, yields, by simpa [takes, handing, answering, step] using course⟩
  | handOver crash heard =>
    obtain ⟨waiting, lost, course⟩ := courseHandOver course crash heard
    exact ⟨done, waiting, lost, yields,
      by simpa [takes, taking, handing, answering, step] using course⟩
  | pickUp =>
    exact ⟨done, waiting, lost, yields,
      by simpa [takes, taking, handing] using coursePickUp course⟩
  | letGo b =>
    refine ⟨done, waiting, lost, yields, ?_⟩
    simp only [takes, taking, handing, answering, step, List.append_nil]
    exact ⟨course.made, course.took, course.backlog, course.worked.letGo b, course.handed,
      course.answered, course.version, course.opened, course.ended, course.served, course.deserted⟩
  | close =>
    exact ⟨done, waiting, lost, yields,
      by simpa [takes, taking, handing, answering] using courseClose course⟩
  | shut =>
    exact ⟨done, waiting, lost, yields,
      by simpa [takes, taking, handing, answering] using courseShut course⟩

theorem courseTaken (course : Course first made took out replies done waiting lost yields l) :
    made.take took.length = done := by
  rw [course.took, Request.jobsLength, course.made, List.append_assoc]
  simp

theorem runCourse (trampoline : Trampoline) (handling : FailureHandling) (id : Nat)
    (queue path : String) (source : σ) (renderer : ρ) (viewer : Nat) (options : PipelineOptions)
    (moves : List Move) :
    let start := begin trampoline handling (.start id queue path source renderer viewer options)
    ∃ done waiting lost yields,
      Course start.pipeline.worker (start.asked moves) (start.takenUp moves) (start.handed moves)
        (start.answered moves) done waiting lost yields (start.run moves) := by
  intro start
  -- from the end: a course is extended by what its last state does next
  induction moves using List.reverseRecOn with
  | nil =>
    exact ⟨[], [], [], [], rfl, rfl, rfl, .start, rfl, rfl, rfl, fun _ => rfl,
      fun h => (nomatch h), fun _ => rfl, fun h => (nomatch h)⟩
  | append_singleton moves m ih =>
    obtain ⟨done, waiting, lost, yields, course⟩ := ih
    simpa [asked, takenUp, handed, answered, run] using courseStep course m

end Life
end VideoPreview
