import VideoPreview.Proofs.Life
import VideoPreview.Proofs.Stock

/-! What a worker counts. A meter on a stream or on a renderer writes down what every call comes to
and changes nothing else, so a metered pipeline lives the life of the plain one; what the worker has
counted is what its meters, the replies to its callers and the overtaken requests come to. -/
namespace VideoPreview

namespace Attempt

variable {ε α : Type}

def isRefused : Attempt ε α → Bool
  | refused _ => true
  | _ => false

def isPanicked : Attempt ε α → Bool
  | panicked _ => true
  | _ => false

end Attempt

def Attempt.isWhole : Attempt SourceError Picture → Bool
  | done p => p.isWellFormed
  | _ => false

def JobAnswer.isRefused : JobAnswer → Bool
  | computed outcome => outcome.isRefused
  | inspected _ _ => false

def Job.version? : Job → Option Version
  | display _ _ v => some v
  | rescript _ v => some v
  | _ => none

structure Metered (α β : Type) where
  plain : α
  outcomes : List β

abbrev MeteredStream (σ : Type) := Metered σ (Attempt SourceError Picture)

abbrev MeteredRenderer (ρ : Type) := Metered ρ (Attempt SubtitleError Unit)

variable {σ ρ : Type}

instance [FrameSource σ] : FrameSource (MeteredStream σ) where
  info s := FrameSource.info s.plain
  colorSpace s := FrameSource.colorSpace s.plain
  setColorSpace matrix s :=
    let (thrown, stream) := FrameSource.setColorSpace matrix s.plain
    (thrown, { s with plain := stream })
  decode n s :=
    let (outcome, stream) := FrameSource.decode n s.plain
    (outcome, ⟨stream, s.outcomes ++ [outcome]⟩)

instance [SubtitleRenderer ρ] : SubtitleRenderer (MeteredRenderer ρ) where
  render b t lines r :=
    let drawing := SubtitleRenderer.render b t lines r.plain
    ⟨drawing.result, drawing.pixels, ⟨drawing.renderer, r.outcomes ++ [drawing.result]⟩⟩
  keepsSize b t lines r := SubtitleRenderer.keepsSize b t lines r.plain

namespace Worker

def begin (w : Worker σ ρ) : Worker σ ρ :=
  { w with counts := { w.counts with computed := w.counts.computed + 1 } }

def come [FrameSource σ] [SubtitleRenderer ρ] (w : Worker σ ρ) (n : UInt64) (t : Int64)
    (lines : List SubtitleLine) : Attempt SourceError Rendered × Worker σ ρ :=
  match w.renderedBefore? n t lines with
  | some frame =>
    (.done ⟨frame, none⟩,
      { w with counts := { w.counts with renderReused := w.counts.renderReused + 1 } })
  | none =>
    if w.frameCount ≤ n then (.refused (.outOfRange n w.frameCount), w)
    else
      match w.picture n with
      | (.done p, w) => w.draw n t lines p
      | (.refused e, w) => (.refused e, w)
      | (.panicked payload, w) => (.panicked payload, w)

theorem produceComes [FrameSource σ] [SubtitleRenderer ρ] (w : Worker σ ρ) (n : UInt64)
    (t : Int64) (withSubtitles : Bool) :
    w.produce n t withSubtitles = w.begin.come n t (w.lines t withSubtitles) := rfl

end Worker

namespace Worker

def plain (w : Worker (MeteredStream σ) (MeteredRenderer ρ)) : Worker σ ρ where
  pipeline := w.pipeline
  source := w.source.plain
  renderer := w.renderer.plain
  script := w.script
  frameCount := w.frameCount
  position := w.position
  decoded := w.decoded
  lastRender := w.lastRender
  pool := w.pool
  options := w.options
  counts := w.counts
  framesMade := w.framesMade
  calls := w.calls

variable [FrameSource σ] [SubtitleRenderer ρ]

omit [SubtitleRenderer ρ] in
theorem picturePlain (w : Worker (MeteredStream σ) (MeteredRenderer ρ)) (n : UInt64) :
    w.plain.picture n = ((w.picture n).1, (w.picture n).2.plain) := by
  have same : w.plain.decodedBefore? n = w.decodedBefore? n := rfl
  unfold picture
  rw [same]
  cases w.decodedBefore? n with
  | some p => rfl
  | none =>
    simp only [decode, plain, FrameSource.decode]
    generalize (FrameSource.decode n w.source.plain) = asked
    obtain ⟨outcome, stream⟩ := asked
    cases outcome with
    | done p => cases whole : p.isWellFormed <;> simp [whole, FrameSource.colorSpace]
    | refused e => rfl
    | panicked payload => rfl

omit [SubtitleRenderer ρ] in
theorem finishPlain (w : Worker (MeteredStream σ) (MeteredRenderer ρ)) (n : UInt64) (t : Int64)
    (lines : List SubtitleLine) (fault : Option SubtitleError) (buffer : Buffer) :
    w.plain.finish n t lines fault buffer =
      ((w.finish n t lines fault buffer).1, (w.finish n t lines fault buffer).2.plain) := by
  simp only [finish, plain, FrameSource.colorSpace]
  cases (FrameSource.colorSpace w.source.plain : Except Payload String) <;> rfl

theorem drawPlain (w : Worker (MeteredStream σ) (MeteredRenderer ρ)) (n : UInt64) (t : Int64)
    (lines : List SubtitleLine) (p : Picture) :
    w.plain.draw n t lines p = ((w.draw n t lines p).1, (w.draw n t lines p).2.plain) := by
  have taken : w.plain.borrow ⟨p.width, p.height⟩ =
      ((w.borrow ⟨p.width, p.height⟩).1.plain, (w.borrow ⟨p.width, p.height⟩).2) := rfl
  have drawn (w : Worker (MeteredStream σ) (MeteredRenderer ρ)) (b : Buffer) :
      w.plain.render b t lines = ((w.render b t lines).1, (w.render b t lines).2.1,
        (w.render b t lines).2.2.plain) := rfl
  unfold draw
  rw [taken]
  generalize w.borrow ⟨p.width, p.height⟩ = borrowed
  obtain ⟨w₁, blank⟩ := borrowed
  cases bare : lines.isEmpty with
  | true => exact finishPlain w₁ ..
  | false =>
    simp only [drawn, Bool.false_eq_true, if_false]
    generalize w₁.render _ t lines = drawing
    obtain ⟨result, pixels, w₂⟩ := drawing
    cases result with
    | done u => exact finishPlain w₂ ..
    | refused fault => exact finishPlain w₂.countFault ..
    | panicked payload => rfl

omit [FrameSource σ] [SubtitleRenderer ρ] in
theorem beginPlain (w : Worker (MeteredStream σ) (MeteredRenderer ρ)) :
    w.plain.begin = w.begin.plain := rfl

theorem comePlain (w : Worker (MeteredStream σ) (MeteredRenderer ρ)) (n : UInt64) (t : Int64)
    (lines : List SubtitleLine) :
    w.plain.come n t lines = ((w.come n t lines).1, (w.come n t lines).2.plain) := by
  have before : w.plain.renderedBefore? n t lines = w.renderedBefore? n t lines := rfl
  have count : w.plain.frameCount = w.frameCount := rfl
  unfold come
  rw [before, count]
  cases w.renderedBefore? n t lines with
  | some frame => rfl
  | none =>
    by_cases outside : w.frameCount ≤ n
    · simp only [outside, if_true]
    · simp only [outside, if_false]
      rw [picturePlain]
      generalize w.picture n = looked
      obtain ⟨found, w'⟩ := looked
      cases found with
      | done p => exact drawPlain w' n t lines p
      | refused e => rfl
      | panicked payload => rfl

theorem producePlain (w : Worker (MeteredStream σ) (MeteredRenderer ρ)) (n : UInt64) (t : Int64)
    (withSubtitles : Bool) :
    w.plain.produce n t withSubtitles =
      ((w.produce n t withSubtitles).1, (w.produce n t withSubtitles).2.plain) := by
  rw [produceComes, produceComes, beginPlain]
  exact comePlain w.begin n t (w.lines t withSubtitles)

theorem processPlain (w : Worker (MeteredStream σ) (MeteredRenderer ρ)) (current : Version)
    (n : UInt64) (t : Int64) (v : Version) :
    w.plain.process current n t v =
      ((w.process current n t v).1, (w.process current n t v).2.1.plain,
        (w.process current n t v).2.2) := by
  unfold process
  rw [producePlain]
  rfl

theorem carryOutPlain (w : Worker (MeteredStream σ) (MeteredRenderer ρ)) (current : Version)
    (job : Job) :
    w.plain.carryOut current job =
      ((w.carryOut current job).1, (w.carryOut current job).2.1.plain,
        (w.carryOut current job).2.2) := by
  cases job with
  | display n t v => exact processPlain { w with position := some (n, t) } current n t v
  | rescript script v =>
    cases shown : w.position with
    | none => rw [rescriptIdle shown, rescriptIdle (w := w.plain) shown]; rfl
    | some last =>
      rw [rescriptBusy shown, rescriptBusy (w := w.plain) shown]
      exact processPlain { w with script } current last.1 last.2 v
  | recolor matrix =>
    simp only [carryOut, recolor, plain, FrameSource.setColorSpace]
    generalize (FrameSource.setColorSpace matrix w.source.plain : Option Payload × σ) = answered
    obtain ⟨thrown, stream⟩ := answered
    cases thrown <;> rfl
  | fetch n t withSubtitles =>
    simp only [carryOut]
    rw [producePlain]
  | inspect => rfl

end Worker

namespace Pipeline

def plain (p : Pipeline (MeteredStream σ) (MeteredRenderer ρ)) : Pipeline σ ρ where
  id := p.id
  queue := p.queue
  worker := p.worker.plain
  version := p.version
  path := p.path
  info := p.info
  colorSpace := p.colorSpace
  viewer := p.viewer
  handover := p.handover
  answers := p.answers

theorem askPlain (p : Pipeline (MeteredStream σ) (MeteredRenderer ρ)) (q : Request) :
    p.plain.ask q = (p.ask q).plain := by
  cases q <;> rfl

theorem gainPlain (p : Pipeline (MeteredStream σ) (MeteredRenderer ρ)) (y : Yield) :
    p.plain.gain y = (p.gain y).plain := by
  cases y <;> rfl

theorem performPlain [FrameSource σ] [SubtitleRenderer ρ]
    (p : Pipeline (MeteredStream σ) (MeteredRenderer ρ)) (job : Job) :
    (p.plain.perform job).1 = (p.perform job).1.plain := by
  have carried := Worker.carryOutPlain p.worker p.version job
  simp only [perform]
  rw [show p.plain.worker.carryOut p.plain.version job = _ from carried]
  exact gainPlain { p with worker := (p.worker.carryOut p.version job).2.1 } _

theorem computeTakes [FrameSource σ] [SubtitleRenderer ρ] {p : Pipeline σ ρ} {job : Job}
    {queue : SerialQueue Job} (free : p.handover = none)
    (next : p.queue.take? = some (job, queue)) : p.compute = { p with queue }.perform job := by
  unfold compute
  split
  case h_1 taken =>
    cases next.symm.trans taken
    rfl
  case h_2 other => exact absurd next (other job queue free)

theorem computePlain [FrameSource σ] [SubtitleRenderer ρ]
    (p : Pipeline (MeteredStream σ) (MeteredRenderer ρ)) :
    p.plain.compute.1 = p.compute.1.plain := by
  cases held : p.handover with
  | some h => rw [computeBusy held, computeBusy (p := p.plain) held]
  | none =>
    cases backlog : p.queue.backlog with
    | nil => rw [computeIdle backlog, computeIdle (p := p.plain) backlog]
    | cons job rest =>
      have next : p.queue.take? = some (job, { p.queue with backlog := rest }) := by
        simp [SerialQueue.take?, backlog]
      rw [computeTakes held next, computeTakes (p := p.plain) held next]
      exact performPlain { p with queue := { p.queue with backlog := rest } } job

end Pipeline

namespace Life

open Pipeline (Move)

def plain (l : Life (MeteredStream σ) (MeteredRenderer ρ)) : Life σ ρ where
  trampoline := l.trampoline
  handling := l.handling
  pipeline := l.pipeline.plain
  closing := l.closing

variable [FrameSource σ] [SubtitleRenderer ρ]

theorem stepPlain (l : Life (MeteredStream σ) (MeteredRenderer ρ)) (m : Move) :
    l.plain.step m = (l.step m).plain := by
  cases m with
  | ask q =>
    cases open' : l.closing <;> simp [step, plain, open', Pipeline.askPlain]
  | compute => simp [step, plain, Pipeline.computePlain]
  | handOver crash heard =>
    have same : l.plain.topples crash heard = l.topples crash heard := by
      funext h
      cases h <;> rfl
    have held : l.plain.pipeline.handover = l.pipeline.handover := rfl
    simp only [step, handOver, same, held]
    split <;> rfl
  | pickUp =>
    cases answers : l.pipeline.answers <;>
      simp [step, plain, Pipeline.takeAnswer?, Pipeline.plain, answers]
  | letGo b => rfl
  | close => cases open' : l.closing <;> simp [step, plain, open', Pipeline.plain, Pipeline.bump]
  | shut =>
    have same : l.plain.pipeline.remaining = l.pipeline.remaining := rfl
    have closing : l.plain.closing = l.closing := rfl
    simp only [step, same, closing]
    by_cases ready : l.closing ∧ l.pipeline.remaining = 0
    · rw [if_pos ready, if_pos ready]
      rfl
    · rw [if_neg ready, if_neg ready]

theorem runPlain (l : Life (MeteredStream σ) (MeteredRenderer ρ)) (moves : List Move) :
    l.plain.run moves = (l.run moves).plain := by
  induction moves generalizing l with
  | nil => rfl
  | cons m rest ih =>
    change (l.plain.step m).run rest = ((l.step m).run rest).plain
    rw [stepPlain, ih]

theorem seenPlain {α : Type} {see : Life σ ρ → Move → List α}
    {see' : Life (MeteredStream σ) (MeteredRenderer ρ) → Move → List α}
    (each : ∀ l m, see l.plain m = see' l m)
    (l : Life (MeteredStream σ) (MeteredRenderer ρ)) (moves : List Move) :
    seen step see l.plain moves = seen step see' l moves := by
  induction moves generalizing l with
  | nil => rfl
  | cons m rest ih =>
    change see l.plain m ++ seen step see (l.plain.step m) rest = _
    rw [each, stepPlain, ih]
    rfl

end Life

/-! ### What the worker counts -/

namespace Worker

structure Balanced (begun owed told overtaken : Nat)
    (w : Worker (MeteredStream σ) (MeteredRenderer ρ)) : Prop where
  computed : w.counts.computed = w.counts.renderReused + w.counts.decodeReused + w.counts.decoded
    + w.counts.decodeErrors + told + w.source.outcomes.countP Attempt.isPanicked + begun
  decoded : w.counts.decoded = w.source.outcomes.countP Attempt.isWhole
  borrowed : w.pool.stats.reused + w.pool.stats.allocatedBuffers + owed =
    w.counts.decoded + w.counts.decodeReused
  rendered : w.counts.rendered = w.renderer.outcomes.length
  drawnOn : w.counts.rendered + owed ≤ w.counts.decoded + w.counts.decodeReused
  renderErrors : w.counts.renderErrors = w.renderer.outcomes.countP Attempt.isRefused
  superseded : w.counts.superseded = overtaken

variable {begun owed told overtaken : Nat} {w : Worker (MeteredStream σ) (MeteredRenderer ρ)}

theorem startBalanced (pipeline : Nat) (source : σ) (renderer : ρ) (frameCount : UInt64)
    (options : PipelineOptions) :
    Balanced 0 0 0 0 (start pipeline (Metered.mk source []) (Metered.mk renderer []) frameCount
      options) :=
  ⟨rfl, rfl, rfl, rfl, Nat.le_refl _, rfl, rfl⟩

theorem Balanced.begin (balanced : Balanced 0 0 told overtaken w) :
    Balanced 1 0 told overtaken w.begin :=
  ⟨congrArg (· + 1) balanced.computed, balanced.decoded, balanced.borrowed, balanced.rendered,
    balanced.drawnOn, balanced.renderErrors, balanced.superseded⟩

theorem Balanced.takeBack (balanced : Balanced begun owed told overtaken w) (b : Buffer) :
    Balanced begun owed told overtaken (w.takeBack b) := by
  obtain ⟨-, reused, allocated⟩ := Pool.releaseReturned w.pool b
  refine ⟨balanced.computed, balanced.decoded, ?_, balanced.rendered, balanced.drawnOn,
    balanced.renderErrors, balanced.superseded⟩
  simpa only [Worker.takeBack, reused, allocated] using balanced.borrowed

variable [FrameSource σ] [SubtitleRenderer ρ]

omit [SubtitleRenderer ρ] in
theorem Balanced.picture (balanced : Balanced 1 0 told overtaken w) (n : UInt64) :
    match w.picture n with
    | (.done _, w') => Balanced 0 1 told overtaken w'
    | (.refused _, w') => Balanced 0 0 (told + 1) overtaken w'
    | (.panicked _, w') => Balanced 0 0 told overtaken w' := by
  obtain ⟨computed, decoded, borrowed, rendered, drawnOn, renderErrors, superseded⟩ := balanced
  unfold Worker.picture
  cases w.decodedBefore? n with
  | some p =>
    refine ⟨?_, decoded, ?_, rendered, ?_, renderErrors, superseded⟩
    all_goals simp only; omega
  | none =>
    simp only [decode, FrameSource.decode]
    generalize (FrameSource.decode n w.source.plain) = asked
    obtain ⟨outcome, stream⟩ := asked
    cases outcome with
    | done p =>
      cases whole : p.isWellFormed with
      | true =>
        simp only [whole, if_true]
        refine ⟨?_, ?_, ?_, rendered, ?_, renderErrors, superseded⟩
        all_goals simp [whole, Attempt.isPanicked, Attempt.isWhole]; omega
      | false =>
        simp only [whole, Bool.false_eq_true, if_false]
        refine ⟨?_, ?_, borrowed, rendered, drawnOn, renderErrors, superseded⟩
        all_goals simp [whole, Attempt.isPanicked, Attempt.isWhole]; omega
    | refused e =>
      refine ⟨?_, ?_, borrowed, rendered, drawnOn, renderErrors, superseded⟩
      all_goals simp [Attempt.isPanicked, Attempt.isWhole]; omega
    | panicked payload =>
      refine ⟨?_, ?_, borrowed, rendered, drawnOn, renderErrors, superseded⟩
      all_goals simp [Attempt.isPanicked, Attempt.isWhole]; omega

omit [SubtitleRenderer ρ] in
theorem Balanced.finish (balanced : Balanced 0 0 told overtaken w) (n : UInt64) (t : Int64)
    (lines : List SubtitleLine) (fault : Option SubtitleError) (buffer : Buffer) :
    Balanced 0 0 told overtaken (w.finish n t lines fault buffer).2 ∧
      (w.finish n t lines fault buffer).1.isRefused = false := by
  unfold Worker.finish
  cases FrameSource.colorSpace w.source with
  | error payload => exact ⟨balanced.takeBack buffer, rfl⟩
  | ok colorSpace =>
    obtain ⟨computed, decoded, borrowed, rendered, drawnOn, renderErrors, superseded⟩ := balanced
    exact ⟨⟨computed, decoded, borrowed, rendered, drawnOn, renderErrors, superseded⟩, rfl⟩

theorem Balanced.draw (balanced : Balanced 0 1 told overtaken w) (n : UInt64) (t : Int64)
    (lines : List SubtitleLine) (p : Picture) :
    Balanced 0 0 told overtaken (w.draw n t lines p).2 ∧
      (w.draw n t lines p).1.isRefused = false := by
  obtain ⟨computed, decoded, borrowed, rendered, drawnOn, renderErrors, superseded⟩ := balanced
  have lent := Pool.borrowCounts (p := w.pool) ⟨p.width, p.height⟩
  simp only [Worker.draw, borrow, render, SubtitleRenderer.render]
  generalize w.pool.borrow ⟨p.width, p.height⟩ = lending at lent ⊢
  obtain ⟨pool, blank⟩ := lending
  have settled : pool.stats.reused + pool.stats.allocatedBuffers + 0 =
      w.counts.decoded + w.counts.decodeReused := by
    simp only at lent
    omega
  cases lines.isEmpty with
  | true =>
    have fewer : w.counts.rendered + 0 ≤ w.counts.decoded + w.counts.decodeReused := by omega
    refine Balanced.finish ?_ ..
    exact ⟨computed, decoded, settled, rendered, fewer, renderErrors, superseded⟩
  | false =>
    simp only [Bool.false_eq_true, if_false]
    generalize (SubtitleRenderer.render _ _ _ w.renderer.plain : Drawing ρ) = drawing
    obtain ⟨result, pixels, renderer⟩ := drawing
    cases result with
    | done u =>
      refine Balanced.finish ?_ ..
      refine ⟨computed, decoded, settled, ?_, drawnOn, ?_, superseded⟩
      all_goals simp [rendered, renderErrors, Attempt.isRefused]
    | refused fault =>
      refine Balanced.finish ?_ ..
      refine ⟨computed, decoded, settled, ?_, drawnOn, ?_, superseded⟩
      all_goals simp [countFault, rendered, renderErrors, Attempt.isRefused]
    | panicked payload =>
      simp only
      refine ⟨Balanced.takeBack ?_ _, rfl⟩
      refine ⟨computed, decoded, settled, ?_, drawnOn, ?_, superseded⟩
      all_goals simp [rendered, renderErrors, Attempt.isRefused]

theorem Balanced.come (balanced : Balanced 1 0 told overtaken w) (n : UInt64) (t : Int64)
    (lines : List SubtitleLine) :
    Balanced 0 0 (told + (w.come n t lines).1.isRefused.toNat) overtaken (w.come n t lines).2 := by
  unfold Worker.come
  cases w.renderedBefore? n t lines with
  | some frame =>
    obtain ⟨computed, decoded, borrowed, rendered, drawnOn, renderErrors, superseded⟩ := balanced
    refine ⟨?_, decoded, borrowed, rendered, drawnOn, renderErrors, superseded⟩
    simp only [Attempt.isRefused, Bool.toNat_false]
    omega
  | none =>
    by_cases outside : w.frameCount ≤ n
    · simp only [outside, if_true]
      obtain ⟨computed, decoded, borrowed, rendered, drawnOn, renderErrors, superseded⟩ := balanced
      exact ⟨by simp only [Attempt.isRefused, Bool.toNat_true]; omega, decoded, borrowed, rendered,
        drawnOn, renderErrors, superseded⟩
    · have looked := balanced.picture n
      simp only [outside, if_false]
      generalize w.picture n = found at looked ⊢
      obtain ⟨outcome, w'⟩ := found
      cases outcome with
      | done p =>
        obtain ⟨drawn, accepted⟩ := Balanced.draw looked n t lines p
        simpa only [accepted, Bool.toNat_false, Nat.add_zero] using drawn
      | refused e => exact looked
      | panicked payload => exact looked

theorem Balanced.produce (balanced : Balanced 0 0 told overtaken w) (n : UInt64) (t : Int64)
    (withSubtitles : Bool) :
    Balanced 0 0 (told + (w.produce n t withSubtitles).1.isRefused.toNat) overtaken
      (w.produce n t withSubtitles).2 := by
  rw [produceComes]
  exact balanced.begin.come n t (w.lines t withSubtitles)

end Worker

def Job.overtaken (current : Version) (job : Job) : Yield → List Version
  | .handover (.deliver _) => job.version?.toList.filter (current ≠ ·)
  | _ => []

theorem Counts.accountAdds (c : Counts) (current : Version) (n : UInt64)
    (outcome : Attempt SourceError Rendered) {v : Version} {job : Job}
    (own : job.version? = some v) :
    c.account current v outcome =
      { c with
        superseded := c.superseded +
          (job.overtaken current (.handover (.ofOutcome n v outcome))).length
        decodeErrors := c.decodeErrors + outcome.isRefused.toNat } := by
  have late : (job.version?.toList.filter (current ≠ ·)).length = if current ≠ v then 1 else 0 := by
    by_cases same : current = v <;> simp [own, same]
  cases outcome with
  | done shown =>
    obtain ⟨frame, fault⟩ := shown
    cases fault <;>
      (simp only [account, Handover.ofOutcome, Job.overtaken, late]; split <;> rfl)
  | refused e =>
    simp only [account, Handover.ofOutcome, Job.overtaken, late]
    split <;> rfl
  | panicked payload => rfl

namespace Worker

variable [FrameSource σ] [SubtitleRenderer ρ] {told overtaken : Nat}
  {w : Worker (MeteredStream σ) (MeteredRenderer ρ)}

theorem Balanced.process (balanced : Balanced 0 0 told overtaken w) (current : Version)
    (n : UInt64) (t : Int64) {v : Version} (job : Job) (own : job.version? = some v) :
    let after := w.process current n t v
    Balanced 0 0 told (overtaken + (job.overtaken current after.1).length) after.2.1 := by
  obtain ⟨computed, decoded, borrowed, rendered, drawnOn, renderErrors, superseded⟩ :=
    balanced.produce n t true
  simp only [Worker.process, Counts.accountAdds _ current n _ own]
  refine ⟨?_, decoded, borrowed, rendered, drawnOn, renderErrors, ?_⟩
  · simp only
    omega
  · simp only [superseded]

theorem Balanced.carryOut (balanced : Balanced 0 0 told overtaken w) (current : Version)
    (job : Job) :
    let after := w.carryOut current job
    Balanced 0 0 (told + after.1.answer?.toList.countP JobAnswer.isRefused)
      (overtaken + (job.overtaken current after.1).length) after.2.1 := by
  obtain ⟨computed, decoded, borrowed, rendered, drawnOn, renderErrors, superseded⟩ := balanced
  cases job with
  | display n t v =>
    have moved : Balanced 0 0 told overtaken { w with position := some (n, t) } :=
      ⟨computed, decoded, borrowed, rendered, drawnOn, renderErrors, superseded⟩
    exact moved.process current n t (.display n t v) rfl
  | rescript script v =>
    have rescripted : Balanced 0 0 told overtaken { w with script } :=
      ⟨computed, decoded, borrowed, rendered, drawnOn, renderErrors, superseded⟩
    cases shown : w.position with
    | none =>
      rw [rescriptIdle shown]
      exact rescripted
    | some last =>
      rw [rescriptBusy shown]
      exact rescripted.process current last.1 last.2 (.rescript script v) rfl
  | recolor matrix =>
    simp only [Worker.carryOut, recolor, FrameSource.setColorSpace]
    generalize (FrameSource.setColorSpace matrix w.source.plain : Option Payload × σ) = answered
    obtain ⟨thrown, stream⟩ := answered
    cases thrown <;>
      exact ⟨computed, decoded, borrowed, rendered, drawnOn, renderErrors, superseded⟩
  | fetch n t withSubtitles =>
    have produced := Balanced.produce
      ⟨computed, decoded, borrowed, rendered, drawnOn, renderErrors, superseded⟩ n t withSubtitles
    simp only [Worker.carryOut]
    generalize w.produce n t withSubtitles = made at produced ⊢
    obtain ⟨outcome, w'⟩ := made
    cases outcome <;> exact produced
  | inspect => exact ⟨computed, decoded, borrowed, rendered, drawnOn, renderErrors, superseded⟩

end Worker

namespace Life

open Pipeline (Move)

variable [FrameSource σ] [SubtitleRenderer ρ]

def overtaking (l : Life σ ρ) : Move → List Version
  | .compute =>
    match l.pipeline.handover, l.pipeline.queue.backlog with
    | none, job :: _ =>
      job.overtaken l.pipeline.version (l.pipeline.worker.carryOut l.pipeline.version job).1
    | _, _ => []
  | _ => []

def overtaken (l : Life σ ρ) (moves : List Move) : List Version := seen step overtaking l moves

theorem overtakingPlain (l : Life (MeteredStream σ) (MeteredRenderer ρ)) (m : Move) :
    l.plain.overtaking m = l.overtaking m := by
  cases m with
  | compute =>
    have carried := Worker.carryOutPlain l.pipeline.worker l.pipeline.version
    simp only [overtaking, plain, Pipeline.plain, carried]
  | _ => rfl

variable {told overtaken : Nat} {out : List JobAnswer}

def Balanced (out : List JobAnswer) (overtaken : List Version)
    (l : Life (MeteredStream σ) (MeteredRenderer ρ)) : Prop :=
  l.pipeline.worker.Balanced 0 0 ((out ++ l.pipeline.answers).countP JobAnswer.isRefused)
    overtaken.length

variable {l : Life (MeteredStream σ) (MeteredRenderer ρ)} {late : List Version}

theorem balancedCompute (balanced : l.Balanced out late) :
    Balanced out (late ++ l.overtaking .compute) (l.step .compute) := by
  unfold Balanced at balanced ⊢
  simp only [step, overtaking]
  cases held : l.pipeline.handover with
  | some h => simpa [Pipeline.computeBusy held] using balanced
  | none =>
    cases backlog : l.pipeline.queue.backlog with
    | nil => simpa [Pipeline.computeIdle backlog] using balanced
    | cons job rest =>
      have next := Pipeline.computeNext held backlog
      rw [next.worker, next.answers, ← List.append_assoc, List.countP_append, List.length_append]
      exact balanced.carryOut l.pipeline.version job

theorem balancedStep (balanced : l.Balanced out late) (m : Move) :
    Balanced (out ++ l.answering m) (late ++ l.overtaking m) (l.step m) := by
  unfold Balanced at balanced
  cases m with
  | ask q =>
    cases open' : l.closing <;>
      simpa [Balanced, answering, overtaking, step, open'] using balanced
  | compute => simpa [answering] using balancedCompute balanced
  | handOver crash heard =>
    simp only [Balanced, answering, overtaking, step, handOver, List.append_nil]
    split <;> exact balanced
  | pickUp =>
    cases answers : l.pipeline.answers <;>
      simpa [Balanced, answering, overtaking, step, Pipeline.takeAnswer?, answers] using balanced
  | letGo b =>
    simpa [Balanced, answering, overtaking, step, Pipeline.takeBack] using balanced.takeBack b
  | close =>
    cases open' : l.closing <;>
      simpa [Balanced, answering, overtaking, step, open', Pipeline.bump] using balanced
  | shut =>
    obtain ⟨computed, decoded, borrowed, rendered, drawnOn, renderErrors, superseded⟩ := balanced
    simp only [Balanced, answering, overtaking, step, List.append_nil]
    split
    case isTrue =>
      exact ⟨computed, decoded, borrowed, rendered, drawnOn, renderErrors, superseded⟩
    case isFalse =>
      exact ⟨computed, decoded, borrowed, rendered, drawnOn, renderErrors, superseded⟩

theorem balancedRun (trampoline : Trampoline) (handling : FailureHandling) (id : Nat)
    (queue path : String) (source : σ) (renderer : ρ) (viewer : Nat) (options : PipelineOptions)
    (moves : List Move) :
    let start := begin trampoline handling
      (.start id queue path (Metered.mk source []) (Metered.mk renderer []) viewer options)
    Balanced (start.answered moves) (start.overtaken moves) (start.run moves) := by
  intro start
  induction moves using List.reverseRecOn with
  | nil => exact Worker.startBalanced id source renderer _ options
  | append_singleton moves m ih =>
    simpa [answered, Life.overtaken, run] using balancedStep ih m

end Life

/-- What a worker has counted, by what its decoder and its renderer were asked for and what came of
it, by the replies to its callers and by the versions of the requests that were overtaken. -/
structure Counts.Accounts (c : Counts) (pool : PoolStats)
    (decodes : List (Attempt SourceError Picture)) (renders : List (Attempt SubtitleError Unit))
    (replies : List JobAnswer) (overtaken : List Version) : Prop where
  computed : c.computed = c.renderReused + c.decodeReused + c.decoded + c.decodeErrors
    + replies.countP JobAnswer.isRefused + decodes.countP Attempt.isPanicked
  decoded : c.decoded = decodes.countP Attempt.isWhole
  borrowed : pool.reused + pool.allocatedBuffers = c.decoded + c.decodeReused
  rendered : c.rendered = renders.length
  drawnOn : c.rendered ≤ c.decoded + c.decodeReused
  renderErrors : c.renderErrors = renders.countP Attempt.isRefused
  superseded : c.superseded = overtaken.length

open Life in
theorem countsAccount [FrameSource σ] [SubtitleRenderer ρ] (trampoline : Trampoline)
    (handling : FailureHandling) (id : Nat) (queue path : String) (source : σ) (renderer : ρ)
    (viewer : Nat) (options : PipelineOptions) (moves : List Pipeline.Move) :
    let start := begin trampoline handling (.start id queue path source renderer viewer options)
    let metered := begin trampoline handling
      (.start id queue path (Metered.mk source []) (Metered.mk renderer []) viewer options)
    let last := (start.run moves).pipeline
    let worker := (metered.run moves).pipeline.worker
    (metered.run moves).plain = start.run moves ∧
      last.counts.Accounts last.poolStats worker.source.outcomes worker.renderer.outcomes
        (start.replies moves) (start.overtaken moves) := by
  intro start metered last worker
  have began : start = metered.plain := rfl
  have same : start.run moves = (metered.run moves).plain := began ▸ runPlain metered moves
  have overtaken : start.overtaken moves = metered.overtaken moves :=
    began ▸ seenPlain overtakingPlain metered moves
  have answered : start.answered moves = metered.answered moves :=
    began ▸ seenPlain (fun l m => by cases m <;> rfl) metered moves
  obtain ⟨computed, decoded, borrowed, rendered, drawnOn, renderErrors, superseded⟩ :=
    balancedRun trampoline handling id queue path source renderer viewer options moves
  refine ⟨same.symm, ?_⟩
  simp only [last, replies, same, overtaken, answered]
  exact ⟨computed, decoded, borrowed, rendered, drawnOn, renderErrors, superseded⟩

end VideoPreview
