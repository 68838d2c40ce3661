import VideoPreview.Proofs.Computation
import VideoPreview.Proofs.Life
import VideoPreview.Proofs.Packing
import VideoPreview.Proofs.Parking

/-! What a worker hands over hangs on the requests it has worked through, and not on what its pool
has parked, on what it has counted or on the version that is current meanwhile. -/
namespace VideoPreview

def Handover.failure? : Handover → Option Failure
  | deliver _ => none
  | surface failure => some failure

def Handover.delivery? : Handover → Option (List Event)
  | deliver events => some events
  | surface _ => none

namespace Worker

variable {σ ρ : Type}

inductive Alike (w : Worker σ ρ) : Worker σ ρ → Prop where
  | other (pool : Pool) (counts : Counts) (calls : List Call) (fits : w.pool.Fits)
      (otherFits : pool.Fits) (whole : ∀ d, w.decoded = some d → d.2.isWellFormed = true) :
      Alike w { w with pool, counts, calls }

theorem startAlike (pipeline : Nat) (source : σ) (renderer : ρ) (frameCount : UInt64)
    (options : PipelineOptions) :
    Alike (start pipeline source renderer frameCount options)
      (start pipeline source renderer frameCount options) :=
  .other _ _ _ (Pool.emptyFits _) (Pool.emptyFits _) fun _ h => nomatch h

theorem Alike.takeBack {w w' : Worker σ ρ} (alike : Alike w w') (b : Buffer) :
    Alike w (w'.takeBack b) := by
  obtain ⟨pool, counts, calls, fits, otherFits, whole⟩ := alike
  exact .other _ counts calls fits (Pool.releaseFits otherFits b) whole

variable [FrameSource σ] [SubtitleRenderer ρ]

omit [SubtitleRenderer ρ] in
theorem pictureAlike {w w' : Worker σ ρ} (alike : Alike w w') (n : UInt64) :
    (w'.picture n).1 = (w.picture n).1 ∧ Alike (w.picture n).2 (w'.picture n).2 ∧
      ∀ p, (w.picture n).1 = .done p → p.isWellFormed = true := by
  obtain ⟨pool, counts, calls, fits, otherFits, whole⟩ := alike
  have same : ({ w with pool, counts, calls } : Worker σ ρ).decodedBefore? n =
      w.decodedBefore? n := rfl
  unfold picture
  rw [same]
  cases before : w.decodedBefore? n with
  | some p =>
    refine ⟨rfl, .other _ _ _ fits otherFits whole, fun q shown => ?_⟩
    cases shown
    exact whole _ (decodedBeforeSpec before)
  | none =>
    unfold decode
    generalize (FrameSource.decode n w.source) = asked
    obtain ⟨outcome, source⟩ := asked
    cases outcome with
    | done p =>
      cases ok : p.isWellFormed with
      | true =>
        simp only [ok, if_true]
        refine ⟨trivial, .other _ _ _ fits otherFits fun d h => ?_, fun q shown => ?_⟩
        · cases h
          exact ok
        · cases shown
          exact ok
      | false =>
        simp only [ok]
        exact ⟨rfl, .other _ _ _ fits otherFits (fun _ h => nomatch h),
          fun _ shown => nomatch shown⟩
    | refused e =>
      exact ⟨rfl, .other _ _ _ fits otherFits (fun _ h => nomatch h), fun _ shown => nomatch shown⟩
    | panicked payload =>
      exact ⟨rfl, .other _ _ _ fits otherFits (fun _ h => nomatch h), fun _ shown => nomatch shown⟩

omit [SubtitleRenderer ρ] in
theorem finishAlike {w w' : Worker σ ρ} (alike : Alike w w') (n : UInt64) (t : Int64)
    (lines : List SubtitleLine) (fault : Option SubtitleError) (buffer : Buffer) :
    (w'.finish n t lines fault buffer).1 = (w.finish n t lines fault buffer).1 ∧
      Alike (w.finish n t lines fault buffer).2 (w'.finish n t lines fault buffer).2 := by
  obtain ⟨pool, counts, calls, fits, otherFits, whole⟩ := alike
  unfold finish
  cases FrameSource.colorSpace w.source with
  | error payload =>
    exact ⟨rfl, .other _ _ _ (Pool.releaseFits fits _) (Pool.releaseFits otherFits _) whole⟩
  | ok colorSpace => exact ⟨rfl, .other _ _ _ fits otherFits whole⟩

theorem drawAlike {w w' : Worker σ ρ} (alike : Alike w w') (n : UInt64) (t : Int64)
    (lines : List SubtitleLine) {p : Picture} (ok : p.isWellFormed = true) :
    (w'.draw n t lines p).1 = (w.draw n t lines p).1 ∧
      Alike (w.draw n t lines p).2 (w'.draw n t lines p).2 := by
  obtain ⟨pool, counts, calls, fits, otherFits, whole⟩ := alike
  -- what lay in the buffer before is covered by the whole copy
  have filled {pool : Pool} (fits : pool.Fits) : ∃ left data,
      pool.borrow ⟨p.width, p.height⟩ = (left, ⟨⟨p.width, p.height⟩, data⟩) ∧ left.Fits ∧
        p.copyInto data = p.packed := by
    obtain ⟨left, full, size⟩ := Pool.borrowFits fits ⟨p.width, p.height⟩
    generalize pool.borrow ⟨p.width, p.height⟩ = borrowed at left full size ⊢
    obtain ⟨pool, ⟨given, data⟩⟩ := borrowed
    cases size
    exact ⟨pool, data, rfl, left, Picture.copyIntoFull ok full⟩
  obtain ⟨left, data, borrowed, fits, copied⟩ := filled fits
  obtain ⟨otherLeft, otherData, otherBorrowed, otherFits, otherCopied⟩ := filled otherFits
  simp only [draw, borrow, borrowed, copied, otherBorrowed, otherCopied]
  cases bare : lines.isEmpty with
  | true =>
    refine finishAlike ?_ ..
    exact .other _ _ _ fits otherFits whole
  | false =>
    simp only [render, Bool.false_eq_true, if_false]
    generalize (SubtitleRenderer.render _ _ _ _ : Drawing ρ) = drawing
    obtain ⟨result, pixels, renderer⟩ := drawing
    cases result with
    | done u =>
      refine finishAlike ?_ ..
      exact .other _ _ _ fits otherFits whole
    | refused fault =>
      refine finishAlike ?_ ..
      exact .other _ _ _ fits otherFits whole
    | panicked payload =>
      exact ⟨rfl, .other _ _ _ (Pool.releaseFits fits _) (Pool.releaseFits otherFits _) whole⟩

theorem produceAlike {w w' : Worker σ ρ} (alike : Alike w w') (n : UInt64) (t : Int64)
    (withSubtitles : Bool) :
    (w'.produce n t withSubtitles).1 = (w.produce n t withSubtitles).1 ∧
      Alike (w.produce n t withSubtitles).2 (w'.produce n t withSubtitles).2 := by
  have lines : w'.lines t withSubtitles = w.lines t withSubtitles := by
    cases alike
    rfl
  unfold produce
  rw [lines]
  generalize w.lines t withSubtitles = lines
  have counting : Alike { w with counts := { w.counts with computed := w.counts.computed + 1 } }
      { w' with counts := { w'.counts with computed := w'.counts.computed + 1 } } := by
    obtain ⟨pool, counts, calls, fits, otherFits, whole⟩ := alike
    exact .other _ _ _ fits otherFits whole
  generalize { w with counts := _ } = v, { w' with counts := _ } = v' at counting
  have before : v'.renderedBefore? n t lines = v.renderedBefore? n t lines := by
    cases counting
    rfl
  have count : v'.frameCount = v.frameCount := by
    cases counting
    rfl
  simp only [before, count]
  cases shown : v.renderedBefore? n t lines with
  | some frame =>
    obtain ⟨pool, counts, calls, fits, otherFits, whole⟩ := counting
    exact ⟨rfl, .other _ _ _ fits otherFits whole⟩
  | none =>
    by_cases outside : v.frameCount ≤ n
    · simp only [outside, if_true]
      exact ⟨trivial, counting⟩
    · obtain ⟨same, alike, whole⟩ := pictureAlike counting n
      simp only [outside, if_false]
      generalize v.picture n = looked, v'.picture n = looked' at same alike whole
      obtain ⟨found, u⟩ := looked
      obtain ⟨found', u'⟩ := looked'
      cases same
      cases found with
      | done p => exact drawAlike alike n t lines (whole p rfl)
      | refused e => exact ⟨rfl, alike⟩
      | panicked payload => exact ⟨rfl, alike⟩

theorem processAlike {w w' : Worker σ ρ} (alike : Alike w w') (current current' : Version)
    (n : UInt64) (t : Int64) (v : Version) :
    (w'.process current' n t v).1 = (w.process current n t v).1 ∧
      Alike (w.process current n t v).2.1 (w'.process current' n t v).2.1 := by
  obtain ⟨same, alike⟩ := produceAlike alike n t true
  unfold process
  generalize w.produce n t true = made, w'.produce n t true = made' at same alike
  obtain ⟨outcome, u⟩ := made
  obtain ⟨outcome', u'⟩ := made'
  cases same
  obtain ⟨pool, counts, calls, fits, otherFits, whole⟩ := alike
  exact ⟨rfl, .other _ _ _ fits otherFits whole⟩

theorem carryOutAlike {w w' : Worker σ ρ} (alike : Alike w w') (current current' : Version)
    (job : Job) :
    (w'.carryOut current' job).1.handover? = (w.carryOut current job).1.handover? ∧
      Alike (w.carryOut current job).2.1 (w'.carryOut current' job).2.1 := by
  cases job with
  | display n t v =>
    have moved : Alike { w with position := some (n, t) } { w' with position := some (n, t) } := by
      obtain ⟨pool, counts, calls, fits, otherFits, whole⟩ := alike
      exact .other pool counts calls fits otherFits whole
    obtain ⟨same, alike⟩ := processAlike moved current current' n t v
    exact ⟨congrArg Yield.handover? same, alike⟩
  | rescript script v =>
    have rescripted : Alike { w with script } { w' with script } := by
      obtain ⟨pool, counts, calls, fits, otherFits, whole⟩ := alike
      exact .other pool counts calls fits otherFits whole
    have position : w'.position = w.position := by
      cases alike
      rfl
    cases shown : w.position with
    | none =>
      rw [rescriptIdle shown, rescriptIdle (position.trans shown)]
      exact ⟨rfl, rescripted⟩
    | some last =>
      rw [rescriptBusy shown, rescriptBusy (position.trans shown)]
      obtain ⟨same, alike⟩ := processAlike rescripted current current' last.1 last.2 v
      exact ⟨congrArg Yield.handover? same, alike⟩
  | recolor matrix =>
    obtain ⟨pool, counts, calls, fits, otherFits, whole⟩ := alike
    have same : ({ w with pool, counts, calls } : Worker σ ρ).source = w.source := rfl
    cases set : FrameSource.setColorSpace matrix w.source with
    | mk thrown source =>
      cases thrown with
      | none =>
        rw [recolorDone set, recolorDone (same ▸ set)]
        exact ⟨rfl, .other _ _ _ fits otherFits fun _ h => nomatch h⟩
      | some payload =>
        rw [recolorThrew set, recolorThrew (same ▸ set)]
        exact ⟨rfl, .other _ _ _ fits otherFits whole⟩
  | fetch n t withSubtitles =>
    obtain ⟨-, alike⟩ := produceAlike alike n t withSubtitles
    exact ⟨rfl, alike⟩
  | inspect => exact ⟨rfl, alike⟩

def answer (made : List Request) (w : Worker σ ρ) (q : Request) :
    Yield × Worker σ ρ × List LogEntry :=
  w.carryOut (Request.version (made ++ [q])) (Request.job (made ++ [q]) q)

def serve (served : List Request × Worker σ ρ) (q : Request) : List Request × Worker σ ρ :=
  (served.1 ++ [q], (answer served.1 served.2 q).2.1)

def served (first : Worker σ ρ) (made : List Request) : Worker σ ρ :=
  (play serve ([], first) made).2

def handovers (first : Worker σ ρ) (made : List Request) : List Handover :=
  seen serve (fun served q => (answer served.1 served.2 q).1.handover?.toList) ([], first) made

def deliveries (first : Worker σ ρ) (made : List Request) : List (List Event) :=
  (first.handovers made).filterMap Handover.delivery?

def surfaced (first : Worker σ ρ) (made : List Request) : List Failure :=
  (first.handovers made).filterMap Handover.failure?

theorem servedMade (first : Worker σ ρ) (made : List Request) :
    (play serve ([], first) made).1 = made := by
  induction made using List.reverseRecOn with
  | nil => rfl
  | append_singleton made q ih => rw [playSnoc, serve, ih]

theorem servedNext {first w : Worker σ ρ} {made : List Request}
    (alike : Alike (first.served made) w) (current : Version) (q : Request) :
    first.handovers (made ++ [q]) = first.handovers made ++
        (w.carryOut current (Request.job (made ++ [q]) q)).1.handover?.toList ∧
      Alike (first.served (made ++ [q]))
        (w.carryOut current (Request.job (made ++ [q]) q)).2.1 := by
  obtain ⟨same, next⟩ := carryOutAlike alike (Request.version (made ++ [q])) current
    (Request.job (made ++ [q]) q)
  rw [handovers, seenSnoc, served, playSnoc, serve, servedMade, same]
  exact ⟨rfl, next⟩

end Worker

namespace Pipeline

variable {σ ρ : Type}

structure Follows [FrameSource σ] [SubtitleRenderer ρ] (first : Worker σ ρ)
    (done waiting : List Request) (out : List Handover) (p : Pipeline σ ρ) : Prop where
  id : p.id = 0
  viewer : p.viewer = 0
  accepts : p.queue.accepts = true
  version : p.version = Request.version (done ++ waiting)
  backlog : p.queue.backlog = Request.jobs done waiting
  worker : (first.served done).Alike p.worker
  handed : out ++ p.handover.toList = first.handovers done

variable [FrameSource σ] [SubtitleRenderer ρ] {first : Worker σ ρ} {done waiting : List Request}
  {out : List Handover} {p : Pipeline σ ρ}

theorem startFollows (queue path : String) (source : σ) (renderer : ρ)
    (options : PipelineOptions) :
    let p := start 0 queue path source renderer 0 options
    p.Follows p.worker [] [] [] :=
  ⟨rfl, rfl, rfl, rfl, rfl, Worker.startAlike .., rfl⟩

theorem Follows.isOpen (follows : p.Follows first done waiting out) : p.isOpen = true :=
  (Bool.and_eq_true_iff.mp follows.accepts).1

theorem Follows.ask (follows : p.Follows first done waiting out) (q : Request) :
    (p.ask q).Follows first done (waiting ++ [q]) out := by
  refine ⟨by simpa using follows.id, by simpa using follows.viewer,
    (congrArg₂ _ (p.askIsOpen q) (p.askServed q)).trans follows.accepts,
    by simpa using p.askVersion q follows.version, ?_, by simpa using follows.worker,
    by simpa using follows.handed⟩
  rw [Pipeline.askQueue q follows.accepts follows.version, follows.backlog, Request.jobs,
    Request.eachSnoc]

theorem Follows.takeBack (follows : p.Follows first done waiting out) (b : Buffer) :
    (p.takeBack b).Follows first done waiting out :=
  ⟨follows.id, follows.viewer, follows.accepts, follows.version, follows.backlog,
    follows.worker.takeBack b, follows.handed⟩

theorem Follows.takeAnswer (follows : p.Follows first done waiting out) {a : JobAnswer}
    {p' : Pipeline σ ρ} (taken : p.takeAnswer? = some (a, p')) :
    p'.Follows first done waiting out ∧ p'.remaining = p.remaining := by
  unfold takeAnswer? at taken
  cases answers : p.answers with
  | nil => simp [answers] at taken
  | cons b rest =>
    rw [answers] at taken
    cases taken
    exact ⟨⟨follows.id, follows.viewer, follows.accepts, follows.version, follows.backlog,
      follows.worker, follows.handed⟩, rfl⟩

theorem Follows.relieved (follows : p.Follows first done waiting out) {h : Handover}
    (held : p.handover = some h) : p.relieved.Follows first done waiting (out ++ [h]) := by
  have handed := follows.handed
  rw [held] at handed
  exact ⟨follows.id, follows.viewer, follows.accepts, follows.version, follows.backlog,
    follows.worker, by simpa [Pipeline.relieved] using handed⟩

omit [FrameSource σ] [SubtitleRenderer ρ] in
theorem relievedRemaining {h : Handover} (held : p.handover = some h) :
    p.relieved.remaining + 1 = p.remaining := by
  simp [remaining, relieved, held]

theorem Follows.compute (follows : p.Follows first done waiting out) (free : p.handover = none) :
    ∃ more rest, waiting = more ++ rest ∧
      p.compute.1.Follows first (done ++ more) rest out ∧
      p.compute.1.remaining ≤ p.remaining - 1 := by
  cases waiting with
  | nil =>
    have idle : p.queue.backlog = [] := follows.backlog
    rw [computeIdle idle]
    refine ⟨[], [], rfl, by simpa using follows, ?_⟩
    simp [remaining, idle, free]
  | cons q rest =>
    have next := computeNext free follows.backlog
    obtain ⟨handed, alike⟩ := Worker.servedNext follows.worker p.version q
    have before := follows.handed
    rw [free, Option.toList_none, List.append_nil] at before
    refine ⟨[q], rest, rfl, ⟨by simpa using follows.id, by simpa using follows.viewer,
      (congrArg₂ _ next.isOpen next.isServed).trans follows.accepts, ?_, next.backlog,
      next.worker ▸ alike, ?_⟩, ?_⟩
    · simpa [next.version] using follows.version
    · rw [handed, next.handover, before]
    · have long : p.queue.backlog.length = rest.length + 1 := by
        rw [follows.backlog, Request.jobsLength, List.length_cons]
      have left : p.compute.1.queue.backlog.length = rest.length := by
        rw [next.backlog]
        exact Request.jobsLength (done ++ [q]) rest
      unfold remaining
      split <;> omega

end Pipeline
end VideoPreview
