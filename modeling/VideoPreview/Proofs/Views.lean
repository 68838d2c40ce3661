import VideoPreview.Proofs.Drawing

/-! What a computation does with what the worker remembers. It shows the last frame once more, and
then nobody is asked for anything, or it asks the stream and the renderer at most once each and
makes at most one frame. -/
namespace VideoPreview

structure View where
  number : UInt64
  time : Int64
  lines : List SubtitleLine

structure Memory (σ ρ : Type) where
  pipeline : Nat
  options : PipelineOptions
  source : σ
  renderer : ρ
  pool : Pool
  decoded : Option (UInt64 × Picture)
  lastRender : Option LastRender
  framesMade : Nat
  calls : List Call

variable {σ ρ : Type}

def Worker.memory (w : Worker σ ρ) : Memory σ ρ where
  pipeline := w.pipeline
  options := w.options
  source := w.source
  renderer := w.renderer
  pool := w.pool
  decoded := w.decoded
  lastRender := w.lastRender
  framesMade := w.framesMade
  calls := w.calls

def Job.view? (w : Worker σ ρ) : Job → Option View
  | .display n t _ => some ⟨n, t, w.script.visibleAt t⟩
  | .rescript script _ =>
    w.position.map fun last => ⟨last.1, last.2, script.visibleAt last.2⟩
  | .fetch n t withSubtitles => some ⟨n, t, w.lines t withSubtitles⟩
  | .recolor _ => none
  | .inspect => none

/-! A frame is clean if it was shown without an error. -/

def Attempt.clean? : Attempt SourceError Rendered → Option Frame
  | .done ⟨f, none⟩ => some f
  | _ => none

def Attempt.frames (outcome : Attempt SourceError Rendered) : List Frame :=
  (JobAnswer.computed outcome).frames

def Yield.clean? : Yield → Option Frame
  | .handover (.deliver [.frameReady f _]) => some f
  | .answer (.computed outcome) => outcome.clean?
  | _ => none

theorem handoverClean (n : UInt64) (v : Version) (outcome : Attempt SourceError Rendered) :
    (Yield.handover (.ofOutcome n v outcome)).clean? = outcome.clean? := by
  cases outcome with
  | done rendered =>
    obtain ⟨f, fault⟩ := rendered
    cases fault <;> rfl
  | refused e => rfl
  | panicked payload => rfl

namespace Memory

structure Offers (m : Memory σ ρ) (v : View) (f : Frame) : Prop where
  reuses : m.options.reuseRendered = true
  subtitled : f.hasSubtitles = !v.lines.isEmpty
  last : m.lastRender = some ⟨v.lines, f, subtitled⟩
  number : f.number = v.number
  time : f.time = v.time

inductive Looked [FrameSource σ] (n : UInt64) (m m' : Memory σ ρ) : List Call → Prop where
  | kept (decoded : m'.decoded = m.decoded) : Looked n m m' []
  | asked (missed : ∀ p, m.decoded = some (n, p) → m.options.reuseDecoded = false)
      (colorSpace : Option String) (delivered : Bool)
      (decoded : ∀ p, (FrameSource.decode n m.source).1 = .done p → p.isWellFormed = true →
        m'.decoded = some (n, p)) : Looked n m m' [.decode n colorSpace delivered]

structure Looks [FrameSource σ] (n : UInt64) (m m' : Memory σ ρ) : Prop where
  pipeline : m'.pipeline = m.pipeline
  options : m'.options = m.options
  lastRender : m'.lastRender = m.lastRender
  framesMade : m'.framesMade = m.framesMade
  calls : ∃ looks, m'.calls = m.calls ++ looks ∧ Looked n m m' looks

inductive Drew (v : View) : List Call → Prop where
  | bare : Drew v []
  | lines (size : PictureSize) : Drew v [.render size v.time v.lines]

structure Draws (v : View) (m m' : Memory σ ρ) : Prop where
  pipeline : m'.pipeline = m.pipeline
  options : m'.options = m.options
  decoded : m'.decoded = m.decoded
  calls : ∃ draws, m'.calls = m.calls ++ draws ∧ Drew v draws

structure Makes (v : View) (m m' : Memory σ ρ) (outcome : Attempt SourceError Rendered) : Prop where
  new : ∀ f ∈ outcome.frames, f.id = ⟨m.pipeline, m.framesMade⟩
  made : m'.framesMade = m.framesMade + outcome.frames.length
  clean : ∀ f, outcome.clean? = some f → ∃ subtitled,
    m'.lastRender = some ⟨v.lines, f, subtitled⟩ ∧ f.number = v.number ∧ f.time = v.time
  failed : outcome.clean? = none → m'.lastRender = m.lastRender

inductive Came [FrameSource σ] (v : View) (m m' : Memory σ ρ) :
    Attempt SourceError Rendered → Prop where
  | again {f : Frame} (offered : m.Offers v f) (same : m' = m) : Came v m m' (.done ⟨f, none⟩)
  | anew {outcome} (missed : ∀ f, ¬m.Offers v f) (makes : Makes v m m' outcome)
      {m₁ : Memory σ ρ} (looks : Looks v.number m m₁) (draws : Draws v m₁ m') : Came v m m' outcome

theorem Makes.nothing {v : View} {m m' : Memory σ ρ} {outcome : Attempt SourceError Rendered}
    (frames : outcome.frames = []) (failed : outcome.clean? = none)
    (made : m'.framesMade = m.framesMade) (last : m'.lastRender = m.lastRender) :
    Makes v m m' outcome :=
  ⟨by simp [frames], by simp [frames, made], fun f shown => (nomatch failed.symm.trans shown),
    fun _ => last⟩

theorem Makes.since [FrameSource σ] {v : View} {m m₁ m' : Memory σ ρ}
    {outcome : Attempt SourceError Rendered} (makes : Makes v m₁ m' outcome)
    (looks : Looks v.number m m₁) : Makes v m m' outcome :=
  ⟨looks.pipeline ▸ looks.framesMade ▸ makes.new, looks.framesMade ▸ makes.made, makes.clean,
    looks.lastRender ▸ makes.failed⟩

end Memory

namespace Worker

open Memory (Looks Draws Makes Came)

theorem offersIff (w : Worker σ ρ) (n : UInt64) (t : Int64) (lines : List SubtitleLine)
    (f : Frame) : w.renderedBefore? n t lines = some f ↔ w.memory.Offers ⟨n, t, lines⟩ f := by
  rw [renderedBeforeIff]
  constructor
  · rintro ⟨reuses, last, found, rfl, number, time, rfl⟩
    exact ⟨reuses, last.subtitled, found, number, time⟩
  · rintro ⟨reuses, subtitled, last, number, time⟩
    exact ⟨reuses, _, last, rfl, number, time, rfl⟩

theorem decodedMissed {w : Worker σ ρ} {n : UInt64} (missed : w.decodedBefore? n = none)
    (p : Picture) (held : w.decoded = some (n, p)) : w.options.reuseDecoded = false := by
  by_contra on
  simp [decodedBefore?, held, on] at missed

variable [FrameSource σ] [SubtitleRenderer ρ]

omit [SubtitleRenderer ρ] in
theorem decodeAsks (w : Worker σ ρ) (n : UInt64) :
    ∃ source decoded delivered, (w.decode n).2.memory =
        { w.memory with source, decoded, calls :=
          w.calls ++ [.decode n (FrameSource.colorSpace w.source).toOption delivered] } ∧
      ∀ p, (FrameSource.decode n w.source).1 = .done p → p.isWellFormed = true →
        decoded = some (n, p) := by
  unfold decode
  generalize FrameSource.decode n w.source = asked
  obtain ⟨found, source⟩ := asked
  cases found with
  | done p =>
    refine ⟨source, if p.isWellFormed then some (n, p) else none, true, ?_, fun q same ok => ?_⟩
    · simp only
      split <;> rfl
    · cases same
      exact if_pos ok
  | refused e => exact ⟨source, none, false, rfl, fun _ same => nomatch same⟩
  | panicked payload => exact ⟨source, none, false, rfl, fun _ same => nomatch same⟩

omit [SubtitleRenderer ρ] in
theorem pictureLooks (w : Worker σ ρ) (n : UInt64) : Looks n w.memory (w.picture n).2.memory := by
  unfold picture
  cases missed : w.decodedBefore? n with
  | some p => exact ⟨rfl, rfl, rfl, rfl, [], (List.append_nil _).symm, .kept rfl⟩
  | none =>
    obtain ⟨source, decoded, delivered, left, found⟩ := w.decodeAsks n
    simp only [left]
    exact ⟨rfl, rfl, rfl, rfl, _, rfl, .asked (decodedMissed missed) _ _ found⟩

omit [SubtitleRenderer ρ] in
theorem finishDraws {w : Worker σ ρ} {m : Memory σ ρ} {draws : List Call} (v : View)
    (fault : Option SubtitleError) (buffer : Buffer) (pipeline : w.pipeline = m.pipeline)
    (options : w.options = m.options) (decoded : w.decoded = m.decoded)
    (made : w.framesMade = m.framesMade) (last : w.lastRender = m.lastRender)
    (calls : w.calls = m.calls ++ draws) (drew : Memory.Drew v draws) :
    let finished := w.finish v.number v.time v.lines fault buffer
    Draws v m finished.2.memory ∧ Makes v m finished.2.memory finished.1 := by
  unfold finish
  cases FrameSource.colorSpace w.source with
  | error payload =>
    exact ⟨⟨pipeline, options, decoded, draws, calls, drew⟩, .nothing rfl rfl made last⟩
  | ok colorSpace =>
    refine ⟨⟨pipeline, options, decoded, draws, calls, drew⟩, fun f member => ?_,
      congrArg (· + 1) made, fun f shown => ?_, fun unclean => ?_⟩
    · cases List.mem_singleton.mp member
      exact congrArg₂ FrameId.mk pipeline made
    · cases fault with
      | none =>
        cases shown
        exact ⟨by simp [newFrame], rfl, rfl, rfl⟩
      | some fault => cases shown
    · cases fault with
      | none => cases unclean
      | some fault => exact last

theorem drawMakes (w : Worker σ ρ) (v : View) (p : Picture) :
    let drawn := w.draw v.number v.time v.lines p
    Draws v w.memory drawn.2.memory ∧ Makes v w.memory drawn.2.memory drawn.1 := by
  unfold draw borrow render
  cases bare : v.lines.isEmpty with
  | true =>
    simp only [if_true]
    exact finishDraws v none _ rfl rfl rfl rfl rfl (List.append_nil _).symm .bare
  | false =>
    simp only [Bool.false_eq_true, if_false]
    generalize (SubtitleRenderer.render _ _ _ _ : Drawing ρ) = drawing
    obtain ⟨result, pixels, renderer⟩ := drawing
    cases result with
    | done u => exact finishDraws v none _ rfl rfl rfl rfl rfl rfl (.lines _)
    | refused fault => exact finishDraws v (some fault) _ rfl rfl rfl rfl rfl rfl (.lines _)
    | panicked payload => exact ⟨⟨rfl, rfl, rfl, _, rfl, .lines _⟩, .nothing rfl rfl rfl rfl⟩

theorem produceCame (w : Worker σ ρ) (n : UInt64) (t : Int64) (withSubtitles : Bool) :
    Came ⟨n, t, w.lines t withSubtitles⟩ w.memory (w.produce n t withSubtitles).2.memory
      (w.produce n t withSubtitles).1 := by
  unfold produce
  generalize w.lines t withSubtitles = lines
  generalize counted : { w with counts := _ } = counting
  have same : w.memory = counting.memory := by
    rw [← counted]
    rfl
  rw [same]
  cases before : counting.renderedBefore? n t lines with
  | some f =>
    simp only [before]
    exact .again ((offersIff ..).mp before) rfl
  | none =>
    have missed (f : Frame) : ¬counting.memory.Offers ⟨n, t, lines⟩ f := by
      rw [← offersIff, before]
      exact Option.some_ne_none f ∘ Eq.symm
    have failed {m} {outcome} (frames : outcome.frames = []) (unclean : outcome.clean? = none)
        (looks : Looks n counting.memory m) : Came ⟨n, t, lines⟩ counting.memory m outcome :=
      .anew missed (.nothing frames unclean looks.framesMade looks.lastRender) looks
        ⟨rfl, rfl, rfl, [], (List.append_nil _).symm, .bare⟩
    by_cases outside : counting.frameCount ≤ n
    · simp only [before, outside, if_true]
      exact failed rfl rfl ⟨rfl, rfl, rfl, rfl, [], (List.append_nil _).symm, .kept rfl⟩
    · have looks := counting.pictureLooks n
      simp only [before, outside, if_false]
      generalize counting.picture n = pictured at looks
      obtain ⟨found, w₁⟩ := pictured
      cases found with
      | refused e => exact failed rfl rfl looks
      | panicked payload => exact failed rfl rfl looks
      | done p =>
        obtain ⟨draws, makes⟩ := w₁.drawMakes ⟨n, t, lines⟩ p
        exact .anew missed (makes.since looks) looks draws

end Worker
end VideoPreview
