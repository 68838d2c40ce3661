import VideoPreview.Worker

/-! What holds of a computation whatever the stream and the renderer answer: what it may use again,
what it leaves alone, and which frame it can come to. -/
namespace VideoPreview

namespace Worker

variable {σ ρ : Type}

/-- A frame that agrees in its lines has subtitles just if there are any: this test adds nothing. -/
theorem renderedBeforeIff {w : Worker σ ρ} {n : UInt64} {t : Int64} {lines : List SubtitleLine}
    {frame : Frame} : w.renderedBefore? n t lines = some frame ↔
      w.options.reuseRendered = true ∧ ∃ last, w.lastRender = some last ∧ last.frame = frame ∧
        last.frame.number = n ∧ last.frame.time = t ∧ last.lines = lines := by
  unfold renderedBefore?
  cases found : w.lastRender with
  | none => simp
  | some last =>
    have subtitled (same : last.lines = lines) : last.frame.hasSubtitles = !lines.isEmpty :=
      same ▸ last.subtitled
    simp only [Option.ite_none_right_eq_some, Bool.and_eq_true, decide_eq_true_eq, beq_iff_eq,
      Option.some.injEq, exists_eq_left']
    constructor
    · rintro ⟨⟨⟨⟨⟨reuses, number⟩, time⟩, same⟩, -⟩, shown⟩
      exact ⟨reuses, shown, number, time, same⟩
    · rintro ⟨reuses, shown, number, time, same⟩
      exact ⟨⟨⟨⟨⟨reuses, number⟩, time⟩, same⟩, subtitled same⟩, shown⟩

theorem decodedBeforeSpec {w : Worker σ ρ} {n : UInt64} {p : Picture}
    (before : w.decodedBefore? n = some p) : w.decoded = some (n, p) := by
  unfold decodedBefore? at before
  split at before
  case h_2 => contradiction
  case h_1 m q found =>
    split at before
    case isFalse => contradiction
    case isTrue same =>
      simp only [Bool.and_eq_true, decide_eq_true_eq] at same
      rw [found, same.2, Option.some.inj before]

variable [FrameSource σ] [SubtitleRenderer ρ]

omit [SubtitleRenderer ρ] in
theorem finishKeeps (w : Worker σ ρ) (n : UInt64) (t : Int64) (lines : List SubtitleLine)
    (fault : Option SubtitleError) (buffer : Buffer) :
    (w.finish n t lines fault buffer).2.script = w.script ∧
      (w.finish n t lines fault buffer).2.position = w.position := by
  unfold finish
  cases FrameSource.colorSpace w.source <;> exact ⟨rfl, rfl⟩

theorem drawKeeps (w : Worker σ ρ) (n : UInt64) (t : Int64) (lines : List SubtitleLine)
    (p : Picture) : (w.draw n t lines p).2.script = w.script ∧
      (w.draw n t lines p).2.position = w.position := by
  unfold draw borrow render
  cases bare : lines.isEmpty with
  | true => exact finishKeeps ..
  | false =>
    simp only
    generalize (SubtitleRenderer.render _ _ _ _ : Drawing ρ) = drawing
    obtain ⟨result, pixels, renderer⟩ := drawing
    cases result with
    | done u => exact finishKeeps ..
    | refused fault => exact finishKeeps ..
    | panicked payload => exact ⟨rfl, rfl⟩

omit [SubtitleRenderer ρ] in
theorem pictureKeeps (w : Worker σ ρ) (n : UInt64) :
    (w.picture n).2.script = w.script ∧ (w.picture n).2.position = w.position := by
  unfold picture decode
  cases w.decodedBefore? n with
  | some p => exact ⟨rfl, rfl⟩
  | none =>
    generalize (FrameSource.decode n w.source) = asked
    obtain ⟨outcome, source⟩ := asked
    cases outcome with
    | done p => cases h : p.isWellFormed <;> simp [h]
    | refused e => exact ⟨rfl, rfl⟩
    | panicked payload => exact ⟨rfl, rfl⟩

theorem produceKeeps (w : Worker σ ρ) (n : UInt64) (t : Int64) (withSubtitles : Bool) :
    (w.produce n t withSubtitles).2.script = w.script ∧
      (w.produce n t withSubtitles).2.position = w.position := by
  unfold produce
  generalize w.lines t withSubtitles = lines
  generalize counted : { w with counts := _ } = counting
  have same : counting.script = w.script ∧ counting.position = w.position := by
    rw [← counted]
    exact ⟨rfl, rfl⟩
  cases before : counting.renderedBefore? n t lines with
  | some frame => simpa [before] using same
  | none =>
    by_cases outside : counting.frameCount ≤ n
    · simpa [before, outside] using same
    · have looked := pictureKeeps counting n
      simp only [before, outside, if_false]
      generalize counting.picture n = after at looked ⊢
      obtain ⟨found, w'⟩ := after
      simp only at looked
      rw [← same.1, ← same.2, ← looked.1, ← looked.2]
      cases found with
      | done p => exact drawKeeps w' n t lines p
      | refused e => exact ⟨rfl, rfl⟩
      | panicked payload => exact ⟨rfl, rfl⟩

omit [SubtitleRenderer ρ] in
theorem finishFrames {w : Worker σ ρ} {n : UInt64} {t : Int64} {lines : List SubtitleLine}
    {fault : Option SubtitleError} {buffer : Buffer} {rendered : Rendered}
    (finished : (w.finish n t lines fault buffer).1 = .done rendered) :
    rendered.fault = fault ∧ rendered.frame.number = n ∧ rendered.frame.buffer = buffer ∧
      rendered.frame.hasSubtitles = (!lines.isEmpty && fault.isNone) := by
  unfold finish at finished
  cases named : FrameSource.colorSpace w.source with
  | error payload =>
    rw [named] at finished
    cases finished
  | ok colorSpace =>
    rw [named] at finished
    cases finished
    exact ⟨rfl, rfl, rfl, rfl⟩

omit [SubtitleRenderer ρ] in
theorem finishShows {w : Worker σ ρ} {n : UInt64} {t : Int64} {lines : List SubtitleLine}
    {fault : Option SubtitleError} {buffer : Buffer} {rendered : Rendered}
    (finished : (w.finish n t lines fault buffer).1 = .done rendered) :
    rendered.frame.number = n ∧ (rendered.fault ≠ none → rendered.frame.hasSubtitles = false) := by
  obtain ⟨rfl, number, -, subtitled⟩ := finishFrames finished
  refine ⟨number, fun faulty => ?_⟩
  simp [subtitled, Option.isNone_eq_false_iff.mpr (Option.isSome_iff_ne_none.mpr faulty)]

theorem drawShows {w : Worker σ ρ} {n : UInt64} {t : Int64} {lines : List SubtitleLine}
    {p : Picture} {rendered : Rendered} (drawn : (w.draw n t lines p).1 = .done rendered) :
    rendered.frame.number = n ∧ (rendered.fault ≠ none → rendered.frame.hasSubtitles = false) := by
  unfold draw borrow render at drawn
  cases bare : lines.isEmpty with
  | true =>
    simp only [bare, if_true] at drawn
    exact finishShows drawn
  | false =>
    simp only [bare, Bool.false_eq_true, if_false] at drawn
    generalize (SubtitleRenderer.render _ _ _ _ : Drawing ρ) = drawing at drawn
    obtain ⟨result, pixels, renderer⟩ := drawing
    cases result with
    | done u => exact finishShows drawn
    | refused fault => exact finishShows drawn
    | panicked payload => cases drawn

theorem produceShows {w : Worker σ ρ} {n : UInt64} {t : Int64} {withSubtitles : Bool}
    {rendered : Rendered} (produced : (w.produce n t withSubtitles).1 = .done rendered) :
    rendered.frame.number = n ∧ (rendered.fault ≠ none → rendered.frame.hasSubtitles = false) := by
  unfold produce at produced
  generalize w.lines t withSubtitles = lines at produced
  generalize { w with counts := _ } = counting at produced
  cases before : counting.renderedBefore? n t lines with
  | some frame =>
    simp only [before] at produced
    obtain ⟨-, last, -, same, number, -⟩ := renderedBeforeIff.mp before
    cases produced
    exact ⟨same ▸ number, fun faulty => absurd rfl faulty⟩
  | none =>
    by_cases outside : counting.frameCount ≤ n
    · simp only [before, outside, if_true] at produced
      cases produced
    · simp only [before, outside, if_false] at produced
      generalize counting.picture n = after at produced
      obtain ⟨found, w'⟩ := after
      cases found with
      | done p => exact drawShows produced
      | refused e => cases produced
      | panicked payload => cases produced

end Worker
end VideoPreview
