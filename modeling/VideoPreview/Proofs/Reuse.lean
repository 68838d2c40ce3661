import VideoPreview.Proofs.Computation
import VideoPreview.Proofs.Reference

/-! What a worker remembers is what the reference computes, whichever way its computations end, so
that a frame or a picture used again is the one that would be made anew. -/
namespace VideoPreview

variable {σ ρ : Type} [FrameSource σ] [SubtitleRenderer ρ]

namespace Reference

structure Remembered (r : Reference) (source : σ) (renderer : ρ) (matrices : List String)
    (w : Worker σ ρ) : Prop where
  frameCount : w.frameCount = r.frameCount
  stream : ∃ calls, w.source = StreamCall.after source calls ∧
    StreamCall.matrices calls = matrices
  drawings : ∃ drawings, w.renderer = afterDrawings renderer drawings
  parked : w.pool.Fits
  decoded : ∀ n p, w.decoded = some (n, p) → r.picture matrices n = .done p
  lastRender : ∀ last, w.lastRender = some last →
    r.compute matrices last.lines last.frame.number last.frame.time =
      .done ⟨last.frame.unnamed, none⟩

variable {r : Reference} {source : σ} {renderer : ρ} {matrices : List String} {w : Worker σ ρ}

theorem pictureWellFormed {n : UInt64} {p : Picture} (h : r.picture matrices n = .done p) :
    p.isWellFormed = true := by
  unfold picture at h
  split at h <;> try contradiction
  split at h <;> try contradiction
  cases h
  assumption

theorem colorSpaceNow (described : r.Describes source renderer)
    (known : r.Remembered source renderer matrices w) :
    FrameSource.colorSpace w.source = r.colorSpace matrices := by
  obtain ⟨calls, same, rfl⟩ := known.stream
  rw [same, described.colorSpace]

theorem decodeNow (described : r.Describes source renderer)
    (known : r.Remembered source renderer matrices w) (n : UInt64) :
    (FrameSource.decode n w.source).1 = r.decode matrices n := by
  obtain ⟨calls, same, rfl⟩ := known.stream
  rw [same, described.decode]

theorem streamAfterDecode (known : r.Remembered source renderer matrices w) (n : UInt64) :
    ∃ calls, (FrameSource.decode n w.source).2 = StreamCall.after source calls ∧
      StreamCall.matrices calls = matrices := by
  obtain ⟨calls, same, rfl⟩ := known.stream
  refine ⟨calls ++ [.decode n], ?_, by simp [StreamCall.matrices]⟩
  simp [StreamCall.after, StreamCall.apply, same]

theorem decodeSpec (described : r.Describes source renderer)
    (known : r.Remembered source renderer matrices w) (n : UInt64) :
    (w.decode n).1 = r.picture matrices n ∧
      r.Remembered source renderer matrices (w.decode n).2 := by
  have asked := decodeNow described known n
  have stream := streamAfterDecode known n
  obtain ⟨found, source', eq⟩ : ∃ found source', FrameSource.decode n w.source = (found, source') :=
    ⟨_, _, rfl⟩
  simp only [eq] at asked stream
  unfold Worker.decode picture
  simp only [eq, ← asked]
  cases found with
  | refused e =>
    exact ⟨rfl, known.frameCount, stream, known.drawings, known.parked, by simp, known.lastRender⟩
  | panicked payload =>
    exact ⟨rfl, known.frameCount, stream, known.drawings, known.parked, by simp, known.lastRender⟩
  | done p =>
    by_cases ok : p.isWellFormed = true
    · simp only [ok, if_true]
      refine ⟨trivial, known.frameCount, stream, known.drawings, known.parked, ?_, known.lastRender⟩
      intro m q same
      cases same
      simp [picture, ← asked, ok]
    · simp only [ok]
      exact ⟨rfl, known.frameCount, stream, known.drawings, known.parked, by simp,
        known.lastRender⟩

theorem pictureSpec (described : r.Describes source renderer)
    (known : r.Remembered source renderer matrices w) (n : UInt64) :
    (w.picture n).1 = r.picture matrices n ∧
      r.Remembered source renderer matrices (w.picture n).2 := by
  unfold Worker.picture
  cases before : w.decodedBefore? n with
  | none => exact decodeSpec described known n
  | some p =>
    have same := Worker.decodedBeforeSpec before
    exact ⟨(known.decoded n p same).symm, known.frameCount, known.stream, known.drawings,
      known.parked, known.decoded, known.lastRender⟩

theorem borrowedCopy (known : r.Remembered source renderer matrices w) {p : Picture}
    (ok : p.isWellFormed = true) :
    let taken := w.borrow ⟨p.width, p.height⟩
    { taken.2 with data := p.copyInto taken.2.data } = ⟨⟨p.width, p.height⟩, p.packed⟩ ∧
      r.Remembered source renderer matrices taken.1 := by
  intro taken
  obtain ⟨parked, fits, size⟩ := Pool.borrowFits known.parked ⟨p.width, p.height⟩
  have copied : p.copyInto taken.2.data = p.packed := by
    refine Picture.copyIntoFull ok ?_
    rw [← size]
    exact fits
  refine ⟨?_, known.frameCount, known.stream, known.drawings, parked, known.decoded,
    known.lastRender⟩
  rw [copied]
  exact congrArg (Buffer.mk · p.packed) size

theorem takeBackKnown (known : r.Remembered source renderer matrices w) (b : Buffer) :
    r.Remembered source renderer matrices (w.takeBack b) :=
  ⟨known.frameCount, known.stream, known.drawings, Pool.releaseFits known.parked b, known.decoded,
    known.lastRender⟩

theorem finishSpec (described : r.Describes source renderer)
    (known : r.Remembered source renderer matrices w) (n : UInt64) (t : Int64)
    (lines : List SubtitleLine) (fault : Option SubtitleError) (buffer : Buffer)
    (computed : fault = none →
      r.compute matrices lines n t = r.framed matrices n t (!lines.isEmpty) buffer none) :
    (w.finish n t lines fault buffer).1.unnamed =
        r.framed matrices n t (!lines.isEmpty && fault.isNone) buffer fault ∧
      r.Remembered source renderer matrices (w.finish n t lines fault buffer).2 := by
  have spoken := colorSpaceNow described known
  unfold Worker.finish framed
  rw [spoken]
  cases named : r.colorSpace matrices with
  | error payload => exact ⟨rfl, takeBackKnown known buffer⟩
  | ok colorSpace =>
    refine ⟨rfl, known.frameCount, known.stream, known.drawings, known.parked, known.decoded, ?_⟩
    intro last same
    cases fault with
    | some fault => exact known.lastRender last same
    | none =>
      cases same
      simpa [framed, named, Worker.newFrame, Frame.unnamed] using computed rfl

theorem renderSpec (described : r.Describes source renderer)
    (known : r.Remembered source renderer matrices w) (b : Buffer) (t : Int64)
    (lines : List SubtitleLine) :
    ((w.render b t lines).1, (w.render b t lines).2.1) = r.draw b t lines ∧
      (w.render b t lines).2.1.size = b.data.size ∧
      r.Remembered source renderer matrices (w.render b t lines).2.2 := by
  obtain ⟨drawings, same⟩ := known.drawings
  refine ⟨?_, SubtitleRenderer.keepsSize b t lines w.renderer, known.frameCount, known.stream,
    ⟨drawings ++ [(b, t, lines)], ?_⟩, known.parked, known.decoded, known.lastRender⟩
  · rw [← described.draw drawings, ← same]
    rfl
  · simp [Worker.render, afterDrawings, same]

theorem drawSpec (described : r.Describes source renderer)
    (known : r.Remembered source renderer matrices w) {n : UInt64} (t : Int64)
    (lines : List SubtitleLine) {p : Picture} (inside : ¬ r.frameCount ≤ n)
    (found : r.picture matrices n = .done p) :
    (w.draw n t lines p).1.unnamed = r.compute matrices lines n t ∧
      r.Remembered source renderer matrices (w.draw n t lines p).2 := by
  have ok := pictureWellFormed found
  have computed : r.compute matrices lines n t = r.drawn matrices lines n t p := by
    simp [compute, inside, found]
  obtain ⟨copied, known⟩ := borrowedCopy known ok
  unfold Worker.draw
  generalize w.borrow ⟨p.width, p.height⟩ = taken at copied known ⊢
  obtain ⟨w', blank⟩ := taken
  simp only at copied known
  have sized : blank.size = ⟨p.width, p.height⟩ := congrArg Buffer.size copied
  simp only [copied]
  simp only [sized]
  cases bare : lines.isEmpty with
  | true =>
    have empty : r.compute matrices lines n t =
        r.framed matrices n t (!lines.isEmpty) ⟨⟨p.width, p.height⟩, p.packed⟩ none := by
      simp [computed, drawn, bare]
    simp only [if_true]
    obtain ⟨finished, known⟩ := finishSpec described known n t lines none _ fun _ => empty
    exact ⟨finished.trans (by simpa using empty.symm), known⟩
  | false =>
    obtain ⟨drew, size, known⟩ :=
      renderSpec described known ⟨⟨p.width, p.height⟩, p.packed⟩ t lines
    simp only [Bool.false_eq_true, if_false]
    generalize w'.render ⟨⟨p.width, p.height⟩, p.packed⟩ t lines = done at drew size known ⊢
    obtain ⟨result, pixels, w'⟩ := done
    simp only at drew size known
    cases result with
    | done u =>
      have full : r.compute matrices lines n t =
          r.framed matrices n t (!lines.isEmpty) ⟨⟨p.width, p.height⟩, pixels⟩ none := by
        simp [computed, drawn, bare, ← drew]
      obtain ⟨finished, known⟩ := finishSpec described known n t lines none _ fun _ => full
      exact ⟨finished.trans (by simpa using full.symm), known⟩
    -- whatever was drawn is painted over by the picture, since it fills the buffer
    | refused fault =>
      have full : pixels.size = (⟨p.width, p.height⟩ : PictureSize).bytes :=
        size.trans (Picture.packedSize ok)
      have known : r.Remembered source renderer matrices w'.countFault :=
        ⟨known.frameCount, known.stream, known.drawings, known.parked, known.decoded,
          known.lastRender⟩
      simp only [Picture.copyIntoFull ok full]
      obtain ⟨finished, known⟩ := finishSpec described known n t lines (some fault)
        ⟨⟨p.width, p.height⟩, p.packed⟩ nofun
      exact ⟨finished.trans (by simp [computed, drawn, bare, ← drew]), known⟩
    | panicked payload =>
      refine ⟨?_, takeBackKnown known _⟩
      simp [computed, drawn, bare, ← drew, Attempt.unnamed]

theorem produceSpec (described : r.Describes source renderer)
    (known : r.Remembered source renderer matrices w) (n : UInt64) (t : Int64)
    (withSubtitles : Bool) :
    (w.produce n t withSubtitles).1.unnamed = r.compute matrices (w.lines t withSubtitles) n t ∧
      r.Remembered source renderer matrices (w.produce n t withSubtitles).2 := by
  unfold Worker.produce
  generalize w.lines t withSubtitles = lines
  generalize counted : { w with counts := _ } = counting
  have known : r.Remembered source renderer matrices counting := by
    rw [← counted]
    exact ⟨known.frameCount, known.stream, known.drawings, known.parked, known.decoded,
      known.lastRender⟩
  cases before : counting.renderedBefore? n t lines with
  | some frame =>
    simp only [before]
    refine ⟨?_, known.frameCount, known.stream, known.drawings, known.parked, known.decoded,
      known.lastRender⟩
    obtain ⟨-, last, found, rfl, rfl, rfl, rfl⟩ := Worker.renderedBeforeIff.mp before
    exact (known.lastRender last found).symm
  | none =>
    by_cases outside : counting.frameCount ≤ n
    · simp only [before, outside, if_true]
      refine ⟨?_, known⟩
      rw [known.frameCount] at outside ⊢
      simp [compute, outside, Attempt.unnamed]
    · have inside : ¬ r.frameCount ≤ n := known.frameCount ▸ outside
      obtain ⟨found, after⟩ := pictureSpec described known n
      simp only [before, outside, if_false]
      generalize counting.picture n = looked at found after ⊢
      obtain ⟨found', w'⟩ := looked
      simp only at found after
      cases found' with
      | done p => exact drawSpec described after t lines inside found.symm
      | refused e => exact ⟨by simp [compute, inside, ← found, Attempt.unnamed], after⟩
      | panicked payload => exact ⟨by simp [compute, inside, ← found, Attempt.unnamed], after⟩

end Reference
end VideoPreview
