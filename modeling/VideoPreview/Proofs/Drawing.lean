import VideoPreview.Proofs.Computation
import VideoPreview.Proofs.Custody
import VideoPreview.Proofs.Life

/-! What a job takes from the pool, whatever the stream and the renderer answer: a buffer for a
frame made anew, a buffer that goes straight back when one of them panics, and else none. -/
namespace VideoPreview

structure Account where
  pool : Pool
  made : Nat
  rendered : Nat
  reused : Nat

def JobAnswer.frames (a : JobAnswer) : List Frame := a.frame?.toList

def Yield.frames : Yield → List Frame
  | nothing => []
  | handover h => h.frames
  | answer a => a.frames

theorem Pool.borrowSize (p : Pool) (size : PictureSize) : (p.borrow size).2.size = size := by
  unfold borrow
  cases found : p.parked.find? (·.size = size) with
  | none => rfl
  | some b => simpa using List.find?_some found

namespace Worker

variable {σ ρ : Type}

def account (w : Worker σ ρ) : Account where
  pool := w.pool
  made := w.framesMade
  rendered := w.counts.rendered
  reused := w.counts.renderReused

inductive Drawn (w w' : Worker σ ρ) : List Frame → Prop where
  | nothing (account : w'.account = w.account) (last : w'.frames ⊆ w.frames) : Drawn w w' []
  | again {f : Frame} (account : w'.account = { w.account with reused := w.account.reused + 1 })
      (last : w'.frames = w.frames) (shown : f ∈ w.frames) : Drawn w w' [f]
  | frame {f : Frame} (new : f.id = ⟨w.pipeline, w.account.made⟩)
      (account : w'.account = { w.account with
        pool := (w.account.pool.borrow f.buffer.size).1
        made := w.account.made + 1
        rendered := w'.account.rendered })
      (last : w'.frames ⊆ f :: w.frames) : Drawn w w' [f]
  | crash (b : Buffer)
      (account : w'.account = { w.account with
        pool := (w.account.pool.borrow b.size).1.release b
        rendered := w'.account.rendered })
      (once : w'.account.rendered ∈ [w.account.rendered, w.account.rendered + 1])
      (last : w'.frames = w.frames) : Drawn w w' []

theorem Drawn.frames {w w' : Worker σ ρ} {shown : List Frame} (drawn : Drawn w w' shown) :
    w'.frames ⊆ shown ++ w.frames ∧
      ∀ f ∈ shown, f ∈ w.frames ∨ f.id = ⟨w.pipeline, w.account.made⟩ := by
  cases drawn with
  | nothing account last => exact ⟨last, fun f h => (nomatch h)⟩
  | again account last held =>
    refine ⟨last ▸ List.subset_append_right .., fun g h => .inl ?_⟩
    exact List.mem_singleton.mp h ▸ held
  | frame new account last => exact ⟨last, fun g h => .inr (List.mem_singleton.mp h ▸ new)⟩
  | crash b account once last => exact ⟨last ▸ List.Subset.refl _, fun f h => (nomatch h)⟩

theorem Drawn.since {w w₁ w' : Worker σ ρ} {shown : List Frame} (drawn : Drawn w₁ w' shown)
    (pipeline : w₁.pipeline = w.pipeline) (account : w₁.account = w.account)
    (last : w₁.frames = w.frames) : Drawn w w' shown := by
  cases drawn with
  | nothing counted fewer => exact .nothing (counted.trans account) (last ▸ fewer)
  | again counted kept shown => exact .again (account ▸ counted) (kept.trans last) (last ▸ shown)
  | frame new counted fewer =>
    exact .frame (pipeline ▸ account ▸ new) (account ▸ counted) (last ▸ fewer)
  | crash b counted once kept =>
    exact .crash b (account ▸ counted) (account ▸ once) (kept.trans last)

theorem Drawn.until {w w₁ w' : Worker σ ρ} {shown : List Frame} (drawn : Drawn w w₁ shown)
    (account : w'.account = w₁.account) (last : w'.frames = w₁.frames) : Drawn w w' shown := by
  cases drawn with
  | nothing counted fewer => exact .nothing (account.trans counted) (last ▸ fewer)
  | again counted kept shown => exact .again (account.trans counted) (last.trans kept) shown
  | frame new counted fewer => exact .frame new (by rw [account]; exact counted) (last ▸ fewer)
  | crash b counted once kept =>
    exact .crash b (by rw [account]; exact counted) (account ▸ once) (last.trans kept)

theorem accountKeeps (c : Counts) (current v : Version) (outcome : Attempt SourceError Rendered) :
    (c.account current v outcome).rendered = c.rendered ∧
      (c.account current v outcome).renderReused = c.renderReused := by
  cases outcome <;> exact ⟨rfl, rfl⟩

variable [FrameSource σ] [SubtitleRenderer ρ]

omit [SubtitleRenderer ρ] in
theorem finishDrawn {w w₁ : Worker σ ρ} (n : UInt64) (t : Int64) (lines : List SubtitleLine)
    (fault : Option SubtitleError) {buffer : Buffer} (pipeline : w₁.pipeline = w.pipeline)
    (last : w₁.lastRender = w.lastRender) (account : w₁.account = { w.account with
      pool := (w.account.pool.borrow buffer.size).1
      rendered := w₁.account.rendered })
    (once : w₁.account.rendered ∈ [w.account.rendered, w.account.rendered + 1]) :
    (w₁.finish n t lines fault buffer).2.pipeline = w.pipeline ∧
      Drawn w (w₁.finish n t lines fault buffer).2
        (JobAnswer.computed (w₁.finish n t lines fault buffer).1).frames := by
  have pool := congrArg Account.pool account
  have made := congrArg Account.made account
  have reused := congrArg Account.reused account
  simp only [Worker.account] at pool made reused
  unfold finish
  cases FrameSource.colorSpace w₁.source with
  | error payload =>
    refine ⟨pipeline, .crash buffer ?_ once ?_⟩
    · simp [Worker.account, takeBack, pool, made, reused]
    · simp [Worker.frames, takeBack, last]
  | ok colorSpace =>
    refine ⟨pipeline, .frame ?_ ?_ ?_⟩
    · simp [newFrame, pipeline, Worker.account, made]
    · simp [Worker.account, newFrame, pool, made, reused]
    · cases fault with
      | none => exact List.cons_subset_cons _ (List.nil_subset _)
      | some fault =>
        simp only [Worker.frames, last]
        exact List.subset_cons_self ..

theorem drawDrawn (w : Worker σ ρ) (n : UInt64) (t : Int64) (lines : List SubtitleLine)
    (p : Picture) :
    (w.draw n t lines p).2.pipeline = w.pipeline ∧
      Drawn w (w.draw n t lines p).2 (JobAnswer.computed (w.draw n t lines p).1).frames := by
  unfold draw borrow
  generalize taken : w.pool.borrow ⟨p.width, p.height⟩ = borrowed
  obtain ⟨pool, blank⟩ := borrowed
  have lent : (w.account.pool.borrow blank.size).1 = pool := by
    have size : blank.size = ⟨p.width, p.height⟩ := by
      rw [← w.pool.borrowSize ⟨p.width, p.height⟩, taken]
    rw [size]
    exact congrArg Prod.fst taken
  cases bare : lines.isEmpty with
  | true =>
    refine finishDrawn n t lines none rfl rfl ?_ (by simp [account])
    simp [account, ← lent]
  | false =>
    simp only [render]
    generalize (SubtitleRenderer.render _ _ _ _ : Drawing ρ) = drawing
    obtain ⟨result, pixels, renderer⟩ := drawing
    cases result with
    | done u =>
      refine finishDrawn n t lines none rfl rfl ?_ (by simp [account])
      simp [account, ← lent]
    | refused fault =>
      refine finishDrawn n t lines (some fault) rfl rfl ?_ (by simp [account, countFault])
      simp [account, countFault, ← lent]
    | panicked payload =>
      refine ⟨rfl, .crash { blank with data := pixels } ?_ (by simp [account, takeBack]) rfl⟩
      simp [account, takeBack, ← lent]

omit [SubtitleRenderer ρ] in
theorem pictureDrawsNothing (w : Worker σ ρ) (n : UInt64) :
    (w.picture n).2.pipeline = w.pipeline ∧ (w.picture n).2.account = w.account ∧
      (w.picture n).2.frames = w.frames := by
  unfold picture decode
  cases w.decodedBefore? n with
  | some p => exact ⟨rfl, rfl, rfl⟩
  | none =>
    generalize FrameSource.decode n w.source = asked
    obtain ⟨outcome, source⟩ := asked
    cases outcome with
    | done p => cases h : p.isWellFormed <;> simp [h, account, frames]
    | refused e => exact ⟨rfl, rfl, rfl⟩
    | panicked payload => exact ⟨rfl, rfl, rfl⟩

theorem produceDrawn (w : Worker σ ρ) (n : UInt64) (t : Int64) (withSubtitles : Bool) :
    (w.produce n t withSubtitles).2.pipeline = w.pipeline ∧
      Drawn w (w.produce n t withSubtitles).2
        (JobAnswer.computed (w.produce n t withSubtitles).1).frames := by
  unfold produce
  generalize w.lines t withSubtitles = lines
  generalize counted : { w with counts := _ } = counting
  obtain ⟨pipeline, account, last⟩ : counting.pipeline = w.pipeline ∧
      counting.account = w.account ∧ counting.frames = w.frames := by
    rw [← counted]
    exact ⟨rfl, rfl, rfl⟩
  cases before : counting.renderedBefore? n t lines with
  | some frame =>
    obtain ⟨-, held, found, rfl, -⟩ := renderedBeforeIff.mp before
    refine ⟨by simpa [before] using pipeline, ?_⟩
    simp only [before]
    refine Drawn.since (.again rfl rfl ?_) pipeline account last
    simp [frames, found]
  | none =>
    by_cases outside : counting.frameCount ≤ n
    · simp only [before, outside, if_true]
      exact ⟨pipeline, Drawn.since (.nothing rfl (List.Subset.refl _)) pipeline account last⟩
    · obtain ⟨pipeline', account', last'⟩ := pictureDrawsNothing counting n
      simp only [before, outside, if_false]
      generalize counting.picture n = looked at pipeline' account' last' ⊢
      obtain ⟨found, w₁⟩ := looked
      have pipeline := pipeline'.trans pipeline
      have account := account'.trans account
      have last := last'.trans last
      cases found with
      | done p =>
        obtain ⟨same, drawn⟩ := drawDrawn w₁ n t lines p
        exact ⟨same.trans pipeline, drawn.since pipeline account last⟩
      | refused e =>
        exact ⟨pipeline, Drawn.since (.nothing rfl (List.Subset.refl _)) pipeline account last⟩
      | panicked payload =>
        exact ⟨pipeline, Drawn.since (.nothing rfl (List.Subset.refl _)) pipeline account last⟩

theorem handoverFrames (n : UInt64) (v : Version) (outcome : Attempt SourceError Rendered) :
    (Handover.ofOutcome n v outcome).frames = (JobAnswer.computed outcome).frames := by
  cases outcome with
  | done rendered =>
    obtain ⟨frame, fault⟩ := rendered
    cases fault <;> rfl
  | refused e => rfl
  | panicked payload => rfl

theorem processDrawn (w : Worker σ ρ) (current : Version) (n : UInt64) (t : Int64) (v : Version) :
    (w.process current n t v).2.1.pipeline = w.pipeline ∧
      Drawn w (w.process current n t v).2.1 (w.process current n t v).1.frames := by
  obtain ⟨pipeline, drawn⟩ := produceDrawn w n t true
  unfold process
  generalize w.produce n t true = produced at pipeline drawn ⊢
  obtain ⟨outcome, w₁⟩ := produced
  obtain ⟨rendered, reused⟩ := accountKeeps w₁.counts current v outcome
  refine ⟨pipeline, ?_⟩
  simp only [Yield.frames, handoverFrames]
  exact drawn.until (by simp [account, rendered, reused]) rfl

theorem carryOutDrawn (w : Worker σ ρ) (current : Version) (job : Job) :
    (w.carryOut current job).2.1.pipeline = w.pipeline ∧
      Drawn w (w.carryOut current job).2.1 (w.carryOut current job).1.frames := by
  cases job with
  | display n t v =>
    obtain ⟨pipeline, drawn⟩ := processDrawn { w with position := some (n, t) } current n t v
    exact ⟨pipeline, drawn.since rfl rfl rfl⟩
  | rescript script v =>
    cases shown : w.position with
    | none =>
      rw [rescriptIdle shown]
      exact ⟨rfl, .nothing rfl (List.Subset.refl _)⟩
    | some last =>
      obtain ⟨pipeline, drawn⟩ := processDrawn { w with script } current last.1 last.2 v
      rw [rescriptBusy shown]
      exact ⟨pipeline, drawn.since rfl rfl rfl⟩
  | recolor matrix =>
    cases set : FrameSource.setColorSpace matrix w.source with
    | mk thrown source =>
      cases thrown with
      | none =>
        rw [recolorDone set]
        exact ⟨rfl, .nothing rfl (List.nil_subset _)⟩
      | some payload =>
        rw [recolorThrew set]
        exact ⟨rfl, .nothing rfl (List.Subset.refl _)⟩
  | fetch n t withSubtitles => exact produceDrawn w n t withSubtitles
  | inspect => exact ⟨rfl, .nothing rfl (List.Subset.refl _)⟩

end Worker
end VideoPreview
