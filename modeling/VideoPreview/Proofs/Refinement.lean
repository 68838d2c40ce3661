import VideoPreview.Proofs.Reuse
import VideoPreview.Synthetic.Bands
import VideoPreview.Synthetic.Video

/-! A pipeline and its reference come to the same, whatever is asked and in whichever order the
parties take their turns. The invariant says what is in force for a worker once some requests were
done; it survives every job, whatever comes of it, and all that happens in between. -/
namespace VideoPreview

variable {σ ρ : Type} [FrameSource σ] [SubtitleRenderer ρ]

namespace Reference

structure Governs (r : Reference) (source : σ) (renderer : ρ) (made : List Request)
    (w : Worker σ ρ) : Prop where
  script : w.script = Request.script made
  position : w.position = Request.position made
  known : r.Remembered source renderer (Request.matrices made) w

variable {r : Reference} {source : σ} {renderer : ρ} {made done : List Request} {w : Worker σ ρ}

theorem startGoverns (described : r.Describes source renderer) (pipeline : Nat)
    (options : PipelineOptions) :
    r.Governs source renderer []
      (.start pipeline source renderer (FrameSource.info source).frameCount options) :=
  ⟨rfl, rfl, described.frameCount, ⟨[], rfl, rfl⟩, ⟨[], rfl⟩, Pool.emptyFits _,
    fun _ _ h => (nomatch h), fun _ h => (nomatch h)⟩

theorem produceGoverns (described : r.Describes source renderer)
    (governs : r.Governs source renderer made w) (n : UInt64) (t : Int64) (withSubtitles : Bool) :
    (w.produce n t withSubtitles).1.unnamed = r.outcome made n t withSubtitles ∧
      r.Governs source renderer made (w.produce n t withSubtitles).2 := by
  obtain ⟨computed, known⟩ := produceSpec described governs.known n t withSubtitles
  obtain ⟨script, position⟩ := w.produceKeeps n t withSubtitles
  refine ⟨?_, script.trans governs.script, position.trans governs.position, known⟩
  rw [computed, Worker.lines, governs.script]
  rfl

theorem processGoverns (described : r.Describes source renderer)
    (governs : r.Governs source renderer made w) (current : Version) (n : UInt64) (t : Int64)
    (v : Version) :
    ((w.process current n t v).1.handover?.toList.map Handover.unnamed =
        [.ofOutcome n v (r.outcome made n t true)]) ∧
      (w.process current n t v).1.answer? = none ∧
      r.Governs source renderer made (w.process current n t v).2.1 := by
  obtain ⟨computed, governs⟩ := produceGoverns described governs n t true
  refine ⟨?_, rfl, governs.script, governs.position, governs.known.frameCount,
    governs.known.stream, governs.known.drawings, governs.known.parked, governs.known.decoded,
    governs.known.lastRender⟩
  simp [Worker.process, Yield.handover?, Handover.unnamedOfOutcome, computed]

theorem recolorKnown (described : r.Describes source renderer) {matrices : List String}
    (known : r.Remembered source renderer matrices w) (current : Version) (matrix : String) :
    (w.carryOut current (.recolor matrix)).1 = .nothing ∧
      (w.carryOut current (.recolor matrix)).2.1.script = w.script ∧
      (w.carryOut current (.recolor matrix)).2.1.position = w.position ∧
      r.Remembered source renderer (matrices ++ [matrix])
        (w.carryOut current (.recolor matrix)).2.1 := by
  obtain ⟨calls, same, rfl⟩ := known.stream
  have quiet := described.setColorSpace calls matrix
  rw [← same] at quiet
  cases set : FrameSource.setColorSpace matrix w.source with
  | mk thrown left =>
    rw [set] at quiet
    cases quiet
    rw [Worker.recolorDone set]
    refine ⟨rfl, rfl, rfl, known.frameCount, ⟨calls ++ [.matrix matrix], ?_, by
      simp [StreamCall.matrices]⟩, known.drawings, known.parked, fun _ _ h => (nomatch h),
      fun _ h => (nomatch h)⟩
    have next : left = (FrameSource.setColorSpace matrix (StreamCall.after source calls)).2 := by
      rw [← same, set]
    simpa [StreamCall.after, StreamCall.apply] using next

theorem carryOutSpec (described : r.Describes source renderer)
    (governs : r.Governs source renderer done w) (current : Version) (q : Request) :
    let after := w.carryOut current (Request.job (done ++ [q]) q)
    after.1.handover?.toList.map Handover.unnamed = r.handovers (done ++ [q]) q ∧
      (after.1.answer?.toList.filterMap JobAnswer.outcome?).map Attempt.unnamed =
        r.fetches (done ++ [q]) q ∧
      r.Governs source renderer (done ++ [q]) after.2.1 := by
  have known : Request.matrices [q] = [] →
      r.Remembered source renderer (Request.matrices (done ++ [q])) w := by
    intro same
    rw [Request.matricesSnoc, same, List.append_nil]
    exact governs.known
  cases q with
  | display n t =>
    -- the job runs with its own request already in force
    have known := known rfl
    have governs : r.Governs source renderer (done ++ [.display n t])
        { w with position := some (n, t) } :=
      ⟨by rw [Request.scriptSnoc]; exact governs.script, by rw [Request.positionSnoc],
        known.frameCount, known.stream, known.drawings, known.parked, known.decoded,
        known.lastRender⟩
    obtain ⟨handover, answer, governs⟩ := processGoverns described governs current n t
      (Request.version (done ++ [.display n t]))
    exact ⟨handover, by simp [Request.job, Worker.carryOut, answer, fetches], governs⟩
  | rescript script =>
    have known := known rfl
    have governs : r.Governs source renderer (done ++ [.rescript script]) { w with script } :=
      ⟨by rw [Request.scriptSnoc], by rw [Request.positionSnoc]; exact governs.position,
        known.frameCount, known.stream, known.drawings, known.parked, known.decoded,
        known.lastRender⟩
    cases shown : w.position with
    | none =>
      have position : Request.position (done ++ [.rescript script]) = none :=
        governs.position.symm.trans shown
      rw [Request.job, Worker.rescriptIdle shown, handovers, position]
      exact ⟨rfl, rfl, governs⟩
    | some last =>
      have position : Request.position (done ++ [.rescript script]) = some last :=
        governs.position.symm.trans shown
      obtain ⟨handover, answer, governs⟩ := processGoverns described governs current last.1 last.2
        (Request.version (done ++ [.rescript script]))
      rw [Request.job, Worker.rescriptBusy shown, handovers, position]
      exact ⟨handover, by simp [answer, fetches], governs⟩
  | recolor matrix =>
    obtain ⟨quiet, script, position, known⟩ := recolorKnown described governs.known current matrix
    simp only [Request.job, quiet]
    refine ⟨rfl, rfl, script.trans ?_, position.trans ?_, ?_⟩
    · rw [Request.scriptSnoc]
      exact governs.script
    · rw [Request.positionSnoc]
      exact governs.position
    · rw [Request.matricesSnoc]
      exact known
  | fetch n t withSubtitles =>
    have governs : r.Governs source renderer (done ++ [.fetch n t withSubtitles]) w :=
      ⟨by rw [Request.scriptSnoc]; exact governs.script,
        by rw [Request.positionSnoc]; exact governs.position, known rfl⟩
    obtain ⟨computed, governs⟩ := produceGoverns described governs n t withSubtitles
    exact ⟨rfl, by simp [Request.job, Worker.carryOut, Yield.answer?, JobAnswer.outcome?, computed,
      fetches], governs⟩
  | inspect =>
    exact ⟨rfl, rfl, by rw [Request.scriptSnoc]; exact governs.script,
      by rw [Request.positionSnoc]; exact governs.position, known rfl⟩

theorem workedSpec (described : r.Describes source renderer) {first : Worker σ ρ}
    (governs : r.Governs source renderer [] first) {yields : List Yield}
    (worked : Worked first done yields w) :
    (yields.filterMap Yield.handover?).map Handover.unnamed = Request.each r.handovers [] done ∧
      ((yields.filterMap Yield.answer?).filterMap JobAnswer.outcome?).map Attempt.unnamed =
        Request.each r.fetches [] done ∧
      r.Governs source renderer done w := by
  induction worked with
  | start => exact ⟨rfl, rfl, governs⟩
  | @job done yields w earlier q current ih =>
    obtain ⟨handed, fetched, governs⟩ := ih
    obtain ⟨handover, answer, governs⟩ := carryOutSpec described governs current q
    refine ⟨?_, ?_, governs⟩
    · rw [Request.eachSnoc, ← handed, List.nil_append, ← handover, Yield.handoversSnoc,
        List.map_append]
    · rw [Request.eachSnoc, ← fetched, List.nil_append, ← answer, Yield.answersSnoc,
        List.filterMap_append, List.map_append]
  | letGo earlier b ih =>
    obtain ⟨handed, fetched, governs⟩ := ih
    exact ⟨handed, fetched, governs.script, governs.position, takeBackKnown governs.known b⟩
  | forget earlier ih =>
    obtain ⟨handed, fetched, governs⟩ := ih
    exact ⟨handed, fetched, governs.script, governs.position, governs.known.frameCount,
      governs.known.stream, governs.known.drawings, governs.known.parked,
      fun _ _ h => (nomatch h), fun _ h => (nomatch h)⟩

end Reference

theorem reuseInvisible {r : Reference} {source : σ} {renderer : ρ}
    (described : r.Describes source renderer) (trampoline : Trampoline)
    (handling : FailureHandling) (id : Nat) (queue path : String) (viewer : Nat)
    (options : PipelineOptions) (moves : List Pipeline.Move) :
    let start := Life.begin trampoline handling
      (.start id queue path source renderer viewer options)
    (start.handovers moves).map Handover.unnamed =
        Request.each r.handovers [] (start.taken moves) ∧
      ((start.replies moves).filterMap JobAnswer.outcome?).map Attempt.unnamed =
        Request.each r.fetches [] (start.taken moves) := by
  intro start
  obtain ⟨done, waiting, lost, yields, course⟩ :=
    Life.runCourse trampoline handling id queue path source renderer viewer options moves
  have governs : r.Governs source renderer [] start.pipeline.worker :=
    Reference.startGoverns described id options
  obtain ⟨handed, fetched, -⟩ := Reference.workedSpec described governs course.worked
  have taken : start.taken moves = done := Life.courseTaken course
  rw [taken, ← handed, ← fetched, ← course.handed, ← course.answered]
  exact ⟨rfl, rfl⟩

namespace Reference

def ofBands (s : SyntheticStream) (b : BandRenderer) : Reference where
  frameCount := s.video.frameCount
  decode matrices n := { s with colorSpace := matrices.getLastD s.colorSpace }.decode n
  colorSpace matrices := .ok (matrices.getLastD s.colorSpace)
  draw buffer _ lines := b.drawFrom buffer.size 0 lines buffer.data

theorem syntheticAfter (s : SyntheticStream) (calls : List StreamCall) :
    StreamCall.after s calls =
      { s with colorSpace := (StreamCall.matrices calls).getLastD s.colorSpace } := by
  induction calls generalizing s with
  | nil => rfl
  | cons call rest ih =>
    change StreamCall.after (StreamCall.apply s call) rest = _
    rw [ih]
    cases call with
    | decode n => rfl
    | matrix name =>
      change _ = { s with
        colorSpace := (name :: StreamCall.matrices rest).getLastD s.colorSpace }
      rw [List.getLastD_cons]
      rfl

theorem bandsAfter (b : BandRenderer) (drawings : List (Buffer × Int64 × List SubtitleLine)) :
    afterDrawings b drawings = b := by
  induction drawings with
  | nil => rfl
  | cons d rest ih => exact ih

theorem describesBands (s : SyntheticStream) (b : BandRenderer) : (ofBands s b).Describes s b where
  frameCount := rfl
  decode calls n := by rw [syntheticAfter]; rfl
  colorSpace calls := by rw [syntheticAfter]; rfl
  setColorSpace _ _ := rfl
  draw drawings buffer t lines := by rw [bandsAfter]; rfl

end Reference

theorem reuseInvisibleForBands :
    let source : SyntheticStream := ⟨.default, "TV.601"⟩
    let r := Reference.ofBands source .default
    let start := Life.begin .pump .record
      (Pipeline.start 0 "queue" "a.mkv" source BandRenderer.default 0 .default)
    let moves : List Pipeline.Move := [.ask (.display 3 40), .ask (.display 3 40), .compute,
      .handOver none [], .compute, .ask (.recolor "TV.709"), .ask (.fetch 3 40 true),
      .handOver none [], .compute, .compute]
    r.Describes source BandRenderer.default ∧
      start.taken moves =
        [.display 3 40, .display 3 40, .recolor "TV.709", .fetch 3 40 true] ∧
      (start.handovers moves).map Handover.unnamed =
        Request.each r.handovers [] (start.taken moves) ∧
      ((start.replies moves).filterMap JobAnswer.outcome?).map Attempt.unnamed =
        Request.each r.fetches [] (start.taken moves) := by
  intro source r start moves
  have described : r.Describes source BandRenderer.default := Reference.describesBands _ _
  exact ⟨described, by decide +kernel,
    reuseInvisible described .pump .record 0 "queue" "a.mkv" 0 .default moves⟩

end VideoPreview
