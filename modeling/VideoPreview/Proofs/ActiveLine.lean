import VideoPreview.Proofs.Episodes
import VideoPreview.Proofs.Steering
import VideoPreview.Proofs.Timing
import VideoPreview.Synthetic.Bands
import VideoPreview.Synthetic.Video

/-! Following the active line. The controller asks for the first frame that starts when the line
does or later. That frame shows the line if any frame of the video does. -/
namespace VideoPreview

variable {σ ρ : Type}

theorem Script.visibleAtIff {script : Script} {t : Int64} {line : SubtitleLine} :
    line ∈ script.visibleAt t ↔ line ∈ script ∧ line.visibleAt t = true := by
  rw [visibleAt, List.mem_mergeSort, List.mem_filter]

namespace Controller

structure Requests (p : Pipeline σ ρ) (f : UInt64) (r : Reply σ ρ) : Prop where
  frame : r.controller.frame = f
  version : r.version = some p.version.next
  pipeline : r.controller.pipeline = some { p with
    version := p.version.next
    queue := p.queue.submit (.display f (p.info.rate.timeOfFrame f) p.version.next) }
  behind : p.queue.isServed = true →
    p.queue.submit (.display f (p.info.rate.timeOfFrame f) p.version.next) = { p.queue with
      backlog := p.queue.backlog ++ [.display f (p.info.rate.timeOfFrame f) p.version.next] }

structure Shows [FrameSource σ] [SubtitleRenderer ρ] (line : SubtitleLine) (f : UInt64) (t : Int64)
    (v : Version) (w : Worker σ ρ) : Prop where
  visible : line ∈ w.script → line ∈ w.script.visibleAt t
  drawn : ∀ current size time lines,
    .render size time lines ∈ (Episode.ofJob w current (.display f t v)).calls →
      time = t ∧ lines = w.script.visibleAt t
  kept : ∀ current g, (Episode.ofJob w current (.display f t v)).yield.clean? = some g →
    ∃ subtitled, (Episode.ofJob w current (.display f t v)).after.lastRender =
      some ⟨w.script.visibleAt t, g, subtitled⟩

structure Lands [FrameSource σ] [SubtitleRenderer ρ] (p : Pipeline σ ρ) (line : SubtitleLine)
    (f : UInt64) (r : Reply σ ρ) : Prop where
  inside : f < p.info.frameCount
  first : ∀ k, line.start ≤ p.info.rate.timeOfFrame k ↔ f ≤ k
  requested : Requests p f r
  visible : line.visibleAt (p.info.rate.timeOfFrame f) = true
  shows : ∀ w : Worker σ ρ, Shows line f (p.info.rate.timeOfFrame f) p.version.next w

variable {c : Controller σ ρ} {p : Pipeline σ ρ}

theorem jumpRequests (shown : c.pipeline = some p) (opened : p.isOpen = true) (n : Int64) :
    Requests p (nearestFrame p.info n.toInt) (c.jumpToFrame n) := by
  unfold jumpToFrame
  simp only [shown]
  refine ⟨rfl, rfl, rfl, fun served => ?_⟩
  have accepts : p.queue.accepts = true := Bool.and_eq_true_iff.mpr ⟨opened, served⟩
  simp [SerialQueue.submit, accepts]

theorem lineRequests (shown : c.pipeline = some p) (opened : p.isOpen = true)
    (sync : c.options.subtitleSync = true) (short : p.info.frameCount.toNat ≤ 2 ^ 63)
    (line : SubtitleLine) :
    ∃ f : UInt64, f.toNat =
        min (p.info.rate.firstFrameFrom line.start).toNat (max p.info.frameCount.toNat 1 - 1) ∧
      Requests p f (c.activateLine (some line)) := by
  have requested := jumpRequests shown opened (target (p.info.rate.firstFrameFrom line.start))
  have nearest := nearestFrameNat p.info (target (p.info.rate.firstFrameFrom line.start)).toInt
  rw [targetInt] at nearest
  refine ⟨_, ?_, by simpa [activateLine, sync, jumpToStartTime, shown] using requested⟩
  rw [targetInt]
  omega

theorem displayShows [FrameSource σ] [SubtitleRenderer ρ] {line : SubtitleLine} {t : Int64}
    (visible : line.visibleAt t = true) (f : UInt64) (v : Version) (w : Worker σ ρ) :
    Shows line f t v w := by
  have passed (current : Version) := Episode.ofJobPassed w current (.display f t v)
  refine ⟨fun written => Script.visibleAtIff.mpr ⟨written, visible⟩, fun current => ?_,
    fun current g clean => ?_⟩
  · exact (passed current).renders rfl
  · obtain ⟨subtitled, last, -⟩ := (passed current).remembers rfl clean
    exact ⟨subtitled, last⟩

theorem activeLineShown [FrameSource σ] [SubtitleRenderer ρ] (shown : c.pipeline = some p)
    (opened : p.isOpen = true) (valid : p.info.rate.isValid = true)
    (frames : 1 ≤ p.info.frameCount.toNat) (short : p.info.frameCount.toNat ≤ 2 ^ 63)
    (sync : c.options.subtitleSync = true) (line : SubtitleLine) (spoken : line.comment = false) :
    (∀ g < p.info.frameCount, line.start ≤ p.info.rate.timeOfFrame g →
        p.info.rate.timeOfFrame g < line.stop → ∃ f, Lands p line f (c.activateLine (some line))) ∧
      ((∀ g < p.info.frameCount, p.info.rate.timeOfFrame g < line.start) →
        Requests p (p.info.frameCount - 1) (c.activateLine (some line))) := by
  obtain ⟨f, nearest, requested⟩ := lineRequests shown opened sync short line
  have largest : maxFrame = 2 ^ 64 - 1 := by decide
  rw [FrameRate.firstFrameNat] at nearest
  refine ⟨fun g inside started lasting => ?_, fun early => ?_⟩
  · rw [UInt64.lt_iff_toNat_lt] at inside
    have upTo := (FrameRate.startsFrom valid line.start g).mp started
    have exact : f.toNat = p.info.rate.uncutFrom line.start := by omega
    have first (k : UInt64) : line.start ≤ p.info.rate.timeOfFrame k ↔ f ≤ k := by
      rw [FrameRate.startsFrom valid, UInt64.le_iff_toNat_le, exact]
    have visible : line.visibleAt (p.info.rate.timeOfFrame f) = true := by
      have before := FrameRate.timeMonotone valid ((first g).mp started)
      have begun := (first f).mpr (UInt64.le_refl f)
      simp [SubtitleLine.visibleAt, spoken, begun, Int64.lt_of_le_of_lt before lasting]
    refine ⟨f, ?_, first, requested, visible, displayShows visible f _⟩
    rw [UInt64.lt_iff_toNat_lt]
    omega
  · have last : (p.info.frameCount - 1).toNat = p.info.frameCount.toNat - 1 :=
      UInt64.toNat_sub_of_le _ _ (UInt64.le_iff_toNat_le.mpr frames)
    have late := early (p.info.frameCount - 1) (UInt64.lt_iff_toNat_lt.mpr (by omega))
    rw [← Int64.not_le, FrameRate.startsFrom valid, last] at late
    have same : f = p.info.frameCount - 1 := UInt64.toNat_inj.mp (by omega)
    exact same ▸ requested

theorem activeLineShownAfterSecond :
    let video : SyntheticVideo := { SyntheticVideo.default with rate := ⟨24000, 1001⟩ }
    let p : Pipeline SyntheticStream BandRenderer :=
      .start 0 "serial-1" "film.mkv" ⟨video, "TV.601"⟩ .default 0 .default
    let c : Controller SyntheticStream BandRenderer :=
      ((Controller.start ⟨true⟩).setPipeline (some p)).1
    let line : SubtitleLine := .dialogue 1000 1040 "just in time"
    c.pipeline = some p ∧ ∃ f, f = 24 ∧ Lands p line f (c.activateLine (some line)) := by
  intro video p c line
  have early : ¬line.start ≤ p.info.rate.timeOfFrame 23 := by decide
  have reached : line.start ≤ p.info.rate.timeOfFrame 24 := by decide
  have shown : p.info.rate.timeOfFrame 24 < line.stop := by decide
  obtain ⟨f, lands⟩ := (activeLineShown (c := c) (p := p) rfl rfl (by decide) (by decide)
    (by decide) rfl line rfl).1 24 (by decide) reached shown
  refine ⟨rfl, f, ?_, lands⟩
  have above := mt (lands.first 23).mpr early
  have below := (lands.first 24).mp reached
  rw [UInt64.not_le, UInt64.lt_iff_toNat_lt] at above
  rw [UInt64.le_iff_toNat_le] at below
  exact UInt64.toNat_inj.mp (Nat.le_antisymm below above)

end Controller
end VideoPreview
