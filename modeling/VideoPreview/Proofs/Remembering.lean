import VideoPreview.Proofs.Episodes

/-! A worker remembers over the whole life of its pipeline, whatever its stream and its renderer
answer. What it has seen last is not asked for again, and what was seen in another matrix is not
shown again. -/
namespace VideoPreview

variable {σ ρ : Type}

namespace Pipeline

def upNext? (p : Pipeline σ ρ) : Option (Job × SerialQueue Job) :=
  match p.handover with
  | none => p.queue.take?
  | some _ => none

def undergo (p : Pipeline σ ρ) (queue : SerialQueue Job) (e : Episode σ ρ) : Pipeline σ ρ :=
  { p with queue, worker := e.after }.gain e.yield

theorem upNextBacklog {p : Pipeline σ ρ} {job : Job} {queue : SerialQueue Job}
    (next : p.upNext? = some (job, queue)) :
    p.queue.backlog = job :: queue.backlog ∧ queue.isOpen = p.queue.isOpen := by
  unfold upNext? SerialQueue.take? at next
  split at next
  case h_2 => cases next
  case h_1 =>
    split at next
    case h_1 => cases next
    case h_2 backlog =>
      cases next
      exact ⟨backlog, rfl⟩

theorem undergone (p : Pipeline σ ρ) (queue : SerialQueue Job) (e : Episode σ ρ) :
    (p.undergo queue e).worker = e.after ∧ (p.undergo queue e).queue = queue := by
  unfold undergo gain
  cases e.yield <;> exact ⟨rfl, rfl⟩

theorem computeUndergoes [FrameSource σ] [SubtitleRenderer ρ] (p : Pipeline σ ρ) :
    p.compute.1 = match p.upNext? with
      | some (job, queue) => p.undergo queue (.ofJob p.worker p.version job)
      | none => p := by
  unfold compute
  split
  case h_1 job queue free next =>
    have up : p.upNext? = some (job, queue) := by simp [upNext?, free, next]
    rw [up]
    rfl
  case h_2 other =>
    have up : p.upNext? = none := by
      cases held : p.handover with
      | some h => simp [upNext?, held]
      | none =>
        cases next : p.queue.take? with
        | none => simp [upNext?, held, next]
        | some taken => exact absurd next (other taken.1 taken.2 held)
    rw [up]

end Pipeline

namespace Life

open Pipeline (Move)

section
variable [FrameSource σ] [SubtitleRenderer ρ]

def episodesAt (l : Life σ ρ) : Move → List (Episode σ ρ)
  | .compute =>
    match l.pipeline.upNext? with
    | some (job, _) => [.ofJob l.pipeline.worker l.pipeline.version job]
    | none => []
  | _ => []

def episodes (l : Life σ ρ) (moves : List Move) : List (Episode σ ρ) :=
  seen step episodesAt l moves

end

structure Told [FrameSource σ] (first : Worker σ ρ) (episodes : List (Episode σ ρ))
    (l : Life σ ρ) : Prop where
  story : ∃ w, Story first episodes w ∧ l.pipeline.worker.calls = w.calls ∧
    (l.pipeline.isOpen = true → l.pipeline.worker = w)
  ended : l.pipeline.isOpen = false → l.closing = true ∧ l.pipeline.queue.backlog = []

section
variable [FrameSource σ] {first : Worker σ ρ} {episodes : List (Episode σ ρ)} {l : Life σ ρ}

theorem Told.isOpen (told : Told first episodes l) (busy : l.pipeline.queue.backlog ≠ []) :
    l.pipeline.isOpen = true := by
  cases opened : l.pipeline.isOpen with
  | true => rfl
  | false => exact absurd (told.ended opened).2 busy

theorem Told.undergo (told : Told first episodes l) {job : Job} {queue : SerialQueue Job}
    (next : l.pipeline.upNext? = some (job, queue)) {e : Episode σ ρ}
    (begins : e.before = l.pipeline.worker) (passed : e.Passed) :
    Told first (episodes ++ [e]) { l with pipeline := l.pipeline.undergo queue e } := by
  obtain ⟨backlog, same⟩ := Pipeline.upNextBacklog next
  obtain ⟨worker, queued⟩ := l.pipeline.undergone queue e
  have opened := told.isOpen (by simp [backlog])
  obtain ⟨w, story, -, now⟩ := told.story
  refine ⟨⟨e.after, story.next e (begins.trans (now opened)) passed, congrArg _ worker,
    fun _ => worker⟩, fun closed => ?_⟩
  have still : (l.pipeline.undergo queue e).isOpen = true := by
    rw [Pipeline.isOpen, queued, same]
    exact opened
  cases closed.symm.trans still

variable [SubtitleRenderer ρ]

theorem toldCompute (told : Told first episodes l) :
    Told first (episodes ++ l.episodesAt .compute) (l.step .compute) := by
  simp only [episodesAt, step, Pipeline.computeUndergoes]
  cases next : l.pipeline.upNext? with
  | none => simpa using told
  | some taken =>
    obtain ⟨job, queue⟩ := taken
    exact told.undergo next rfl (Episode.ofJobPassed ..)

theorem toldNext (told : Told first episodes l) (m : Move) :
    Told first (episodes ++ l.episodesAt m) (l.step m) := by
  obtain ⟨⟨w, story, calls, now⟩, ended⟩ := id told
  cases m with
  | compute => exact toldCompute told
  | ask q =>
    simp only [episodesAt, step, List.append_nil]
    split
    case isTrue => exact told
    case isFalse open' =>
      have opened : l.pipeline.isOpen = true := by
        by_contra closed
        exact open' (ended (Bool.eq_false_iff.mpr closed)).1
      refine ⟨⟨w, story, by simpa using calls, fun _ => by simpa using now opened⟩,
        fun closed => ?_⟩
      simp [opened] at closed
  | handOver crash heard =>
    simp only [episodesAt, step, handOver, List.append_nil]
    split
    case isTrue => exact ⟨⟨w, story, calls, now⟩, fun closed => ⟨(ended closed).1, rfl⟩⟩
    case isFalse => exact ⟨⟨w, story, calls, now⟩, ended⟩
  | pickUp =>
    simp only [episodesAt, step, Pipeline.takeAnswer?, List.append_nil]
    cases l.pipeline.answers <;> exact ⟨⟨w, story, calls, now⟩, ended⟩
  | letGo b =>
    simp only [episodesAt, List.append_nil]
    exact ⟨⟨w.takeBack b, story.letGo b, calls,
      fun opened => congrArg (·.takeBack b) (now opened)⟩, ended⟩
  | close =>
    simp only [episodesAt, step, List.append_nil]
    split
    case isTrue => exact told
    case isFalse => exact ⟨⟨w, story, calls, now⟩, fun closed => ⟨rfl, (ended closed).2⟩⟩
  | shut =>
    simp only [episodesAt, step, List.append_nil]
    split
    case isFalse => exact told
    case isTrue idle =>
      have empty : l.pipeline.queue.backlog = [] := by
        have none := idle.2
        unfold Pipeline.remaining at none
        exact List.length_eq_zero_iff.mp (by omega)
      exact ⟨⟨w, story, calls, fun opened => absurd opened Bool.false_ne_true⟩,
        fun _ => ⟨idle.1, empty⟩⟩

end

theorem toldLife [FrameSource σ] [SubtitleRenderer ρ] (l : Life σ ρ)
    (opened : l.pipeline.isOpen = true) (moves : List Move) :
    Told l.pipeline.worker (l.episodes moves) (l.run moves) := by
  induction moves using List.reverseRecOn with
  | nil =>
    refine ⟨⟨_, .start, rfl, fun _ => rfl⟩, fun closed => ?_⟩
    cases closed.symm.trans opened
  | append_singleton moves m ih => simpa [episodes, run] using toldNext ih m

end Life

structure Reused [FrameSource σ] (options : PipelineOptions) (episodes : List (Episode σ ρ)) :
    Prop where
  pictures : options.reuseDecoded = true →
    (episodes.flatMap Episode.inquiries).IsChain fun first second => ¬first.Repeats second
  /-- A view is shown once more by the same frame, and nothing is used up, if no other frame was
  shown without an error since and the matrix was not touched. -/
  frames : options.reuseRendered = true → ∀ early e between e' late v f,
    episodes = early ++ e :: (between ++ e' :: late) →
    e.view? = some v → e'.view? = some v → e.yield.clean? = some f →
    (∀ b ∈ between, b.Spares f) → e'.yield.clean? = some f ∧ e'.Free
  matrices : ∀ early e late, episodes = early ++ e :: late →
    e.recolors = true → e.yield = .nothing →
    ∀ e₁ ∈ early, ∀ e₂ ∈ late, ∀ f₁ ∈ e₁.yield.frames, ∀ f₂ ∈ e₂.yield.frames, f₁.id ≠ f₂.id

open Life in
theorem reuseNotMissed [FrameSource σ] [SubtitleRenderer ρ] (trampoline : Trampoline)
    (handling : FailureHandling) (id : Nat) (queue path : String) (source : σ) (renderer : ρ)
    (viewer : Nat) (options : PipelineOptions) (moves : List Pipeline.Move) :
    let start := begin trampoline handling (.start id queue path source renderer viewer options)
    (start.run moves).pipeline.worker.calls =
        (start.episodes moves).flatMap Episode.calls ∧
      Reused options (start.episodes moves) := by
  intro start
  obtain ⟨w, story, calls, -⟩ := (toldLife start rfl moves).story
  generalize start.episodes moves = episodes at story
  have begins (low : Nat) (w : Worker σ ρ) (made : low ≤ w.framesMade)
      (none : w.lastRender = none) : w.memory.Since low :=
    ⟨made, fun last held => nomatch none.symm.trans held⟩
  have started := begins 0 start.pipeline.worker (Nat.zero_le _) rfl
  refine ⟨calls.trans story.calls, fun reuses => ?_, ?_, ?_⟩
  · exact story.recalls.apart (story.options ▸ reuses)
  · rintro reuses early e between e' late v f rfl view view' clean spares
    obtain ⟨before, passed, rest⟩ := story.cut
    obtain ⟨among, passed', -⟩ := rest.cut
    obtain ⟨subtitled, last, number, time⟩ := passed.remembers view clean
    have since := (passed.since (before.since started).1).1
    have on : e'.before.options.reuseRendered = true := by
      rw [among.options, passed.options, before.options]
      exact reuses
    exact passed'.again view' ⟨on, subtitled, among.keeps last since spares, number, time⟩
  · rintro early e late rfl recolors done e₁ first e₂ second f₁ made f₂ shown same
    obtain ⟨before, passed, rest⟩ := story.cut
    obtain ⟨framesMade, forgotten⟩ := passed.resets recolors done
    have old := ((before.since started).2 e₁ first f₁ made).2
    have new := ((rest.since (begins _ _ (Nat.le_refl _) forgotten)).2 e₂ second f₂ shown).1
    rw [← same, framesMade] at new
    exact absurd old (Nat.not_lt.mpr new)

end VideoPreview
