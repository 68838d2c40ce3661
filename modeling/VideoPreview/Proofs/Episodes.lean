import Mathlib.Data.List.Chain
import VideoPreview.Proofs.Views

/-! The jobs of a worker as episodes of a story, in which nothing but buffers that come back happens
from one to the next. What the worker remembers lasts as long as it may: a picture until the stream
is asked again, a frame until another is made, both until the matrix is changed. -/
namespace VideoPreview

open Memory (Came)

variable {σ ρ : Type}

theorem cleanFrame {outcome : Attempt SourceError Rendered} {f : Frame}
    (clean : outcome.clean? = some f) : f ∈ outcome.frames := by
  unfold Attempt.clean? at clean
  split at clean
  case h_1 =>
    cases clean
    exact List.mem_singleton_self f
  case h_2 => cases clean

namespace Memory

variable {m m' : Memory σ ρ} {v : View} {outcome : Attempt SourceError Rendered}

theorem Came.calls [FrameSource σ] (came : Came v m m' outcome) : m.calls <+: m'.calls := by
  cases came with
  | again offered same => exact same ▸ List.prefix_rfl
  | anew missed makes looks draws =>
    obtain ⟨looking, looked, -⟩ := looks.calls
    obtain ⟨drawing, drew, -⟩ := draws.calls
    rw [drew, looked, List.append_assoc]
    exact List.prefix_append ..

theorem Came.options [FrameSource σ] (came : Came v m m' outcome) : m'.options = m.options := by
  cases came with
  | again offered same => rw [same]
  | anew missed makes looks draws => exact draws.options.trans looks.options

theorem Came.makesMore [FrameSource σ] (came : Came v m m' outcome) :
    m.framesMade ≤ m'.framesMade := by
  cases came with
  | again offered same => exact same ▸ Nat.le_refl _
  | anew missed makes => exact makes.made ▸ Nat.le_add_right ..

structure Since (low : Nat) (m : Memory σ ρ) : Prop where
  made : low ≤ m.framesMade
  last : ∀ last, m.lastRender = some last →
    low ≤ last.frame.id.number ∧ last.frame.id.number < m.framesMade

theorem Came.since [FrameSource σ] {low : Nat} (came : Came v m m' outcome) (since : m.Since low) :
    m'.Since low ∧ ∀ f ∈ outcome.frames, low ≤ f.id.number ∧ f.id.number < m'.framesMade := by
  cases came with
  | @again f offered same =>
    rw [same]
    refine ⟨since, fun g member => ?_⟩
    cases List.mem_singleton.mp member
    exact since.last _ offered.last
  | anew missed makes looks draws =>
    have frames : ∀ f ∈ outcome.frames, low ≤ f.id.number ∧ f.id.number < m'.framesMade := by
      intro f member
      have some := List.length_pos_of_mem member
      rw [makes.new f member, makes.made]
      exact ⟨since.made, Nat.lt_add_of_pos_right some⟩
    have more : m.framesMade ≤ m'.framesMade := makes.made ▸ Nat.le_add_right ..
    refine ⟨⟨Nat.le_trans since.made more, fun last held => ?_⟩, frames⟩
    cases clean : outcome.clean? with
    | none =>
      obtain ⟨above, below⟩ := since.last last ((makes.failed clean).symm.trans held)
      exact ⟨above, Nat.lt_of_lt_of_le below more⟩
    | some f =>
      obtain ⟨_, now, -⟩ := makes.clean f clean
      cases now.symm.trans held
      exact frames f (cleanFrame clean)

theorem Came.keeps [FrameSource σ] (came : Came v m m' outcome) {last : LastRender}
    (held : m.lastRender = some last) (since : m.Since 0)
    (spares : ∀ g, outcome.clean? = some g → g = last.frame) : m'.lastRender = some last := by
  cases came with
  | again offered same => rw [same, held]
  | anew missed makes looks draws =>
    cases clean : outcome.clean? with
    | none => rw [makes.failed clean, held]
    | some g =>
      have old := (since.last last held).2
      have new := makes.new g (cleanFrame clean)
      rw [← spares g clean, new] at old
      exact absurd old (Nat.lt_irrefl _)

end Memory

structure Episode (σ ρ : Type) where
  job : Job
  before : Worker σ ρ
  yield : Yield
  after : Worker σ ρ

inductive Inquiry where
  | decode (frame : UInt64) (found : Attempt SourceError Picture)
  | matrix (name : String)

def Inquiry.Repeats (first second : Inquiry) : Prop :=
  ∃ n p found, p.isWellFormed = true ∧ first = decode n (.done p) ∧ second = decode n found

def Call.inquiry? [FrameSource σ] (source : σ) : Call → Option Inquiry
  | .decode n _ _ => some (.decode n (FrameSource.decode n source).1)
  | .matrix name => some (.matrix name)
  | .render _ _ _ => none

namespace Episode

def view? (e : Episode σ ρ) : Option View := e.job.view? e.before

def recolors (e : Episode σ ρ) : Bool :=
  match e.job with
  | .recolor _ => true
  | _ => false

def calls (e : Episode σ ρ) : List Call := e.after.calls.drop e.before.calls.length

def inquiries [FrameSource σ] (e : Episode σ ρ) : List Inquiry :=
  e.calls.filterMap (Call.inquiry? e.before.source)

structure Free (e : Episode σ ρ) : Prop where
  calls : e.calls = []
  source : e.after.source = e.before.source
  renderer : e.after.renderer = e.before.renderer
  pool : e.after.pool = e.before.pool

structure Spares (f : Frame) (e : Episode σ ρ) : Prop where
  matrix : e.recolors = false
  frame : ∀ g, e.yield.clean? = some g → g = f

def ofJob [FrameSource σ] [SubtitleRenderer ρ] (w : Worker σ ρ) (current : Version) (job : Job) :
    Episode σ ρ :=
  ⟨job, w, (w.carryOut current job).1, (w.carryOut current job).2.1⟩

inductive Passed [FrameSource σ] (e : Episode σ ρ) : Prop where
  | idle (matrix : e.recolors = false) (view : e.view? = none) (frames : e.yield.frames = [])
      (clean : e.yield.clean? = none) (same : e.after.memory = e.before.memory)
  | showed {v : View} {outcome : Attempt SourceError Rendered} (matrix : e.recolors = false)
      (view : e.view? = some v) (came : Came v e.before.memory e.after.memory outcome)
      (frames : e.yield.frames = outcome.frames) (clean : e.yield.clean? = outcome.clean?)
  | recolored (name : String) (job : e.job = .recolor name) (frames : e.yield.frames = [])
      (calls : e.after.calls = e.before.calls ++ [.matrix name])
      (framesMade : e.after.framesMade = e.before.framesMade)
      (pipeline : e.after.pipeline = e.before.pipeline)
      (options : e.after.options = e.before.options)
      (last : e.after.lastRender = none ∨
        e.yield ≠ .nothing ∧ e.after.lastRender = e.before.lastRender)

section
variable [FrameSource σ] [SubtitleRenderer ρ]

theorem processPassed (w : Worker σ ρ) (current : Version) (n : UInt64) (t : Int64) (v : Version) :
    ∃ outcome, Came ⟨n, t, w.script.visibleAt t⟩ w.memory (w.process current n t v).2.1.memory
        outcome ∧
      (w.process current n t v).1.frames = outcome.frames ∧
      (w.process current n t v).1.clean? = outcome.clean? :=
  ⟨(w.produce n t true).1, w.produceCame n t true, Worker.handoverFrames .., handoverClean ..⟩

theorem ofJobPassed (w : Worker σ ρ) (current : Version) (job : Job) :
    (ofJob w current job).Passed := by
  cases job with
  | display n t v =>
    obtain ⟨outcome, came, frames, clean⟩ :=
      processPassed { w with position := some (n, t) } current n t v
    exact .showed rfl rfl came frames clean
  | rescript script v =>
    cases shown : w.position with
    | none =>
      have idle := Worker.rescriptIdle shown current script v
      have view : (ofJob w current (.rescript script v)).view? = none := by
        simp [view?, ofJob, Job.view?, shown]
      refine .idle rfl view ?_ ?_ ?_
      all_goals simp only [ofJob, idle]; rfl
    | some last =>
      have busy := Worker.rescriptBusy shown current script v
      obtain ⟨outcome, came, frames, clean⟩ :=
        processPassed { w with script } current last.1 last.2 v
      have view : (ofJob w current (.rescript script v)).view? =
          some ⟨last.1, last.2, script.visibleAt last.2⟩ := by
        simp [view?, ofJob, Job.view?, shown]
      rw [← busy] at came frames clean
      exact .showed rfl view came frames clean
  | recolor matrix =>
    cases set : FrameSource.setColorSpace matrix w.source with
    | mk thrown source =>
      cases thrown with
      | none =>
        simp only [ofJob, Worker.recolorDone set]
        exact .recolored matrix rfl rfl rfl rfl rfl rfl (.inl rfl)
      | some payload =>
        simp only [ofJob, Worker.recolorThrew set]
        exact .recolored matrix rfl rfl rfl rfl rfl rfl (.inr ⟨Yield.noConfusion, rfl⟩)
  | fetch n t withSubtitles => exact .showed rfl rfl (w.produceCame n t withSubtitles) rfl rfl
  | inspect => exact .idle rfl rfl rfl rfl rfl

end

section
variable [FrameSource σ] {e : Episode σ ρ}

theorem Passed.grows (passed : e.Passed) : e.after.calls = e.before.calls ++ e.calls := by
  have prefixed : e.before.memory.calls <+: e.after.memory.calls := by
    cases passed with
    | idle matrix view frames clean same => exact same ▸ List.prefix_rfl
    | showed matrix view came => exact came.calls
    | recolored name job frames calls => exact ⟨_, calls.symm⟩
  exact (List.prefix_iff_eq_append.mp prefixed).symm

theorem Passed.callsOf (passed : e.Passed) {calls : List Call}
    (added : e.after.calls = e.before.calls ++ calls) : e.calls = calls :=
  List.append_cancel_left (passed.grows.symm.trans added)

theorem Passed.silent (passed : e.Passed) (same : e.after.memory = e.before.memory) :
    e.calls = [] :=
  passed.callsOf ((congrArg Memory.calls same).trans (List.append_nil _).symm)

theorem Passed.options (passed : e.Passed) : e.after.options = e.before.options := by
  cases passed with
  | idle matrix view frames clean same => exact congrArg Memory.options same
  | showed matrix view came => exact came.options
  | recolored name job frames calls framesMade pipeline options => exact options

theorem Passed.makesMore (passed : e.Passed) : e.before.framesMade ≤ e.after.framesMade := by
  cases passed with
  | idle matrix view frames clean same => exact Nat.le_of_eq (congrArg Memory.framesMade same).symm
  | showed matrix view came => exact came.makesMore
  | recolored name job frames calls framesMade => exact Nat.le_of_eq framesMade.symm

theorem Passed.since (passed : e.Passed) {low : Nat} (since : e.before.memory.Since low) :
    e.after.memory.Since low ∧
      ∀ f ∈ e.yield.frames, low ≤ f.id.number ∧ f.id.number < e.after.framesMade := by
  cases passed with
  | idle matrix view frames clean same =>
    rw [same, frames]
    exact ⟨since, fun f member => nomatch member⟩
  | showed matrix view came frames => exact frames ▸ came.since since
  | recolored name job frames calls framesMade pipeline options last =>
    have made : e.after.memory.framesMade = e.before.memory.framesMade := framesMade
    rw [frames]
    refine ⟨⟨made ▸ since.made, fun held found => ?_⟩, fun f member => nomatch member⟩
    rcases last with none | ⟨-, same⟩
    · cases none.symm.trans found
    · exact made ▸ since.last held (same.symm.trans found)

theorem Passed.keeps (passed : e.Passed) {last : LastRender}
    (held : e.before.lastRender = some last) (since : e.before.memory.Since 0)
    (spares : e.Spares last.frame) : e.after.lastRender = some last := by
  cases passed with
  | idle matrix view frames clean same => exact (congrArg Memory.lastRender same).trans held
  | showed matrix view came frames clean =>
    exact came.keeps held since fun g shown => spares.frame g (clean.trans shown)
  | recolored name job =>
    have matrix := spares.matrix
    rw [recolors, job] at matrix
    cases matrix

theorem Passed.shown (passed : e.Passed) {v : View} (view : e.view? = some v) :
    ∃ outcome, Came v e.before.memory e.after.memory outcome ∧
      e.yield.clean? = outcome.clean? := by
  cases passed with
  | idle matrix none => cases none.symm.trans view
  | showed matrix some came frames clean =>
    cases some.symm.trans view
    exact ⟨_, came, clean⟩
  | recolored name job =>
    rw [view?, job] at view
    cases view

theorem Passed.remembers (passed : e.Passed) {v : View} (view : e.view? = some v) {f : Frame}
    (clean : e.yield.clean? = some f) : ∃ subtitled,
    e.after.lastRender = some ⟨v.lines, f, subtitled⟩ ∧ f.number = v.number ∧ f.time = v.time := by
  obtain ⟨outcome, came, shown⟩ := passed.shown view
  rw [shown] at clean
  cases came with
  | again offered same =>
    cases clean
    exact ⟨offered.subtitled, (congrArg Memory.lastRender same).trans offered.last, offered.number,
      offered.time⟩
  | anew missed makes => exact makes.clean f clean

theorem Passed.again (passed : e.Passed) {v : View} (view : e.view? = some v) {f : Frame}
    (offered : e.before.memory.Offers v f) : e.yield.clean? = some f ∧ e.Free := by
  obtain ⟨outcome, came, shown⟩ := passed.shown view
  cases came with
  | @again g other same =>
    cases offered.last.symm.trans other.last
    exact ⟨shown, passed.silent same, congrArg Memory.source same, congrArg Memory.renderer same,
      congrArg Memory.pool same⟩
  | anew missed => exact absurd offered (missed f)

theorem Passed.renders (passed : e.Passed) {v : View} (view : e.view? = some v)
    (size : PictureSize) (t : Int64) (lines : List SubtitleLine)
    (drawn : .render size t lines ∈ e.calls) : t = v.time ∧ lines = v.lines := by
  obtain ⟨outcome, came, -⟩ := passed.shown view
  cases came with
  | again offered same =>
    rw [passed.silent same] at drawn
    cases drawn
  | anew missed makes looks draws =>
    obtain ⟨looking, looked, asked⟩ := looks.calls
    obtain ⟨drawing, drew, drawings⟩ := draws.calls
    rw [passed.callsOf (drew.trans (looked ▸ List.append_assoc ..))] at drawn
    rcases List.mem_append.mp drawn with look | draw
    · cases asked <;> simp at look
    · cases drawings <;> simp at draw
      exact draw.2

theorem Passed.resets (passed : e.Passed) (recolors : e.recolors = true)
    (done : e.yield = .nothing) :
    e.after.framesMade = e.before.framesMade ∧ e.after.lastRender = none := by
  cases passed with
  | idle matrix => cases matrix.symm.trans recolors
  | showed matrix => cases matrix.symm.trans recolors
  | recolored name job frames calls framesMade pipeline options last =>
    exact ⟨framesMade, last.resolve_right fun failed => failed.1 done⟩

inductive Inquires (e : Episode σ ρ) : List Inquiry → Prop where
  | nothing (decoded : e.after.decoded = e.before.decoded) : Inquires e []
  | matrix (name : String) : Inquires e [.matrix name]
  | picture (n : UInt64)
      (missed : ∀ p, e.before.decoded = some (n, p) → e.before.options.reuseDecoded = false)
      (found : ∀ p, (FrameSource.decode n e.before.source).1 = .done p → p.isWellFormed = true →
        e.after.decoded = some (n, p)) :
      Inquires e [.decode n (FrameSource.decode n e.before.source).1]

theorem Passed.inquires (passed : e.Passed) : e.Inquires e.inquiries := by
  have idle : e.after.memory = e.before.memory → e.Inquires e.inquiries := by
    intro same
    rw [inquiries, passed.silent same]
    exact .nothing (congrArg Memory.decoded same)
  cases id passed with
  | idle matrix view frames clean same => exact idle same
  | showed matrix view came frames clean =>
    cases came with
    | again offered same => exact idle same
    | anew missed makes looks draws =>
      obtain ⟨looking, looked, asked⟩ := looks.calls
      obtain ⟨drawing, drew, drawn⟩ := draws.calls
      have calls : e.calls = looking ++ drawing :=
        passed.callsOf (drew.trans (looked ▸ List.append_assoc ..))
      have silent : drawing.filterMap (Call.inquiry? e.before.source) = [] := by
        cases drawn <;> rfl
      rw [inquiries, calls, List.filterMap_append, silent, List.append_nil]
      cases asked with
      | kept decoded => exact .nothing (draws.decoded.trans decoded)
      | asked missed colorSpace delivered decoded =>
        exact .picture _ missed fun p given ok => draws.decoded.trans (decoded p given ok)
  | recolored name job frames calls =>
    rw [inquiries, passed.callsOf calls]
    exact .matrix name

end
end Episode

/-- What a worker went through, episode by episode. In between buffers come back to its pool. -/
inductive Story [FrameSource σ] (first : Worker σ ρ) : List (Episode σ ρ) → Worker σ ρ → Prop where
  | start : Story first [] first
  | next {episodes w} (earlier : Story first episodes w) (e : Episode σ ρ) (begins : e.before = w)
      (passed : e.Passed) : Story first (episodes ++ [e]) e.after
  | letGo {episodes w} (earlier : Story first episodes w) (b : Buffer) :
      Story first episodes (w.takeBack b)

namespace Story

variable [FrameSource σ] {first w : Worker σ ρ} {episodes early late : List (Episode σ ρ)}
  {e : Episode σ ρ}

theorem cut (story : Story first (early ++ e :: late) w) :
    Story first early e.before ∧ e.Passed ∧ Story e.after late w := by
  generalize whole : early ++ e :: late = episodes at story
  induction story generalizing late with
  | start => cases early <;> cases whole
  | @next episodes w earlier e' begins passed ih =>
    cases late using List.reverseRecOn with
    | nil =>
      obtain ⟨rfl, same⟩ := List.append_inj' whole rfl
      cases same
      cases begins
      exact ⟨earlier, passed, .start⟩
    | append_singleton late last =>
      rw [← List.cons_append, ← List.append_assoc] at whole
      obtain ⟨rfl, same⟩ := List.append_inj' whole rfl
      cases same
      obtain ⟨before, here, after⟩ := ih rfl
      exact ⟨before, here, after.next _ begins passed⟩
  | letGo earlier b ih =>
    obtain ⟨before, here, after⟩ := ih whole
    exact ⟨before, here, after.letGo b⟩

theorem options (story : Story first episodes w) : w.options = first.options := by
  induction story with
  | start => rfl
  | next earlier e begins passed ih => rw [passed.options, begins, ih]
  | letGo earlier b ih => exact ih

theorem calls (story : Story first episodes w) :
    w.calls = first.calls ++ episodes.flatMap Episode.calls := by
  induction story with
  | start => simp
  | next earlier e begins passed ih => simp [passed.grows, begins, ih]
  | letGo earlier b ih => exact ih

theorem since (story : Story first episodes w) {low : Nat} (start : first.memory.Since low) :
    w.memory.Since low ∧
      ∀ e ∈ episodes, ∀ f ∈ e.yield.frames, low ≤ f.id.number ∧ f.id.number < w.framesMade := by
  induction story with
  | start => exact ⟨start, fun e member => nomatch member⟩
  | next earlier e begins passed ih =>
    cases begins
    obtain ⟨before, earlierFrames⟩ := ih
    obtain ⟨after, frames⟩ := passed.since before
    refine ⟨after, List.forall_mem_append.mpr ⟨fun e' member f shown => ?_, ?_⟩⟩
    · obtain ⟨above, below⟩ := earlierFrames e' member f shown
      exact ⟨above, Nat.lt_of_lt_of_le below passed.makesMore⟩
    · exact fun e' member => List.mem_singleton.mp member ▸ frames
  | letGo earlier b ih => exact ⟨⟨ih.1.made, ih.1.last⟩, ih.2⟩

theorem keeps (story : Story first episodes w) {last : LastRender}
    (held : first.lastRender = some last) (start : first.memory.Since 0)
    (spares : ∀ e ∈ episodes, e.Spares last.frame) : w.lastRender = some last := by
  induction story with
  | start => exact held
  | next earlier e begins passed ih =>
    cases begins
    obtain ⟨earlierSpares, here⟩ := List.forall_mem_append.mp spares
    exact passed.keeps (ih earlierSpares) (earlier.since start).1
      (here e (List.mem_singleton_self e))
  | letGo earlier b ih => exact ih spares

structure Recalls (w : Worker σ ρ) (log : List Inquiry) : Prop where
  apart : w.options.reuseDecoded = true → log.IsChain fun first second => ¬first.Repeats second
  last : ∀ n p, log.getLast? = some (.decode n (.done p)) → p.isWellFormed = true →
    w.decoded = some (n, p)

theorem recallsNext {log : List Inquiry} (before : Recalls e.before log) (passed : e.Passed) :
    Recalls e.after (log ++ e.inquiries) := by
  have options := passed.options
  have inquires := passed.inquires
  generalize e.inquiries = asked at inquires
  cases inquires with
  | nothing decoded =>
    rw [List.append_nil]
    exact ⟨fun reuses => before.apart (options ▸ reuses), fun n p last ok =>
      decoded.trans (before.last n p last ok)⟩
  | matrix name =>
    refine ⟨fun reuses => List.isChain_append.mpr ⟨before.apart (options ▸ reuses), .singleton _,
      fun first _ second here repeats => ?_⟩, fun n p last => ?_⟩
    · obtain ⟨n, p, found, -, -, same⟩ := repeats
      cases Option.some.inj here
      cases same
    · rw [List.getLast?_concat] at last
      cases last
  | picture n missed found =>
    refine ⟨fun reuses => List.isChain_append.mpr ⟨before.apart (options ▸ reuses), .singleton _,
      fun first previous second here repeats => ?_⟩, fun m p last ok => ?_⟩
    · -- had the picture been given just before, the worker would still have it
      obtain ⟨m, p, answer, ok, given, same⟩ := repeats
      cases Option.some.inj here
      injection same with number
      subst given number
      have off := missed p (before.last n p previous ok)
      rw [options, off] at reuses
      cases reuses
    · rw [List.getLast?_concat] at last
      injection Option.some.inj last with number answer
      exact number ▸ found p answer ok

theorem recalls (story : Story first episodes w) :
    Recalls w (episodes.flatMap Episode.inquiries) := by
  induction story with
  | start => exact ⟨fun _ => .nil, fun n p last => nomatch last⟩
  | next earlier e begins passed ih =>
    cases begins
    rw [List.flatMap_append, List.flatMap_singleton]
    exact recallsNext ih passed
  | letGo earlier b ih => exact ⟨ih.apart, ih.last⟩

end Story
end VideoPreview
