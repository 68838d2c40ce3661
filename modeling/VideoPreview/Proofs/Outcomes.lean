import Mathlib.Data.List.Forall2
import VideoPreview.Proofs.Computation
import VideoPreview.Proofs.Life
import VideoPreview.Synthetic.Bands
import VideoPreview.Synthetic.Video

/-! Every request that shows a frame is answered to the main thread, once and in the order of the
versions, however its computation ends. Nothing is assumed of the stream and of the renderer. -/
namespace VideoPreview

inductive Settles (n : UInt64) (v : Version) : Handover → Prop where
  | shown (frame : Frame) (number : frame.number = n) :
      Settles n v (.deliver [.frameReady frame v])
  | bare (frame : Frame) (fault : SubtitleError) (number : frame.number = n)
      (bare : frame.hasSubtitles = false) :
      Settles n v (.deliver [.renderError (.ofSubtitleError fault n v), .frameReady frame v])
  | undecoded (e : SourceError) : Settles n v (.deliver [.decodeError (.ofSourceError e n v)])
  | panicked (payload : Payload) : Settles n v (.surface (.ofPanic payload))

namespace Request

/-- The frame that is shown for the last request of `made`, and which request that is, counted
among those with a version. -/
def due (made : List Request) : Request → List (UInt64 × Nat)
  | display n _ => [(n, numbered made)]
  | rescript _ => (position made).toList.map fun last => (last.1, numbered made)
  | _ => []

@[simp] theorem numberedSnoc (made : List Request) (q : Request) :
    numbered (made ++ [q]) = numbered made + if q.isNumbered then 1 else 0 := by
  cases h : q.isNumbered <;> simp [numbered, h]

theorem dueNumber {made : List Request} {q : Request} {d : UInt64 × Nat}
    (member : d ∈ due (made ++ [q]) q) : d.2 = numbered made + 1 := by
  cases q with
  | display n t =>
    cases List.mem_singleton.mp member
    exact numberedSnoc made (.display n t)
  | rescript script =>
    obtain ⟨last, -, rfl⟩ := List.mem_map.mp member
    exact numberedSnoc made (.rescript script)
  | recolor matrix => cases member
  | fetch n t withSubtitles => cases member
  | inspect => cases member

theorem dueLater {made more : List Request} {d : UInt64 × Nat} (member : d ∈ each due made more) :
    numbered made < d.2 := by
  induction more generalizing made with
  | nil => cases member
  | cons q rest ih =>
    rw [eachCons] at member
    rcases List.mem_append.mp member with now | later
    · have number := dueNumber now
      omega
    · have number := ih later
      rw [numberedSnoc] at number
      omega

theorem dueLengthLe (made : List Request) (q : Request) : (due made q).length ≤ 1 := by
  cases q with
  | display n t => exact Nat.le_refl 1
  | rescript script => cases h : position made <;> simp [due, h]
  | recolor matrix => exact Nat.zero_le 1
  | fetch n t withSubtitles => exact Nat.zero_le 1
  | inspect => exact Nat.zero_le 1

theorem dueInOrder (made more : List Request) :
    (each due made more).Pairwise fun a b => a.2 < b.2 := by
  induction more generalizing made with
  | nil => exact .nil
  | cons q rest ih =>
    rw [eachCons]
    refine List.pairwise_append.mpr ⟨?_, ih (made ++ [q]), ?_⟩
    · have short := dueLengthLe (made ++ [q]) q
      cases h : due (made ++ [q]) q with
      | nil => exact .nil
      | cons d more =>
        cases more with
        | nil => exact List.pairwise_singleton _ _
        | cons e more => simp [h] at short
    · intro a now b later
      have first := dueNumber now
      have second := dueLater later
      rw [numberedSnoc] at second
      cases q <;> simp_all [due, isNumbered]

end Request

variable {σ ρ : Type} [FrameSource σ] [SubtitleRenderer ρ]

def Quiet (σ : Type) [FrameSource σ] : Prop :=
  ∀ matrix (s : σ), (FrameSource.setColorSpace matrix s).1 = none

namespace Worker

theorem processSettles (w : Worker σ ρ) (current : Version) (n : UInt64) (t : Int64)
    (v : Version) : ∃ h, (w.process current n t v).1 = .handover h ∧ Settles n v h := by
  refine ⟨.ofOutcome n v (w.produce n t true).1, rfl, ?_⟩
  cases produced : (w.produce n t true).1 with
  | refused e => exact .undecoded e
  | panicked payload => exact .panicked payload
  | done rendered =>
    obtain ⟨number, bare⟩ := produceShows produced
    obtain ⟨frame, fault⟩ := rendered
    cases fault with
    | none => exact .shown frame number
    | some fault => exact .bare frame fault number (bare (Option.some_ne_none fault))

theorem processKeeps (w : Worker σ ρ) (current : Version) (n : UInt64) (t : Int64)
    (v : Version) : (w.process current n t v).2.1.position = w.position :=
  (w.produceKeeps n t true).2

theorem carryOutSettles (quiet : Quiet σ) {w : Worker σ ρ} {done : List Request}
    (position : w.position = Request.position done) (current : Version) (q : Request) :
    let after := w.carryOut current (Request.job (done ++ [q]) q)
    List.Forall₂ (fun d h => Settles d.1 ⟨.ofNat d.2⟩ h) (Request.due (done ++ [q]) q)
        after.1.handover?.toList ∧
      after.2.1.position = Request.position (done ++ [q]) := by
  rw [Request.positionSnoc]
  cases q with
  | display n t =>
    obtain ⟨h, handed, settles⟩ := processSettles { w with position := some (n, t) } current n t
      (Request.version (done ++ [.display n t]))
    simp only [Request.job, carryOut, handed]
    exact ⟨.cons settles .nil, processKeeps { w with position := some (n, t) } current n t _⟩
  | rescript script =>
    have same := Request.positionSnoc done (.rescript script)
    rw [Request.job]
    cases shown : w.position with
    | none =>
      rw [rescriptIdle shown]
      simp only [Request.due, same, ← position, shown]
      exact ⟨.nil, trivial⟩
    | some last =>
      obtain ⟨h, handed, settles⟩ := processSettles { w with script } current last.1 last.2
        (Request.version (done ++ [.rescript script]))
      have due : Request.due (done ++ [.rescript script]) (.rescript script) =
          [(last.1, Request.numbered (done ++ [.rescript script]))] := by
        simp [Request.due, same, ← position, shown]
      rw [rescriptBusy shown, due]
      simp only
      rw [handed]
      exact ⟨.cons settles .nil,
        (processKeeps { w with script } current last.1 last.2 _).trans position⟩
  | recolor matrix =>
    rw [Request.job, recolorDone (Prod.ext (quiet matrix w.source) rfl)]
    exact ⟨.nil, position⟩
  | fetch n t withSubtitles => exact ⟨.nil, (w.produceKeeps n t withSubtitles).2.trans position⟩
  | inspect => exact ⟨.nil, position⟩

theorem workedSettles (quiet : Quiet σ) {first w : Worker σ ρ} {done : List Request}
    {yields : List Yield} (fresh : first.position = none) (worked : Worked first done yields w) :
    List.Forall₂ (fun d h => Settles d.1 ⟨.ofNat d.2⟩ h) (Request.each Request.due [] done)
        (yields.filterMap Yield.handover?) ∧
      w.position = Request.position done := by
  induction worked with
  | start => exact ⟨.nil, fresh⟩
  | @job done yields w earlier q current ih =>
    obtain ⟨settled, position⟩ := ih
    obtain ⟨settles, position⟩ := carryOutSettles quiet position current q
    refine ⟨?_, position⟩
    rw [Request.eachSnoc, Yield.handoversSnoc]
    exact List.rel_append settled settles
  | letGo earlier b ih => exact ih
  | forget earlier ih => exact ih

end Worker

namespace Life

open Pipeline (Move)

theorem workersAskNothing (l : Life σ ρ) {moves : List Move}
    (workers : ∀ m ∈ moves, m.isWorkers = true) : l.asked moves = [] := by
  induction moves generalizing l with
  | nil => rfl
  | cons m rest ih =>
    have later := ih (l.step m) fun m' member => workers m' (List.mem_cons_of_mem m member)
    have now : l.takes m = [] := by
      have own := workers m (List.mem_cons_self ..)
      cases m <;> first | rfl | cases own
    change l.takes m ++ (l.step m).asked rest = []
    rw [now, later]
    rfl

def Calm (l : Life σ ρ) : Prop := l.trampoline = .pump ∨ l.handling.IsGentle

omit [FrameSource σ] [SubtitleRenderer ρ] in
theorem Calm.throws {l : Life σ ρ} (calm : l.Calm) (heard : List Failure) (failure : Failure) :
    l.thrown? heard failure = none := by
  unfold thrown?
  rcases calm with pump | gentle
  · rw [pump]
  · cases l.trampoline <;> simp [gentle heard failure]

omit [FrameSource σ] [SubtitleRenderer ρ] in
theorem Calm.handsOver {l : Life σ ρ} (calm : l.Calm) (crash : Option Payload)
    (heard : List Failure) : l.handOver crash heard = l.pipeline.relieved := by
  have stands (h : Handover) : l.topples crash heard h = false := by
    cases h <;> simp [topples, calm.throws]
  unfold handOver
  cases l.pipeline.handover <;> simp [stands]

theorem Calm.step {l : Life σ ρ} (calm : l.Calm) (m : Move) : (l.step m).Calm := by
  have same : (l.step m).trampoline = l.trampoline ∧ (l.step m).handling = l.handling := by
    unfold Life.step
    split <;> (try split) <;> exact ⟨rfl, rfl⟩
  unfold Calm
  rw [same.1, same.2]
  exact calm

theorem Calm.serves {l : Life σ ρ} (calm : l.Calm) (served : l.pipeline.queue.isServed = true)
    (m : Move) : (l.step m).pipeline.queue.isServed = true := by
  cases m with
  | ask q =>
    simp only [Life.step]
    split
    case isTrue => exact served
    case isFalse => exact (l.pipeline.askServed q).trans served
  | compute => exact l.pipeline.computeServed.trans served
  | handOver crash heard =>
    simp only [Life.step, calm.handsOver]
    exact served
  | pickUp =>
    simp only [Life.step, Pipeline.takeAnswer?]
    cases l.pipeline.answers <;> exact served
  | letGo b => exact served
  | close =>
    simp only [Life.step]
    split <;> exact served
  | shut =>
    simp only [Life.step]
    split <;> exact served

theorem Calm.run {l : Life σ ρ} (calm : l.Calm) (served : l.pipeline.queue.isServed = true)
    (moves : List Move) :
    (l.run moves).Calm ∧ (l.run moves).pipeline.queue.isServed = true := by
  induction moves generalizing l with
  | nil => exact ⟨calm, served⟩
  | cons m rest ih => exact ih (calm.step m) (calm.serves served m)

theorem Calm.workOffOne {l : Life σ ρ} (calm : l.Calm) {job : Job} {rest : List Job}
    (next : l.pipeline.queue.backlog = job :: rest) :
    let after := l.run [.handOver none [], .compute]
    after.closing = l.closing ∧ after.pipeline.queue.backlog = rest := by
  have advanced := Pipeline.computeNext (p := l.pipeline.relieved) rfl next
  refine ⟨rfl, ?_⟩
  simp only [Life.run, play, List.foldl, Life.step, calm.handsOver]
  exact advanced.backlog

theorem Calm.workOff {l : Life σ ρ} (calm : l.Calm) : ∃ more, (∀ m ∈ more, m.isWorkers = true) ∧
    (l.run more).closing = l.closing ∧ (l.run more).pipeline.remaining = 0 := by
  -- the worker hands over before it takes up a job, so each job takes two moves
  generalize left : l.pipeline.queue.backlog = backlog
  induction backlog generalizing l with
  | nil =>
    refine ⟨[.handOver none []], by simp [Move.isWorkers], rfl, ?_⟩
    simp [Life.run, play, Life.step, calm.handsOver, Pipeline.relieved, Pipeline.remaining, left]
  | cons job rest ih =>
    obtain ⟨closing, backlog⟩ := calm.workOffOne left
    have still : (l.run [.handOver none [], .compute]).Calm :=
      (calm.step (.handOver none [])).step .compute
    obtain ⟨more, workers, same, done⟩ := ih still backlog
    refine ⟨[.handOver none [], .compute] ++ more, ?_, ?_, ?_⟩
    · simpa [Move.isWorkers] using workers
    · rw [Life.run, playAppend]
      exact same.trans closing
    · rw [Life.run, playAppend]
      exact done

theorem shutEnds {l : Life σ ρ} (closing : l.closing = true) (done : l.pipeline.remaining = 0) :
    (l.step .shut).pipeline.isOpen = false := by
  simp [step, closing, done, Pipeline.shut, Pipeline.isOpen, SerialQueue.close]

theorem Calm.closes {l : Life σ ρ} (calm : l.Calm) : ∃ more, (∀ m ∈ more, m.isWorkers = true) ∧
    (l.run (.close :: more)).pipeline.isOpen = false := by
  obtain ⟨more, workers, closing, done⟩ := (calm.step .close).workOff
  refine ⟨more ++ [.shut], by simpa [or_imp, forall_and, Move.isWorkers] using workers, ?_⟩
  have closed : ((l.step .close).run more).closing = true := by
    rw [closing]
    cases open' : l.closing <;> simp [Life.step, open']
  change ((l.step .close).run (more ++ [.shut])).pipeline.isOpen = false
  rw [Life.run, playSnoc]
  exact shutEnds closed done

/-- Every request with a version gets the next one, and what each leads to is handed over: nothing
is lost or handed over twice, and closing waits for what is left. -/
structure Settled (start : Life σ ρ) (moves : List Move) : Prop where
  returned : start.returned moves =
    (List.range (Request.numbered (start.asked moves))).map fun k => ⟨.ofNat (k + 1)⟩
  current : (start.run moves).closing = false →
    (start.run moves).pipeline.version = Request.version (start.asked moves)
  inOrder : (Request.each Request.due [] (start.asked moves)).Pairwise fun a b => a.2 < b.2
  soFar : List.Forall₂ (fun d h => Settles d.1 ⟨.ofNat d.2⟩ h)
    (Request.each Request.due [] (start.taken moves)) (start.handovers moves)
  idle : (start.run moves).pipeline.remaining = 0 →
    List.Forall₂ (fun d h => Settles d.1 ⟨.ofNat d.2⟩ h)
      (Request.each Request.due [] (start.asked moves)) (start.handed moves)
  closed : (start.run moves).pipeline.isOpen = false →
    List.Forall₂ (fun d h => Settles d.1 ⟨.ofNat d.2⟩ h)
      (Request.each Request.due [] (start.asked moves)) (start.handed moves)
  closes : ∃ more, (∀ m ∈ more, m.isWorkers = true) ∧
    start.asked (moves ++ .close :: more) = start.asked moves ∧
    (start.run (moves ++ .close :: more)).pipeline.isOpen = false

variable {first : Worker σ ρ} {made : List Request} {took : List Job} {out : List Handover}
  {replies : List JobAnswer} {done waiting lost : List Request} {yields : List Yield} {l : Life σ ρ}

theorem courseHanded (quiet : Quiet σ) (fresh : first.position = none)
    (course : Course first made took out replies done waiting lost yields l)
    (served : l.pipeline.queue.isServed = true) (last : waiting = [])
    (free : l.pipeline.handover = none) :
    List.Forall₂ (fun d h => Settles d.1 ⟨.ofNat d.2⟩ h)
      (Request.each Request.due [] made) out := by
  obtain ⟨settled, -⟩ := Worker.workedSettles quiet fresh course.worked
  rw [← course.handed, free] at settled
  rw [course.made, last, course.served served]
  simpa using settled

theorem courseReturns (course : Course first made took out replies done waiting lost yields l)
    {m : Move} :
    l.returning m = (l.takes m).filterMap fun q =>
      if q.isNumbered then some ⟨.ofNat (Request.numbered made + 1)⟩ else none := by
  cases m with
  | ask q =>
    cases open' : l.closing with
    | true => simp [returning, takes, open']
    | false =>
      have version := course.version
      simp only [open', Bool.false_eq_true, if_false, ← course.made] at version
      have next := Pipeline.askVersion l.pipeline q version
      cases numbered : q.isNumbered with
      | false => simp [returning, takes, open', numbered]
      | true =>
        have count := Request.numberedSnoc made q
        simp only [numbered, if_true] at count
        simp [returning, takes, open', numbered, next, Request.version, count]
  | _ => rfl

omit [FrameSource σ] [SubtitleRenderer ρ] in
theorem takesOne (l : Life σ ρ) (m : Move) : l.takes m = [] ∨ ∃ q, l.takes m = [q] := by
  cases m with
  | ask q => cases h : l.closing <;> simp [takes, h]
  | _ => exact .inl rfl

theorem versionsReturned (trampoline : Trampoline) (handling : FailureHandling) (id : Nat)
    (queue path : String) (source : σ) (renderer : ρ) (viewer : Nat) (options : PipelineOptions)
    (moves : List Move) :
    let start := begin trampoline handling (.start id queue path source renderer viewer options)
    start.returned moves =
      (List.range (Request.numbered (start.asked moves))).map fun k => ⟨.ofNat (k + 1)⟩ := by
  intro start
  induction moves using List.reverseRecOn with
  | nil => rfl
  | append_singleton moves m ih =>
    obtain ⟨done, waiting, lost, yields, course⟩ :=
      runCourse trampoline handling id queue path source renderer viewer options moves
    have now : (start.run moves).returning m = ((start.run moves).takes m).filterMap fun q =>
        if q.isNumbered then some ⟨.ofNat (Request.numbered (start.asked moves) + 1)⟩ else none :=
      courseReturns course
    rw [returned, seenSnoc, asked, seenSnoc]
    change start.returned moves ++ (start.run moves).returning m =
      (List.range (Request.numbered (start.asked moves ++ (start.run moves).takes m))).map _
    rw [ih, now]
    rcases takesOne (start.run moves) m with nothing | ⟨q, one⟩
    · simp [nothing]
    · rw [one, Request.numberedSnoc]
      cases h : q.isNumbered <;> simp [h, List.range_succ]

end Life

open Life in
theorem oneOutcomeEach (quiet : Quiet σ) (trampoline : Trampoline) (handling : FailureHandling)
    (calm : trampoline = .pump ∨ handling.IsGentle) (id : Nat) (queue path : String) (source : σ)
    (renderer : ρ) (viewer : Nat) (options : PipelineOptions) (moves : List Pipeline.Move) :
    (Life.begin trampoline handling
      (.start id queue path source renderer viewer options)).Settled moves := by
  obtain ⟨done, waiting, lost, yields, course⟩ :=
    runCourse trampoline handling id queue path source renderer viewer options moves
  generalize began : Life.begin trampoline handling
    (.start id queue path source renderer viewer options) = start at *
  obtain ⟨calm, starts, fresh⟩ : start.Calm ∧ start.pipeline.queue.isServed = true ∧
      start.pipeline.worker.position = none := by
    rw [← began]
    exact ⟨calm, rfl, rfl⟩
  obtain ⟨calmly, served⟩ := calm.run starts moves
  obtain ⟨settled, -⟩ := Worker.workedSettles quiet fresh course.worked
  have taken : start.taken moves = done := courseTaken course
  refine ⟨?_, ?_, Request.dueInOrder [] _, ?_, ?_, ?_, ?_⟩
  · rw [← began]
    exact versionsReturned trampoline handling id queue path source renderer viewer options moves
  · intro open'
    have version := course.version
    simpa [open', course.made] using version
  · rw [taken, Life.handovers, course.handed]
    exact settled
  · intro idle
    obtain ⟨last, free⟩ := Pipeline.idleRests course.backlog idle
    exact courseHanded quiet fresh course served last free
  · intro shut
    obtain ⟨last, free⟩ := course.ended shut
    exact courseHanded quiet fresh course served last free
  · obtain ⟨more, workers, shut⟩ := calmly.closes
    refine ⟨more, workers, ?_, ?_⟩
    · have nothing := workersAskNothing ((start.run moves).step .close) workers
      rw [asked, seenAppend]
      change start.asked moves ++ ([] ++ ((start.run moves).step .close).asked more) = _
      rw [nothing]
      simp
    · rw [run, playAppend]
      exact shut

namespace Life

def crashingFirst (trampoline : Trampoline) : Life SyntheticStream BandRenderer :=
  begin trampoline .rethrow
    (.start 0 "serial-1" "film.mkv" ⟨{ SyntheticVideo.default with crashing := [0] }, "TV.601"⟩
      .default 0 .default)

end Life

open Life in
theorem oneOutcomeEachThoughRaised :
    let moves : List Pipeline.Move := [.ask (.display 0 0), .ask (.display 1 40), .compute,
      .handOver none [], .compute, .handOver none []]
    Quiet SyntheticStream ∧ (crashingFirst .pump).trampoline = .pump ∧
      (crashingFirst .pump).Settled moves ∧ ((crashingFirst .pump).handed moves).length = 2 :=
  ⟨fun _ _ => rfl, rfl, oneOutcomeEach (fun _ _ => rfl) .pump .rethrow (.inl rfl) 0 "serial-1"
    "film.mkv" _ BandRenderer.default 0 .default _, by decide +kernel⟩

namespace Life

open Pipeline (Move)

structure Deserted (l : Life σ ρ) : Prop where
  gone : l.pipeline.queue.isServed = false
  empty : l.pipeline.queue.backlog = []
  free : l.pipeline.handover = none

theorem Deserted.step {l : Life σ ρ} (deserted : l.Deserted) (m : Move) :
    (l.step m).Deserted ∧ l.handing m = [] := by
  obtain ⟨gone, empty, free⟩ := id deserted
  cases m with
  | ask q =>
    refine ⟨?_, rfl⟩
    simp only [Life.step]
    split
    case isTrue => exact deserted
    case isFalse =>
      have same := Pipeline.askLost q (p := l.pipeline) (by simp [SerialQueue.accepts, gone])
      exact ⟨same ▸ gone, same ▸ empty, (l.pipeline.askHandover q).trans free⟩
  | compute =>
    refine ⟨?_, rfl⟩
    simp only [Life.step, Pipeline.computeIdle empty]
    exact ⟨gone, empty, free⟩
  | handOver crash heard =>
    simp only [Life.step, Life.handOver, handing, free, Option.any_none, Option.toList_none]
    exact ⟨⟨gone, empty, rfl⟩, trivial⟩
  | pickUp =>
    refine ⟨?_, rfl⟩
    simp only [Life.step, Pipeline.takeAnswer?]
    cases l.pipeline.answers <;> exact ⟨gone, empty, free⟩
  | letGo b => exact ⟨⟨gone, empty, free⟩, rfl⟩
  | close =>
    refine ⟨?_, rfl⟩
    simp only [Life.step]
    split <;> exact ⟨gone, empty, free⟩
  | shut =>
    refine ⟨?_, rfl⟩
    simp only [Life.step]
    split <;> exact ⟨gone, empty, free⟩

theorem Deserted.silent {l : Life σ ρ} (deserted : l.Deserted) (moves : List Move) :
    l.handed moves = [] := by
  induction moves generalizing l with
  | nil => rfl
  | cons m rest ih =>
    obtain ⟨later, nothing⟩ := deserted.step m
    change l.handing m ++ (l.step m).handed rest = []
    rw [nothing, ih later, List.nil_append]

end Life

open Life in
/-- The failure reaches the handler on the worker's thread, which ends. Whatever is done then,
nothing comes of the other request. -/
theorem raisedLosesRequest :
    let moves : List Pipeline.Move := [.ask (.display 0 0), .ask (.display 1 40), .compute,
      .handOver none []]
    (Request.each Request.due [] ((crashingFirst .inline).asked moves)).length = 2 ∧
      ¬(crashingFirst .inline).Settled moves ∧
      ∀ after, ((crashingFirst .inline).handed (moves ++ after)).length = 1 := by
  intro moves
  have due : (Request.each Request.due [] ((crashingFirst .inline).asked moves)).length = 2 := by
    decide +kernel
  have handed : ((crashingFirst .inline).handed moves).length = 1 := by decide +kernel
  have deserted : ((crashingFirst .inline).run moves).Deserted :=
    ⟨by decide +kernel, by decide +kernel, by decide +kernel⟩
  refine ⟨due, fun settled => ?_, fun after => ?_⟩
  · have paired := (settled.idle (by decide +kernel)).length_eq
    omega
  · rw [Life.handed, seenAppend, List.length_append]
    exact congrArg₂ (· + ·) handed (congrArg List.length (deserted.silent after))

end VideoPreview
