import VideoPreview.Proofs.Audience
import VideoPreview.Synthetic.Rehearsal

/-! Both trampolines deliver the same. The worker takes up the requests in their order and the
viewer gets what was handed over in its order, so that neither when the worker runs nor where the
main thread runs its tasks makes a difference to what the viewer hears. Only the failures of the
viewer come earlier or later among those of computations. -/
namespace VideoPreview.Session

inductive Round where
  | ask (q : Request)
  | work
  | main
  | pickUp (name : Option String)
  | share (name : String) (f : Frame)
  | discard (name : String)

variable {σ ρ τ : Type}

def Round.move : Round → Move σ ρ τ
  | ask q => .ask 0 q
  | work => .work 0
  | main => .main
  | pickUp name => .pickUp 0 name
  | share name f => .share name f
  | discard name => .discard name

def Round.request? : Round → Option Request
  | ask q => some q
  | _ => none

variable [FrameSource σ] [SubtitleRenderer ρ] [Viewer τ]

def openOnly (t : Trampoline) (handling : FailureHandling) (dispatch : DispatchOptions) (v : τ)
    (path : String) (source : σ) (renderer : ρ) (options : PipelineOptions) :
    Option (Session σ ρ τ) :=
  match start t handling dispatch with
  | .error _ => none
  | .ok s =>
    match (s.addViewer v).2.openPipeline path (.ok source) renderer 0 options with
    | (.done _, s) => some s
    | _ => none

def playOn (s : Session σ ρ τ) (rounds : List Round) : Session σ ρ τ :=
  s.run (rounds.map Round.move)

def finish (s : Session σ ρ τ) (closing : Bool) : Session σ ρ τ :=
  (if closing then s.close 0 else s.drain 0).pump.2

structure Busy (first : Worker σ ρ) (done waiting : List Request) (out : List Handover)
    (left : Nat) (p : Pipeline σ ρ) : Prop where
  follows : p.Follows first done waiting out
  within : p.remaining ≤ left

def Goes (t : Trampoline) (handling : FailureHandling) (v : τ) (first : Worker σ ρ)
    (done waiting : List Request) (left : Nat) (s : Session σ ρ τ) : Prop :=
  ∃ out, Shows (Busy first done waiting out left) t handling v out s ∧
    (t = .inline → s.pending = [])

variable {t : Trampoline} {handling : FailureHandling} {v : τ} {first : Worker σ ρ}
  {done waiting : List Request} {left : Nat}
  {s s' : Session σ ρ τ} {p : Pipeline σ ρ} {F : Pipeline σ ρ → Prop} {out : List Handover}

theorem busyReturns (p : Pipeline σ ρ) (b : Buffer) (busy : Busy first done waiting out left p) :
    Busy first done waiting out left (p.takeBack b) :=
  ⟨busy.follows.takeBack b, busy.within⟩

theorem Showing.goes {queue : List Handover} {ran : List (List Event)}
    (showing : Showing t handling v out queue ran s) (empty : t = .inline → s.pending = [])
    (behind : Behind (Busy first done waiting out left) s s') :
    Goes t handling v first done waiting left s' := by
  refine ⟨out, showing.shows behind, fun inline => ?_⟩
  rw [behind.only]
  exact empty inline

theorem workGoes (goes : Goes t handling v first done waiting left s) :
    ∃ done' waiting', done' ++ waiting' = done ++ waiting ∧
      Goes t handling v first done' waiting' (left - 1) (s.work 0) := by
  obtain ⟨out, ⟨queue, ran, showing, p, ⟨follows, within⟩, alone⟩, empty⟩ := goes
  unfold work
  rw [aloneFound showing.idle alone follows.id]
  cases held : p.handover with
  | some h =>
    have fewer : p.relieved.remaining ≤ left - 1 := by
      have one := Pipeline.relievedRemaining held
      omega
    have relieved : Behind (Busy first done waiting (out ++ [h]) (left - 1)) s (s.put p.relieved) :=
      putBehind showing.idle alone rfl ⟨follows.relieved held, fewer⟩
    obtain ⟨quiet, posted, still⟩ := postShows busyReturns (showing.shows relieved) empty h
    have task : s.handOver p h = ((s.put p.relieved).post (h.task 0)).2 := by
      unfold handOver
      rw [follows.viewer]
      split
      case h_1 same => rw [same]
      case h_2 same => cases quiet.symm.trans (congrArg Prod.fst same)
    simp only [held, task]
    exact ⟨done, waiting, rfl, out ++ [h], posted, still⟩
  | none =>
    obtain ⟨more, rest, rfl, next, fewer⟩ := follows.compute held
    have same : p.id = p.compute.1.id := follows.id.trans next.id.symm
    simp only [held]
    refine ⟨done ++ more, rest, List.append_assoc .., showing.goes empty ?_⟩
    refine ((putBehind showing.idle alone same ?_).note _).reclaim busyReturns showing.idle _ _
    exact ⟨next, by omega⟩

theorem roundGoes (goes : Goes t handling v first done waiting left s) (r : Round) :
    ∃ done' waiting' left', done' ++ waiting' = done ++ waiting ++ r.request?.toList ∧
      Goes t handling v first done' waiting' left' (s.step r.move) := by
  obtain ⟨out, ⟨queue, ran, showing, p, ⟨follows, within⟩, alone⟩, empty⟩ := goes
  have found := aloneFound showing.idle alone follows.id
  have still : Behind (Busy first done waiting out left) s s :=
    .refl ⟨p, ⟨follows, within⟩, alone⟩
  have quiet {s' : Session σ ρ τ}
      (behind : Behind (Busy first done waiting out left) s s') :
      ∃ done' waiting' left', done' ++ waiting' = done ++ waiting ++ [] ∧
        Goes t handling v first done' waiting' left' s' :=
    ⟨done, waiting, left, (List.append_nil _).symm, showing.goes empty behind⟩
  cases r with
  | ask q =>
    have opened : s.openPipeline? 0 = some p := by simp [openPipeline?, found, follows.isOpen]
    have asked := follows.ask q
    have behind : Behind (Busy first done (waiting ++ [q]) out (p.ask q).remaining) s (s.ask p q) :=
      askBehind showing.idle alone q (follows.id.trans asked.id.symm) ⟨asked, Nat.le_refl _⟩
    refine ⟨done, waiting ++ [q], (p.ask q).remaining, (List.append_assoc ..).symm, ?_⟩
    simp only [Round.move, step, opened, Option.elim]
    exact showing.goes empty behind
  | work =>
    obtain ⟨done', waiting', same, next⟩ := workGoes (showing.goes empty still)
    exact ⟨done', waiting', _, same.trans (List.append_nil _).symm, next⟩
  | main =>
    have turned := turnShows busyReturns (showing.shows still)
    refine ⟨done, waiting, left, (List.append_nil _).symm, out, turned, fun inline => ?_⟩
    simp [Round.move, step, turn, empty inline]
  | pickUp name =>
    simp only [Round.move, step, Session.pickUp, found, Option.bind_some]
    cases taken : p.takeAnswer? with
    | none => exact quiet still
    | some answered =>
      obtain ⟨a, p'⟩ := answered
      obtain ⟨followed, same⟩ := follows.takeAnswer taken
      have put : Behind (Busy first done waiting out left) s (s.put p') :=
        putBehind showing.idle alone (follows.id.trans followed.id.symm) ⟨followed, same ▸ within⟩
      cases a with
      | computed outcome => exact quiet (put.collect busyReturns showing.idle outcome name)
      | inspected counts pool => exact quiet put
  | share name f =>
    simp only [Round.move, step]
    split
    · exact quiet (still.keep busyReturns showing.idle name f)
    · exact quiet still
  | discard name => exact quiet (still.discard busyReturns showing.idle name)

theorem playOnGoes (goes : Goes t handling v first [] [] left s) (rounds : List Round) :
    ∃ done waiting left', done ++ waiting = rounds.filterMap Round.request? ∧
      Goes t handling v first done waiting left' (s.playOn rounds) := by
  induction rounds using List.reverseRecOn with
  | nil => exact ⟨[], [], left, rfl, goes⟩
  | append_singleton rounds r ih =>
    obtain ⟨done, waiting, left, made, goes⟩ := ih
    obtain ⟨done', waiting', left', same, next⟩ := roundGoes goes r
    have last : s.playOn (rounds ++ [r]) = (s.playOn rounds).step r.move := by
      simp [playOn, run]
    refine ⟨done', waiting', left', ?_, last ▸ next⟩
    rw [same, made, List.filterMap_append]
    cases r <;> rfl

theorem advanceGoes (goes : Goes t handling v first done waiting left s) (steps : Nat) :
    ∃ done' waiting', done' ++ waiting' = done ++ waiting ∧
      Goes t handling v first done' waiting' (left - steps) (Nat.repeat (advance 0) steps s) := by
  induction steps with
  | zero => exact ⟨done, waiting, rfl, goes⟩
  | succ steps ih =>
    obtain ⟨done', waiting', same, next⟩ := ih
    obtain ⟨out, ⟨queue, ran, showing, p, busy, alone⟩, empty⟩ := next
    have goesOn : advance 0 (Nat.repeat (advance 0) steps s) =
        (Nat.repeat (advance 0) steps s).work 0 := by
      have found := aloneFound showing.idle alone busy.follows.id
      simp [advance, found, isStopped, showing.running]
    obtain ⟨done'', waiting'', again, last⟩ :=
      workGoes ⟨out, ⟨queue, ran, showing, p, busy, alone⟩, empty⟩
    refine ⟨done'', waiting'', again.trans same, ?_⟩
    change Goes t handling v first done'' waiting'' _ (advance 0 (Nat.repeat (advance 0) steps s))
    rw [goesOn]
    exact last

theorem drainGoes (goes : Goes t handling v first done waiting left s) :
    ∃ done' waiting', done' ++ waiting' = done ++ waiting ∧
      Goes t handling v first done' waiting' 0 (s.drain 0) := by
  obtain ⟨out, ⟨queue, ran, showing, p, ⟨follows, within⟩, alone⟩, empty⟩ := goes
  have exactly : Goes t handling v first done waiting p.remaining s :=
    ⟨out, ⟨queue, ran, showing, p, ⟨follows, Nat.le_refl _⟩, alone⟩, empty⟩
  obtain ⟨done', waiting', same, next⟩ := advanceGoes exactly p.remaining
  rw [Nat.sub_self] at next
  unfold drain
  rw [aloneFound showing.idle alone follows.id]
  exact ⟨done', waiting', same, next⟩

theorem drainIdle (found : s.pipeline? 0 = some p) (idle : p.remaining = 0) : s.drain 0 = s := by
  simp [drain, found, idle, Nat.repeat]

theorem Busy.ended (busy : Busy first done waiting out 0 p) :
    waiting = [] ∧ out = first.handovers done := by
  obtain ⟨follows, within⟩ := busy
  obtain ⟨last, free⟩ := Pipeline.idleRests follows.backlog (Nat.le_zero.mp within)
  have handed := follows.handed
  rw [free, Option.toList_none, List.append_nil] at handed
  exact ⟨last, handed⟩

theorem drainShows (goes : Goes t handling v first done waiting left s) :
    Shows (fun _ => True) t handling v (first.handovers (done ++ waiting)) (s.drain 0) := by
  obtain ⟨done', waiting', same, out, ⟨queue, ran, showing, p, busy, alone⟩, -⟩ := drainGoes goes
  obtain ⟨rfl, rfl⟩ := busy.ended
  rw [← same, List.append_nil]
  exact ⟨queue, ran, showing, p, trivial, alone⟩

theorem closeShows (goes : Goes t handling v first done waiting left s) :
    Shows (fun _ => True) t handling v (first.handovers (done ++ waiting)) (s.close 0) := by
  have resumed : s.resume 0 = s.drain 0 := by
    obtain ⟨out, ⟨queue, ran, showing, -⟩, -⟩ := goes
    have running := showing.running
    cases s
    cases running
    rfl
  obtain ⟨done', waiting', same, out, ⟨queue, ran, showing, p, busy, alone⟩, -⟩ := drainGoes goes
  obtain ⟨rfl, rfl⟩ := busy.ended
  have follows := busy.follows
  have found := aloneFound showing.idle alone follows.id
  have opened : (s.drain 0).openPipeline? 0 = some p := by
    simp [openPipeline?, found, follows.isOpen]
  have withdrawn : (s.drain 0).withdraw 0 = s.drain 0 := by simp [withdraw, showing.idle]
  unfold close
  rw [resumed, opened, withdrawn]
  generalize s.drain 0 = s₁ at showing alone found ⊢
  have put : Behind (· = p.bump) s₁ (s₁.put p.bump) := putBehind showing.idle alone rfl rfl
  have bumped := put.note p.lossLog
  simp only
  generalize (s₁.put p.bump).note p.lossLog = s₂ at bumped ⊢
  obtain ⟨-, rfl, last⟩ := bumped.alone
  have idle := (showing.behind bumped).idle
  have here : s₂.pipeline? 0 = some p.bump := aloneFound idle last follows.id
  -- all was done before the last version was made, and the second drain finds nothing
  have nothing : p.bump.remaining = 0 := Nat.le_zero.mp busy.within
  simp only [drainIdle here nothing, here]
  have shut : Behind (fun _ => True) s₂ (s₂.put p.bump.shut) := putBehind idle last rfl trivial
  rw [← same, List.append_nil]
  exact showing.shows (bumped.trans (shut.note _))

theorem openGoes (gentle : handling.IsGentle) {dispatch : DispatchOptions} {path : String}
    {source : σ} {renderer : ρ} {options : PipelineOptions}
    (opened : openOnly t handling dispatch v path source renderer options = some s) :
    Goes t handling v (.start 0 source renderer (FrameSource.info source).frameCount options)
      [] [] 0 s := by
  unfold openOnly start at opened
  cases invalid : dispatch.fault? with
  | some e => simp [invalid] at opened
  | none =>
    simp only [invalid, openPipeline] at opened
    cases unfit : Pipeline.fault? path (FrameSource.info source) with
    | some e => simp [unfit] at opened
    | none =>
      simp only [unfit] at opened
      generalize queue : DispatchOptions.queueName _ _ = name at opened
      cases unnamed : SerialQueue.nameFault? name with
      | some payload => simp [unnamed] at opened
      | none =>
        simp only [unnamed] at opened
        cases opened
        refine ⟨[], ⟨[], [], ?_, _, ⟨Pipeline.startFollows .., Nat.le_refl _⟩, rfl⟩, fun _ => rfl⟩
        exact ⟨rfl, gentle, rfl, rfl, rfl, rfl, rfl, rfl, rfl, [], (ite_self _).symm, .nil⟩

theorem finishDelivers (gentle : handling.IsGentle) {dispatch : DispatchOptions} {path : String}
    {source : σ} {renderer : ρ} {options : PipelineOptions}
    (opened : openOnly t handling dispatch v path source renderer options = some s)
    (rounds : List Round) (closing : Bool) :
    let first := Worker.start 0 source renderer (FrameSource.info source).frameCount options
    let made := rounds.filterMap Round.request?
    let s' := (s.playOn rounds).finish closing
    s'.heard = (Viewer.hearing v (first.deliveries made)).map (0, ·) ∧
      ∃ told, s'.failures = (if handling.keeps then told else []) ∧
        Interleaved (first.surfaced made) (Viewer.crashes v (first.deliveries made)) told := by
  intro first made s'
  obtain ⟨done, waiting, left, same, goes⟩ := playOnGoes (openGoes gentle opened) rounds
  have ended : Shows (fun _ => True) t handling v (first.handovers made)
      (if closing then (s.playOn rounds).close 0 else (s.playOn rounds).drain 0) := by
    rw [show made = done ++ waiting from same.symm]
    cases closing with
    | true => exact closeShows goes
    | false => exact drainShows goes
  obtain ⟨last, empty⟩ := pumpKeeps (P := Shows _ t handling v _)
    (fun _ => turnShows fun _ _ _ => trivial) ended
  obtain ⟨queue, ran, showing, -⟩ := ended
  exact last.all (empty (showing.handled ▸ gentle))

/-- Two sessions have shown the same. Their failures are the same too, though those of the viewer
may stand in other places among those of computations. -/
structure Agree (handling : FailureHandling) (first : Worker σ ρ) (made : List Request)
    (a b : Session σ ρ τ) : Prop where
  heard : a.heard = b.heard
  failures : a.failures.Perm b.failures
  computations : handling.keeps = true → ∃ crashed,
    Interleaved (first.surfaced made) crashed a.failures ∧
      Interleaved (first.surfaced made) crashed b.failures

theorem trampolinesAgree {handling : FailureHandling} (gentle : handling.IsGentle)
    {dispatch dispatch' : DispatchOptions} {path : String} {source : σ} {renderer : ρ}
    {options : PipelineOptions} {pumped inlined : Session σ ρ τ}
    (pump : openOnly .pump handling dispatch v path source renderer options = some pumped)
    (inline : openOnly .inline handling dispatch' v path source renderer options = some inlined)
    {rounds rounds' : List Round}
    (same : rounds.filterMap Round.request? = rounds'.filterMap Round.request?)
    (closing closing' : Bool) :
    Agree handling (.start 0 source renderer (FrameSource.info source).frameCount options)
      (rounds.filterMap Round.request?)
      ((pumped.playOn rounds).finish closing) ((inlined.playOn rounds').finish closing') := by
  obtain ⟨heard, told, kept, order⟩ := finishDelivers gentle pump rounds closing
  obtain ⟨heard', told', kept', order'⟩ := finishDelivers gentle inline rounds' closing'
  rw [← same] at heard' order'
  refine ⟨heard.trans heard'.symm, ?_, fun keeps => ?_⟩
  · rw [kept, kept']
    cases handling.keeps with
    | true => exact order.perm.trans order'.perm.symm
    | false => exact .refl _
  · rw [if_pos keeps] at kept kept'
    exact ⟨_, kept ▸ order, kept' ▸ order'⟩

structure PickyStream where
  stream : SyntheticStream
  refused : String

instance : FrameSource PickyStream where
  info s := FrameSource.info s.stream
  colorSpace s := FrameSource.colorSpace s.stream
  setColorSpace matrix s :=
    if matrix = s.refused then (some (.text s!"no matrix {matrix}"), s)
    else (none, { s with stream := (FrameSource.setColorSpace matrix s.stream).2 })
  decode n s :=
    let (outcome, stream) := FrameSource.decode n s.stream
    (outcome, { s with stream })

theorem trampolinesAgreeOnCrashes :
    let video : SyntheticVideo :=
      { SyntheticVideo.default with width := 1, height := 1, crashing := [2] }
    let source : PickyStream := ⟨⟨video, "TV.601"⟩, "TV.709"⟩
    let opening (t : Trampoline) : Option (Session PickyStream BandRenderer FragileViewer) :=
      openOnly t .record .singleThreaded (.start .keepNothing [1]) "a.mkv" source .default .default
    let asked : List Request :=
      [.display 1 40, .recolor "TV.709", .display 2 80, .display 3 120]
    let rounds : List Round := asked.map .ask
    let rounds' : List Round := asked.flatMap fun q => [.ask q, .work, .work]
    FailureHandling.record.IsGentle ∧
    ∃ pumped inlined, opening .pump = some pumped ∧ opening .inline = some inlined ∧
      rounds.filterMap Round.request? = rounds'.filterMap Round.request? ∧
      let a := (pumped.playOn rounds).finish true
      let b := (inlined.playOn rounds').finish true
      a.heard.length = 2 ∧ a.failures.length = 3 ∧ a.failures = b.failures.rotate 1 ∧
        Agree .record (.start 0 source .default 100 .default) asked a b := by
  intro video source opening asked rounds rounds'
  have pump : opening .pump = some _ := rfl
  have inline : opening .inline = some _ := rfl
  have same : rounds.filterMap Round.request? = rounds'.filterMap Round.request? := rfl
  refine ⟨.record, _, _, pump, inline, same, ?_, ?_, ?_, ?_⟩
  · decide +kernel
  · decide +kernel
  · decide +kernel
  · exact trampolinesAgree .record pump inline same true true

end VideoPreview.Session
