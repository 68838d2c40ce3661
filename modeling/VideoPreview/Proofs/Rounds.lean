import VideoPreview.Proofs.Turns

/-! Sessions that go on. Those who ask a pipeline for something, the workers, the main thread,
callers that keep frames and viewers that hold them take turns in any order, and every one of them
may let go of a frame at any time. -/
namespace VideoPreview

def Account.fresh (options : PoolOptions) : Account := ⟨.empty options, 0, 0, 0⟩

namespace Session

inductive Move (σ ρ τ : Type) where
  | addViewer (v : τ)
  | openPipeline (path : String) (stream : Except SourceError σ) (renderer : ρ) (viewer : Nat)
      (options : PipelineOptions)
  | ask (id : Nat) (q : Request)
  | work (id : Nat)
  | main
  | pickUp (id : Nat) (name : Option String)
  | share (name : String) (f : Frame)
  | discard (name : String)
  | rearrange (viewer : Nat) (v : τ)
  | retire (id : Nat)
  | shut (id : Nat)

variable {σ ρ τ : Type}

def ask (s : Session σ ρ τ) (p : Pipeline σ ρ) : Request → Session σ ρ τ
  | .display n t => s.request p n t
  | .rescript script => s.updateSubtitles p script
  | .recolor matrix => s.setColorSpace p matrix
  | .fetch n t withSubtitles => (s.put (p.requestFetch n t withSubtitles)).note p.lossLog
  | .inspect => (s.put p.requestInspection).note p.lossLog

section

variable [Viewer τ]

def pickUp (s : Session σ ρ τ) (id : Nat) (name : Option String) : Session σ ρ τ :=
  match (s.pipeline? id).bind Pipeline.takeAnswer? with
  | some (.computed outcome, p) => ((s.put p).collect outcome name).2
  | some (.inspected _ _, p) => s.put p
  | none => s

def rearrange (s : Session σ ρ τ) (viewer : Nat) (v : τ) : Session σ ρ τ :=
  match s.viewers[viewer]? with
  | some before =>
    { s with viewers := s.viewers.set viewer v }.reclaim (Viewer.frames before) []
  | none => s

def shut (s : Session σ ρ τ) (p : Pipeline σ ρ) : Session σ ρ τ := (s.put p.shut).note p.shutLog

variable [FrameSource σ] [SubtitleRenderer ρ]

def step (s : Session σ ρ τ) : Move σ ρ τ → Session σ ρ τ
  | .addViewer v => if Viewer.frames v ⊆ s.frames then (s.addViewer v).2 else s
  | .openPipeline path stream renderer viewer options =>
    (s.openPipeline path stream renderer viewer options).2
  | .ask id q => (s.openPipeline? id).elim s (s.ask · q)
  | .work id => s.work id
  | .main => s.turn
  | .pickUp id name => s.pickUp id name
  | .share name f => if f ∈ s.frames then s.keep name f else s
  | .discard name => s.discard name
  | .rearrange viewer v => if Viewer.frames v ⊆ s.frames then s.rearrange viewer v else s
  | .retire id => (s.openPipeline? id).elim s (s.put ·.bump)
  | .shut id => ((s.openPipeline? id).filter (·.remaining = 0)).elim s s.shut

def run (s : Session σ ρ τ) (moves : List (Move σ ρ τ)) : Session σ ρ τ := play step s moves

end

section

variable [Viewer τ]

inductive Effect (s s' : Session σ ρ τ) : Prop where
  | settles (released : Released s s' s.frames s'.frames)
  | opens (options : PoolOptions) (numbered : s'.Numbered)
      (made : s'.pipelinesMade = s.pipelinesMade + 1)
      (new : s'.account? s.pipelinesMade = some (.fresh options))
      (others : ∀ id, id ≠ s.pipelinesMade → s'.account? id = s.account? id)
      (frames : ∀ f, f ∈ s'.frames ↔ f ∈ s.frames)
  | shuts (id : Nat) (numbered : s'.Numbered) (made : s'.pipelinesMade = s.pipelinesMade)
      (gone : s'.account? id = none)
      (others : ∀ i, i ≠ id → s'.account? i = s.account? i)
      (fewer : s'.frames ⊆ s.frames)
      (kept : ∀ f ∈ s.frames, f.id.pipeline ≠ id → f ∈ s'.frames)
  | computes {p p' : Pipeline σ ρ} {shown : List Frame} (found : s.pipeline? p'.id = some p)
      (opened : p'.isOpen = p.isOpen) (drawn : p.worker.Drawn p'.worker shown)
      (given : shown ⊆ s'.frames) (released : Released (s.put p') s' (shown ++ s.frames) s'.frames)
      (kept : p'.worker.frames = p.worker.frames → s.frames ⊆ s'.frames)

variable {s : Session σ ρ τ}

theorem Effect.nothing (numbered : s.Numbered) : Effect s s :=
  .settles (.same numbered (.refl s) fun _ => Iff.rfl)

theorem Effect.numbered {s' : Session σ ρ τ} (effect : Effect s s') : s'.Numbered := by
  cases effect with
  | settles released => exact released.numbered
  | opens options numbered => exact numbered
  | shuts id numbered => exact numbered
  | computes found opened drawn given released => exact released.numbered

theorem Effect.also {s' s'' : Session σ ρ τ} (effect : Effect s s') (numbered : s''.Numbered)
    (like : s'.Like s'') (frames : ∀ f, f ∈ s''.frames ↔ f ∈ s'.frames) : Effect s s'' := by
  have released {s₁ : Session σ ρ τ} {before : List Frame}
      (released : Released s₁ s' before s'.frames) : Released s₁ s'' before s''.frames := by
    obtain ⟨-, made, fewer, account⟩ := released.congr (fun _ => Iff.rfl) frames
    exact ⟨numbered, like.made.trans made, fewer, fun id => like.account id ▸ account id⟩
  have more {had : List Frame} (fewer : had ⊆ s'.frames) : had ⊆ s''.frames :=
    fun f held => (frames f).mpr (fewer held)
  cases effect with
  | settles settled => exact .settles (released settled)
  | opens options n made new others same =>
    exact .opens options numbered (like.made.trans made) (like.account _ ▸ new)
      (fun id => like.account id ▸ others id) fun f => (frames f).trans (same f)
  | shuts id n same gone others fewer kept =>
    exact .shuts id numbered (like.made.trans same) (like.account id ▸ gone)
      (fun i => like.account i ▸ others i) (fun f held => fewer ((frames f).mp held))
      fun f held own => (frames f).mpr (kept f held own)
  | computes found opened drawn given settled kept =>
    exact .computes found opened drawn (more given) (released settled) fun same => more (kept same)

theorem Effect.like {s' s'' : Session σ ρ τ} (effect : Effect s s')
    (pipelines : s''.pipelines = s'.pipelines) (made : s''.pipelinesMade = s'.pipelinesMade)
    (frames : s''.frames = s'.frames) : Effect s s'' := by
  obtain ⟨once, below, own⟩ := effect.numbered
  refine effect.also ⟨pipelines ▸ once, pipelines ▸ made ▸ below, pipelines ▸ own⟩
    ⟨made, fun id => ?_⟩ fun f => by rw [frames]
  rw [account?, pipeline?, pipelines]
  rfl

theorem Effect.noted {s' : Session σ ρ τ} (effect : Effect s s') (entries : List LogEntry) :
    Effect s (s'.note entries) := effect.like rfl rfl rfl

theorem Effect.handled {s' : Session σ ρ τ} (effect : Effect s s') (failure : Failure) :
    Effect s (s'.handle failure) := by
  unfold handle
  split <;> exact effect.like rfl rfl rfl

theorem Effect.surfaced {s' : Session σ ρ τ} (effect : Effect s s') (failure : Failure) :
    Effect s (s'.post (.handle failure)).2 := by
  cases mode : s'.trampoline with
  | pump =>
    rw [postPumped mode]
    exact effect.like rfl rfl (by simp [push, frames, pipelines, MainTask.frames])
  | inline =>
    rw [postInline mode, runInlineQuiet rfl]
    exact effect.handled failure

theorem Effect.deserted {s' : Session σ ρ τ} (effect : Effect s s') (id : Nat) :
    Effect s (s'.desert id) := by
  unfold desert
  cases found : s'.pipeline? id with
  | none => exact effect
  | some p =>
    obtain ⟨member, rfl⟩ := pipelineFound found
    have numbered := effect.numbered
    have own : p.desert.Own := ⟨(numbered.own p member).worker, (numbered.own p member).frames⟩
    have here : s'.pipeline? p.desert.id = some p := found
    refine effect.also (numbered.put here own) (putLike here rfl) fun f => ?_
    rw [framesPut numbered here own, framesBeside numbered found]
    rfl

theorem Effect.unwound {s' : Session σ ρ τ} (effect : Effect s s') (id : Nat) (payload : Payload)
    (h : Handover) : Effect s (s'.unwind id payload h) := by
  cases h with
  | surface failure => exact effect.deserted id
  | deliver events =>
    have noted := effect.noted [.surfacing Worker.queueLabel (Failure.ofPanic payload).message]
    have surfaced := noted.surfaced (.ofPanic payload)
    simp only [unwind]
    split
    case h_1 s₁ same =>
      rw [same] at surfaced
      exact surfaced
    case h_2 again s₁ same =>
      rw [same] at surfaced
      exact surfaced.deserted id

theorem putEffect (numbered : s.Numbered) {p q : Pipeline σ ρ} (found : s.pipeline? p.id = some q)
    (worker : p.worker.pipeline = p.id) (account : p.account? = q.account?)
    (frames : ∀ f, f ∈ p.frames ↔ f ∈ q.frames) : Effect s (s.put p) := by
  obtain ⟨member, same⟩ := pipelineFound found
  have own : p.Own := ⟨worker, fun f held =>
    ((numbered.own q member).frames f ((frames f).mp held)).trans same⟩
  refine .settles (.same (numbered.put found own) (putLike found account) fun f => ?_)
  rw [framesPut numbered found own, framesBeside numbered found, frames]

theorem askEffect (numbered : s.Numbered) {p : Pipeline σ ρ} (found : s.pipeline? p.id = some p)
    (q : Request) : Effect s (s.ask p q) := by
  obtain ⟨member, -⟩ := pipelineFound found
  have frames : (p.ask q).frames = p.frames := by cases q <;> rfl
  have asked : Effect s (s.put (p.ask q)) := by
    refine putEffect numbered (by simpa using found) ?_ ?_ fun f => by rw [frames]
    · simpa using (numbered.own p member).worker
    · simp [Pipeline.account?]
  cases q <;> exact asked.noted _

omit [Viewer τ] in
theorem openFound {id : Nat} {p : Pipeline σ ρ} (found : s.openPipeline? id = some p) :
    s.pipeline? id = some p ∧ p.isOpen = true ∧ p.id = id := by
  obtain ⟨found, opened⟩ := Option.filter_eq_some_iff.mp found
  exact ⟨found, opened, (pipelineFound found).2⟩

theorem retireEffect (numbered : s.Numbered) {p : Pipeline σ ρ}
    (found : s.pipeline? p.id = some p) : Effect s (s.put p.bump) :=
  putEffect (p := p.bump) numbered found (numbered.own p (pipelineFound found).1).worker rfl
    fun _ => Iff.rfl

theorem shutEffect (numbered : s.Numbered) {p : Pipeline σ ρ}
    (found : s.pipeline? p.id = some p) : Effect s (s.shut p) := by
  obtain ⟨member, -⟩ := pipelineFound found
  have fewer : ∀ f ∈ p.shut.frames, f ∈ p.frames := by
    intro f held
    simp only [Pipeline.frames, Pipeline.shut, Worker.frames, Option.map_none, Option.toList_none,
      List.nil_append, List.append_assoc] at held ⊢
    exact List.mem_append_right _ held
  have own : p.shut.Own :=
    ⟨(numbered.own p member).worker, fun f held => (numbered.own p member).frames f (fewer f held)⟩
  have here : s.pipeline? p.shut.id = some p := found
  have shut : Effect s (s.put p.shut) := by
    refine .shuts p.id (numbered.put here own) rfl ?_ (fun i other => ?_) (fun f => ?_) fun f => ?_
    · exact (accountPut here p.id).trans (if_pos rfl)
    · exact (accountPut here i).trans (if_neg other)
    · rw [framesPut numbered here own, framesBeside numbered found]
      exact Or.imp_left (fewer f)
    · rw [framesPut numbered here own, framesBeside numbered found]
      rintro (held | held) other
      · exact absurd ((numbered.own p member).frames f held) other
      · exact .inr held
  exact shut.noted _

theorem addViewerEffect (numbered : s.Numbered) {v : τ} (given : Viewer.frames v ⊆ s.frames) :
    Effect s (s.addViewer v).2 := by
  have same : (s.addViewer v).2.Numbered := ⟨numbered.once, numbered.made, numbered.own⟩
  refine .settles (.same same ⟨rfl, fun _ => rfl⟩ fun f => ?_)
  have split : f ∈ (s.addViewer v).2.frames ↔ f ∈ s.frames ∨ f ∈ Viewer.frames v := by
    simp only [addViewer, frames, pipelines, List.flatMap_append, List.flatMap_singleton,
      List.mem_append]
    grind
  rw [split]
  exact ⟨fun h => h.elim id (given ·), .inl⟩

theorem reclaimEffect {s₁ : Session σ ρ τ} {released : List Frame} (numbered : s₁.Numbered)
    (like : s.Like s₁) (fewer : s₁.frames ⊆ s.frames)
    (given : released ⊆ s.frames) (all : ∀ f ∈ s.frames, f ∈ s₁.frames ∨ f ∈ released) :
    Effect s (s₁.reclaim released []) := by
  have frames := (reclaimReturned numbered released []).frames
  rw [← frames] at fewer all
  have reclaimed := reclaimReleased numbered released [] (by simp [frames]) fewer given all
  exact .settles (reclaimed.since like)

omit [Viewer τ] in
theorem keptByName (kept : List (String × Frame)) (name : String) (f : Frame) :
    f ∈ kept.map Prod.snd ↔ f ∈ (kept.filter (·.1 ≠ name)).map Prod.snd ∨
      f ∈ (kept.filter (·.1 = name)).map Prod.snd := by
  rw [← List.mem_append, ← List.map_append]
  have split := List.filter_append_perm (fun entry : String × Frame => decide (entry.1 ≠ name)) kept
  simp only [ne_eq, decide_not, Bool.not_not] at split ⊢
  exact (split.map Prod.snd).mem_iff.symm

theorem rekeepEffect {s₁ : Session σ ρ τ} (numbered : s₁.Numbered)
    (like : s.Like s₁) (name : String) (more : List (String × Frame)) (fewer : s₁.frames ⊆ s.frames)
    (given : more.map Prod.snd ⊆ s.frames)
    (all : ∀ f ∈ s.frames, f ∈ s₁.frames ∨ f ∈ more.map Prod.snd) :
    Effect s (({ s₁ with kept := more ++ s₁.kept.filter (·.1 ≠ name) } : Session σ ρ τ).reclaim
      ((s₁.kept.filter (·.1 = name)).map Prod.snd) []) := by
  have split (kept : List (String × Frame)) (f : Frame) :
      f ∈ ({ s₁ with kept } : Session σ ρ τ).frames ↔
        f ∈ ({ s₁ with kept := [] } : Session σ ρ τ).frames ∨ f ∈ kept.map Prod.snd := by
    simp only [frames, pipelines, List.mem_append, List.map_nil, List.not_mem_nil, or_false]
  have whole := split s₁.kept
  have byName := keptByName s₁.kept name
  refine reclaimEffect ⟨numbered.once, numbered.made, numbered.own⟩ ⟨like.made, like.account⟩
    ?_ ?_ ?_
  · intro f held
    rcases (split _ f).mp held with held | held
    · exact fewer ((whole f).mpr (.inl held))
    · rw [List.map_append, List.mem_append] at held
      rcases held with held | held
      · exact given held
      · exact fewer ((whole f).mpr (.inr ((byName f).mpr (.inl held))))
  · intro f held
    exact fewer ((whole f).mpr (.inr ((byName f).mpr (.inr held))))
  · intro f held
    rw [split, List.map_append, List.mem_append]
    rcases all f held with held | held
    · rcases (whole f).mp held with held | held
      · exact .inl (.inl held)
      · exact ((byName f).mp held).imp_left fun h => .inr (.inr h)
    · exact .inl (.inr (.inl held))

theorem keepEffect (numbered : s.Numbered) (name : String) {f : Frame} (held : f ∈ s.frames) :
    Effect s (s.keep name f) :=
  rekeepEffect numbered (.refl s) name [(name, f)] (List.Subset.refl _) (by simpa using held)
    fun _ h => .inl h

theorem discardEffect (numbered : s.Numbered) (name : String) : Effect s (s.discard name) :=
  rekeepEffect numbered (.refl s) name [] (List.Subset.refl _) (List.nil_subset _)
    fun _ h => .inl h

omit [Viewer τ] in
theorem viewersSplit {viewer : Nat} {v : τ} (here : s.viewers[viewer]? = some v) :
    ∃ before after, s.viewers = before ++ v :: after ∧
      ∀ v', s.viewers.set viewer v' = before ++ v' :: after := by
  obtain ⟨inside, rfl⟩ := List.getElem?_eq_some_iff.mp here
  refine ⟨s.viewers.take viewer, s.viewers.drop (viewer + 1), ?_, fun v' => ?_⟩
  · simp
  · exact List.set_eq_take_append_cons_drop ▸ if_pos inside

theorem framesViewers (s : Session σ ρ τ) (viewers : List τ) (f : Frame) :
    f ∈ ({ s with viewers } : Session σ ρ τ).frames ↔
      f ∈ ({ s with viewers := [] } : Session σ ρ τ).frames ∨
        f ∈ viewers.flatMap Viewer.frames := by
  simp only [frames, pipelines, List.mem_append, List.flatMap_nil, List.not_mem_nil, or_false]
  grind

theorem framesSet {viewer : Nat} {v : τ} (here : s.viewers[viewer]? = some v) (v' : τ) (f : Frame) :
    (f ∈ ({ s with viewers := s.viewers.set viewer v' } : Session σ ρ τ).frames →
        f ∈ s.frames ∨ f ∈ Viewer.frames v') ∧
      (f ∈ s.frames → f ∈ ({ s with viewers := s.viewers.set viewer v' } : Session σ ρ τ).frames ∨
        f ∈ Viewer.frames v) ∧
      (f ∈ Viewer.frames v → f ∈ s.frames) := by
  obtain ⟨left, right, whole, swapped⟩ := viewersSplit here
  have was := framesViewers s s.viewers f
  rw [framesViewers, swapped, was, whole]
  simp only [List.flatMap_append, List.flatMap_cons, List.mem_append]
  grind

theorem rearrangeEffect (numbered : s.Numbered) (viewer : Nat) {v : τ}
    (given : Viewer.frames v ⊆ s.frames) : Effect s (s.rearrange viewer v) := by
  unfold rearrange
  cases here : s.viewers[viewer]? with
  | none => exact .nothing numbered
  | some before =>
    refine reclaimEffect ⟨numbered.once, numbered.made, numbered.own⟩ ⟨rfl, fun _ => rfl⟩ ?_ ?_ ?_
    · intro f held
      exact ((framesSet here v f).1 held).elim id (given ·)
    · intro f held
      exact (framesSet here v f).2.2 held
    · intro f held
      exact (framesSet here v f).2.1 held

theorem takeAnswerFrames (numbered : s.Numbered) {p p' : Pipeline σ ρ} {a : JobAnswer}
    (found : s.pipeline? p.id = some p) (taken : p.takeAnswer? = some (a, p')) :
    s.pipeline? p'.id = some p ∧ p'.Own ∧ p'.account? = p.account? ∧
      ∀ f, f ∈ s.frames ↔ f ∈ (s.put p').frames ∨ f ∈ a.frames := by
  obtain ⟨member, -⟩ := pipelineFound found
  obtain ⟨worker, frames⟩ := numbered.own p member
  unfold Pipeline.takeAnswer? at taken
  cases answers : p.answers with
  | nil => simp [answers] at taken
  | cons b rest =>
    simp only [answers, Option.some.injEq, Prod.mk.injEq] at taken
    obtain ⟨rfl, rfl⟩ := taken
    have split (f : Frame) : f ∈ p.frames ↔
        f ∈ ({ p with answers := rest } : Pipeline σ ρ).frames ∨ f ∈ b.frames := by
      simp only [Pipeline.frames, answers, List.mem_append, List.mem_filterMap, List.mem_cons,
        JobAnswer.frames, Option.mem_toList, exists_eq_or_imp, or_assoc]
      exact or_congr_right (or_congr_right or_comm)
    have own : ({ p with answers := rest } : Pipeline σ ρ).Own :=
      ⟨worker, fun f held => frames f ((split f).mpr (.inl held))⟩
    refine ⟨found, own, rfl, fun f => ?_⟩
    rw [framesPut (p := { p with answers := rest }) numbered found own,
      framesBeside numbered found, split]
    exact or_right_comm

theorem answeredEffect {s₁ : Session σ ρ τ} {a : JobAnswer} (numbered : s₁.Numbered)
    (like : s.Like s₁) (none : a.frames = [])
    (frames : ∀ f, f ∈ s.frames ↔ f ∈ s₁.frames ∨ f ∈ a.frames) : Effect s s₁ :=
  .settles (.same numbered like fun f => by simp [frames, none])

theorem collectEffect {s₁ : Session σ ρ τ} (numbered : s₁.Numbered)
    (like : s.Like s₁) {outcome : Attempt SourceError Rendered}
    (frames : ∀ f, f ∈ s.frames ↔ f ∈ s₁.frames ∨ f ∈ (JobAnswer.computed outcome).frames)
    (name : Option String) : Effect s (s₁.collect outcome name).2 := by
  have fewer : s₁.frames ⊆ s.frames := fun f held => (frames f).mpr (.inl held)
  have given : (JobAnswer.computed outcome).frames ⊆ s.frames :=
    fun f held => (frames f).mpr (.inr held)
  have all : ∀ f ∈ s.frames, f ∈ s₁.frames ∨ f ∈ (JobAnswer.computed outcome).frames :=
    fun f held => (frames f).mp held
  cases outcome with
  | done rendered =>
    obtain ⟨frame, fault⟩ := rendered
    cases fault with
    | some fault => exact reclaimEffect numbered like fewer given all
    | none =>
      cases name with
      | none => exact reclaimEffect numbered like fewer given all
      | some name => exact rekeepEffect numbered like name [(name, frame)] fewer given all
  | refused e => exact answeredEffect numbered like rfl frames
  | panicked payload => exact answeredEffect numbered like rfl frames

theorem pickUpEffect (numbered : s.Numbered) (id : Nat) (name : Option String) :
    Effect s (s.pickUp id name) := by
  unfold pickUp
  cases found : s.pipeline? id with
  | none => exact .nothing numbered
  | some p =>
    obtain ⟨member, rfl⟩ := pipelineFound found
    simp only [Option.bind_some]
    cases taken : p.takeAnswer? with
    | none => exact .nothing numbered
    | some answered =>
      obtain ⟨a, p'⟩ := answered
      obtain ⟨here, own, account, frames⟩ := takeAnswerFrames numbered found taken
      have numbered := numbered.put here own
      have like := putLike here account
      cases a with
      | computed outcome => exact collectEffect numbered like frames name
      | inspected counts pool => exact answeredEffect numbered like rfl frames

/-! ### The main thread -/

theorem receiveFrames (s : Session σ ρ τ) (viewer : Nat) (events : List Event) :
    let s₁ := (receive viewer events s).1
    s₁.pipelines = s.pipelines ∧ s₁.pipelinesMade = s.pipelinesMade ∧
      s₁.frames ⊆ s.frames ++ events.filterMap Event.frame? ∧
      s.viewerFrames viewer ⊆ s.frames ∧ s.frames ⊆ s₁.frames ++ s.viewerFrames viewer := by
  cases here : s.viewers[viewer]? with
  | none =>
    rw [receiveMissing here]
    exact ⟨rfl, rfl, List.subset_append_left .., by simp [viewerFrames, here],
      List.subset_append_left ..⟩
  | some v =>
    have own : s.viewerFrames viewer = Viewer.frames v := by simp [viewerFrames, here]
    rw [receiveTaken here, own]
    have set := framesSet here (Viewer.takeIn v events).state
    refine ⟨rfl, rfl, fun f held => ?_, fun f => (set f).2.2, fun f held => ?_⟩
    · rcases (set f).1 held with before | taken
      · exact List.mem_append_left _ before
      · rcases Viewer.takesGiven v events f taken with before | given
        · exact List.mem_append_left _ ((set f).2.2 before)
        · exact List.mem_append_right _ given
    · exact List.mem_append.mpr ((set f).2.1 held)

theorem runTaskReleased (numbered : s.Numbered) (task : MainTask) (waiting : List MainTask) :
    let turn := runTask task waiting s
    Released s turn.state (s.frames ++ task.frames ++ waiting.flatMap MainTask.frames)
      (turn.state.frames ++ waiting.flatMap MainTask.frames) := by
  cases task with
  | handle failure =>
    simp only [runTask, MainTask.frames, List.append_nil]
    unfold handle
    split
    case h_1 => exact .note (.same numbered (.refl s) fun _ => Iff.rfl) _
    case h_2 =>
      exact .same ⟨numbered.once, numbered.made, numbered.own⟩ ⟨rfl, fun _ => rfl⟩ fun _ => Iff.rfl
  | deliver viewer events =>
    obtain ⟨pipelines, made, fewer, given, all⟩ := receiveFrames s viewer events
    simp only [runTask, MainTask.frames]
    generalize receive viewer events s = received at pipelines made fewer all ⊢
    obtain ⟨s₁, panic⟩ := received
    have numbered : s₁.Numbered := by
      obtain ⟨once, below, own⟩ := numbered
      exact ⟨pipelines ▸ once, pipelines ▸ made ▸ below, pipelines ▸ own⟩
    have like : s.Like s₁ := by
      refine ⟨made, fun id => ?_⟩
      rw [account?, pipeline?, pipelines]
      rfl
    generalize lost : events.filterMap Event.frame? ++ s.viewerFrames viewer = released
    have reclaimed := reclaimReturned numbered released waiting
    have freed : Released s (s₁.reclaim released waiting)
        (s.frames ++ events.filterMap Event.frame? ++ waiting.flatMap MainTask.frames)
        ((s₁.reclaim released waiting).frames ++ waiting.flatMap MainTask.frames) := by
      rw [reclaimed.frames]
      refine (reclaimReleased numbered released waiting (fun _ => Iff.rfl) ?_ ?_ ?_).since like
      · exact List.append_subset.mpr ⟨fun f held => List.mem_append_left _ (fewer held),
          List.subset_append_right ..⟩
      · intro f held
        rw [← lost] at held
        refine List.mem_append_left _ ((List.mem_append.mp held).elim ?_ ?_)
        · exact List.mem_append_right _
        · exact fun own => List.mem_append_left _ (given own)
      · intro f held
        have still := @all f
        simp only [← lost, List.mem_append] at held still ⊢
        grind
    cases panic with
    | none => exact freed
    | some payload => exact freed.note _

theorem framesPending (s : Session σ ρ τ) (pending : List MainTask) (f : Frame) :
    f ∈ ({ s with pending } : Session σ ρ τ).frames ↔
      f ∈ ({ s with pending := [] } : Session σ ρ τ).frames ∨
        f ∈ pending.flatMap MainTask.frames := by
  simp only [frames, pipelines, List.mem_append, List.flatMap_nil, List.not_mem_nil, or_false]
  grind

theorem turnEffect (numbered : s.Numbered) : Effect s s.turn := by
  unfold turn
  cases pending : s.pending with
  | nil => exact .nothing numbered
  | cons task rest =>
    have empty := (runTaskKeeps task rest { s with pending := [] }).1
    have released := runTaskReleased (s := { s with pending := [] })
      ⟨numbered.once, numbered.made, numbered.own⟩ task rest
    have posted := runTaskPosts task rest { s with pending := [] }
    simp only
    generalize runTask task rest { s with pending := [] } = t at empty released posted ⊢
    have none : t.posted.flatMap MainTask.frames = [] := by
      rcases posted with posted | ⟨failure, posted, -⟩ <;> rw [posted] <;> rfl
    have was (f : Frame) : f ∈ s.frames ↔ f ∈ ({ s with pending := [] } : Session σ ρ τ).frames ∨
        f ∈ task.frames ++ rest.flatMap MainTask.frames :=
      (framesPending s s.pending f).trans (by rw [pending]; rfl)
    have left (f : Frame) : f ∈ t.state.frames ↔
        f ∈ ({ t.state with pending := [] } : Session σ ρ τ).frames :=
      (framesPending t.state t.state.pending f).trans (by simp [empty])
    have settled : Released { s with pending := [] } t.state s.frames
        ({ t.state with pending := rest ++ t.posted } : Session σ ρ τ).frames := by
      refine released.congr (fun f => ?_) fun f => ?_
      · rw [was, List.append_assoc, ← List.mem_append]
      · rw [framesPending t.state (rest ++ t.posted), List.flatMap_append, none, List.append_nil,
          List.mem_append, left]
    exact .settles ⟨⟨settled.numbered.once, settled.numbered.made, settled.numbered.own⟩,
      settled.made, settled.fewer, settled.account⟩

theorem startedEffect {s' : Session σ ρ τ} (numbered : s.Numbered) {p : Pipeline σ ρ}
    (options : PoolOptions) (id : p.id = s.pipelinesMade) (worker : p.worker.pipeline = p.id)
    (bare : p.frames = []) (account : p.account? = some (.fresh options))
    (pipelines : s'.pipelines = s.pipelines ++ [p])
    (made : s'.pipelinesMade = s.pipelinesMade + 1) (others : s'.elsewhere = s.elsewhere) :
    Effect s s' := by
  have new : ∀ q ∈ s.pipelines, q.id ≠ p.id := by
    intro q member
    have below := numbered.made q member
    omega
  have either : ∀ q ∈ s'.pipelines, q ∈ s.pipelines ∨ q = p := by
    intro q member
    simpa [pipelines] using member
  refine .opens options ⟨?_, ?_, ?_⟩ made ?_ (fun i other => ?_) fun f => ?_
  · rw [pipelines, List.map_append]
    refine List.nodup_append.mpr ⟨numbered.once, List.nodup_singleton _, ?_⟩
    rintro i member j single rfl
    obtain ⟨q, inside, rfl⟩ := List.mem_map.mp member
    exact new q inside (by simpa using single)
  · intro q member
    rcases either q member with before | rfl
    · have below := numbered.made q before
      omega
    · omega
  · intro q member
    rcases either q member with before | rfl
    · exact numbered.own q before
    · exact ⟨worker, by simp [bare]⟩
  · have none : s.pipelines.find? (·.id = p.id) = none := by simpa using new
    rw [← id, account?, pipeline?, pipelines, List.find?_append, none]
    simpa using account
  · rw [account?, account?, pipeline?, pipeline?, pipelines, List.find?_append]
    have different : p.id ≠ i := fun h => other (h ▸ id)
    simp [different]
  · simp [framesElsewhere, pipelines, others, bare]

theorem openEffect [FrameSource σ] (numbered : s.Numbered) (path : String)
    (stream : Except SourceError σ) (renderer : ρ) (viewer : Nat) (options : PipelineOptions) :
    Effect s (s.openPipeline path stream renderer viewer options).2 := by
  cases stream with
  | error e => exact .nothing numbered
  | ok source =>
    unfold openPipeline
    cases invalid : Pipeline.fault? path (FrameSource.info source) with
    | some e =>
      simp only [invalid]
      exact .nothing numbered
    | none =>
      cases unnamed : SerialQueue.nameFault? (s.options.queueName s.queuesAsked) with
      | some payload =>
        simp only [invalid, unnamed]
        exact (Effect.nothing numbered).like rfl rfl rfl
      | none =>
        simp only [invalid, unnamed]
        exact startedEffect (p := .start s.pipelinesMade (s.options.queueName s.queuesAsked) path
          source renderer viewer options) numbered options.pool rfl rfl rfl rfl
          (by simp [pipelines]) rfl rfl

/-! ### Workers -/

theorem postEffect {s₁ : Session σ ρ τ} (numbered : s₁.Numbered)
    (like : s.Like s₁) {task : MainTask}
    (frames : ∀ f, f ∈ s.frames ↔ f ∈ s₁.frames ∨ f ∈ task.frames) :
    Effect s (s₁.post task).2 := by
  cases mode : s₁.trampoline with
  | pump =>
    rw [postPumped mode]
    refine .settles (.same ⟨numbered.once, numbered.made, numbered.own⟩
      ⟨like.made, like.account⟩ fun f => ?_)
    have whole : f ∈ s₁.frames ↔ _ := framesPending s₁ s₁.pending f
    rw [push, framesPending s₁ (s₁.pending ++ [task]), frames, whole, List.flatMap_append,
      List.flatMap_singleton, List.mem_append, or_assoc]
  | inline =>
    rw [postInline mode]
    have ran : Effect s (runTask task [] s₁).state := by
      have released := runTaskReleased numbered task []
      refine .settles ((released.congr (fun f => ?_) fun f => ?_).since like)
      · simp [frames]
      · simp
    rcases runTaskPosts task [] s₁ with posted | ⟨failure, posted, quiet⟩
    · rw [runInlineQuiet posted]
      exact ran
    · rw [runInlineSurfaces posted quiet]
      exact ran.handled failure

theorem handOverEffect (numbered : s.Numbered) {p : Pipeline σ ρ}
    (found : s.pipeline? p.id = some p) {h : Handover} (held : p.handover = some h) :
    Effect s (s.handOver p h) := by
  obtain ⟨member, -⟩ := pipelineFound found
  obtain ⟨worker, frames⟩ := numbered.own p member
  have split (f : Frame) : f ∈ p.frames ↔ f ∈ p.relieved.frames ∨ f ∈ h.frames := by
    simp only [Pipeline.frames, Pipeline.relieved, held, Option.map_some, Option.getD_some,
      Option.map_none, Option.getD_none, List.append_nil, List.mem_append]
    grind
  have own : p.relieved.Own := ⟨worker, fun f h => frames f ((split f).mpr (.inl h))⟩
  have here : s.pipeline? p.relieved.id = some p := found
  have left (f : Frame) : f ∈ s.frames ↔ f ∈ (s.put p.relieved).frames ∨ f ∈ h.frames := by
    rw [framesPut numbered here own, framesBeside numbered found, split]
    exact or_right_comm
  have same : (h.task p.viewer).frames = h.frames := by cases h <;> rfl
  have posted : Effect s ((s.put p.relieved).post (h.task p.viewer)).2 :=
    postEffect (numbered.put here own) (putLike here rfl) fun f => same ▸ left f
  unfold handOver
  split
  case h_1 s₁ same =>
    rw [same] at posted
    exact posted
  case h_2 payload s₁ same =>
    rw [same] at posted
    exact posted.unwound p.id payload h

omit [Viewer τ] in
theorem freeFrames {p : Pipeline σ ρ} (free : p.handover = none) (f : Frame) :
    f ∈ p.frames ↔ f ∈ p.worker.frames ∨ f ∈ p.answers.filterMap JobAnswer.frame? := by
  simp [Pipeline.frames, free]

omit [Viewer τ] in
theorem advancedFrames {p p' : Pipeline σ ρ} {rest : List Job} {y : Yield} {w : Worker σ ρ}
    (next : p.Advanced p' rest y w) (f : Frame) :
    f ∈ p'.frames ↔ f ∈ p'.worker.frames ∨ f ∈ y.frames ∨
      f ∈ p.answers.filterMap JobAnswer.frame? := by
  rw [Pipeline.frames, next.handover, next.answers]
  cases y with
  | nothing => simp [Yield.handover?, Yield.answer?, Yield.frames]
  | handover h => simp [Yield.handover?, Yield.answer?, Yield.frames]
  | answer a =>
    simp only [Yield.handover?, Yield.answer?, Yield.frames, JobAnswer.frames,
      Option.toList_some, Option.map_none, Option.getD_none, List.append_nil,
      List.filterMap_append, List.filterMap_cons, List.filterMap_nil, List.mem_append]
    cases a.frame? with
    | none => simp
    | some g => simp [or_comm]

omit [Viewer τ] in
theorem advancedOwn {p p' : Pipeline σ ρ} {rest : List Job} {y : Yield} {w : Worker σ ρ}
    (own : p.Own) (free : p.handover = none) (next : p.Advanced p' rest y w) (id : p'.id = p.id)
    (pipeline : p'.worker.pipeline = p.worker.pipeline)
    (drawn : p.worker.Drawn p'.worker y.frames) : p'.Own := by
  obtain ⟨worker, frames⟩ := own
  obtain ⟨last, new⟩ := drawn.frames
  have before (f : Frame) (held : f ∈ p.worker.frames) : f.id.pipeline = p.id :=
    frames f ((freeFrames free f).mpr (.inl held))
  have shown (f : Frame) (given : f ∈ y.frames) : f.id.pipeline = p.id := by
    rcases new f given with again | fresh
    · exact before f again
    · rw [fresh]
      exact worker
  refine ⟨pipeline.trans (worker.trans id.symm), fun f held => ?_⟩
  rw [id]
  rcases (advancedFrames next f).mp held with latest | given | waiting
  · exact (List.mem_append.mp (last latest)).elim (shown f) (before f)
  · exact shown f given
  · exact frames f ((freeFrames free f).mpr (.inr waiting))

theorem idleEffect (numbered : s.Numbered) {p : Pipeline σ ρ}
    (found : s.pipeline? p.id = some p) (entries : List LogEntry) :
    Effect s (((s.put p).note entries).reclaim p.frames []) := by
  have own := numbered.own p (pipelineFound found).1
  have beside := framesBeside numbered found
  have same (f : Frame) : f ∈ ((s.put p).note entries).frames ↔ f ∈ s.frames := by
    rw [beside]
    exact framesPut numbered found own f
  obtain ⟨once, made, owned⟩ := numbered.put found own
  exact reclaimEffect ⟨once, made, owned⟩ ⟨rfl, (putLike found rfl).account⟩
    (fun f => (same f).mp) (fun f held => (beside f).mpr (.inl held))
    fun f held => .inl ((same f).mpr held)

variable [FrameSource σ] [SubtitleRenderer ρ]

theorem computeEffect (numbered : s.Numbered) {p : Pipeline σ ρ}
    (found : s.pipeline? p.id = some p) (free : p.handover = none) (entries : List LogEntry) :
    Effect s (((s.put p.compute.1).note entries).reclaim p.frames []) := by
  cases backlog : p.queue.backlog with
  | nil =>
    rw [Pipeline.computeIdle backlog]
    exact idleEffect numbered found entries
  | cons job rest =>
    have next := Pipeline.computeNext free backlog
    obtain ⟨pipeline, drawn⟩ := p.worker.carryOutDrawn p.version job
    have id := p.computeId
    rw [← next.worker] at drawn pipeline
    generalize p.compute.1 = p' at next drawn pipeline id ⊢
    generalize (p.worker.carryOut p.version job).1 = yield at next drawn
    have here : s.pipeline? p'.id = some p := id ▸ found
    have own := advancedOwn (numbered.own p (pipelineFound found).1) free next id pipeline drawn
    obtain ⟨last, -⟩ := drawn.frames
    have held := freeFrames free
    have gained := advancedFrames next
    have was := framesBeside numbered found
    have is := framesPut numbered here own
    rw [id] at is
    obtain ⟨once, made, owned⟩ := numbered.put here own
    have reclaimed := reclaimReturned (s := (s.put p').note entries) ⟨once, made, owned⟩ p.frames []
    have left : (((s.put p').note entries).reclaim p.frames []).frames = (s.put p').frames :=
      reclaimed.frames
    have released : Released (s.put p') (((s.put p').note entries).reclaim p.frames [])
        (yield.frames ++ s.frames) (s.put p').frames := by
      refine .since (reclaimReleased (s := (s.put p').note entries) ⟨once, made, owned⟩ p.frames []
        (fun f => ?_) (fun f h => ?_) (fun f h => ?_) fun f h => ?_) ⟨rfl, fun _ => rfl⟩
      · rw [List.flatMap_nil, List.append_nil]
        rfl
      · have last := @last f
        simp only [is, gained, List.mem_append, was, held] at h last ⊢
        grind
      · exact List.mem_append_right _ ((was f).mpr (.inl h))
      · simp only [List.mem_append, was, is, gained] at h ⊢
        grind
    refine .computes here next.isOpen drawn (fun f h => ?_) (left ▸ released) fun same f h => ?_
    · rw [left, is, gained]
      exact .inl (.inr (.inl h))
    · rw [left, is, gained, same]
      simp only [was, held] at h
      grind

theorem workEffect (numbered : s.Numbered) (id : Nat) : Effect s (s.work id) := by
  unfold work
  cases found : s.pipeline? id with
  | none => exact .nothing numbered
  | some p =>
    obtain ⟨-, rfl⟩ := pipelineFound found
    cases handover : p.handover with
    | some h =>
      simp only [handover]
      exact handOverEffect numbered found handover
    | none =>
      simp only [handover]
      exact computeEffect numbered found handover _

theorem stepEffect (numbered : s.Numbered) (m : Move σ ρ τ) : Effect s (s.step m) := by
  cases m with
  | addViewer v =>
    rw [step]
    split
    case isTrue given => exact addViewerEffect numbered given
    case isFalse => exact .nothing numbered
  | openPipeline path stream renderer viewer options =>
    exact openEffect numbered path stream renderer viewer options
  | ask id q =>
    rw [step]
    cases found : s.openPipeline? id with
    | none => exact .nothing numbered
    | some p =>
      obtain ⟨found, -, rfl⟩ := openFound found
      exact askEffect numbered found q
  | work id => exact workEffect numbered id
  | main => exact turnEffect numbered
  | pickUp id name => exact pickUpEffect numbered id name
  | share name f =>
    rw [step]
    split
    case isTrue held => exact keepEffect numbered name held
    case isFalse => exact .nothing numbered
  | discard name => exact discardEffect numbered name
  | rearrange viewer v =>
    rw [step]
    split
    case isTrue given => exact rearrangeEffect numbered viewer given
    case isFalse => exact .nothing numbered
  | retire id =>
    rw [step]
    cases found : s.openPipeline? id with
    | none => exact .nothing numbered
    | some p =>
      obtain ⟨found, -, rfl⟩ := openFound found
      exact retireEffect numbered found
  | shut id =>
    rw [step]
    cases found : (s.openPipeline? id).filter (·.remaining = 0) with
    | none => exact .nothing numbered
    | some p =>
      obtain ⟨found, -⟩ := Option.filter_eq_some_iff.mp found
      obtain ⟨found, -, rfl⟩ := openFound found
      exact shutEffect numbered found

end

end Session
end VideoPreview
