import VideoPreview.Proofs.Latest
import VideoPreview.Proofs.Rounds
import VideoPreview.Proofs.Steering
import VideoPreview.Synthetic.Bands
import VideoPreview.Synthetic.Video

/-! One video after the other on the same recorder. Every pipeline numbers its own requests from
one, and the recorder shows the highest number it was given: a new video is shown from the first
frame on whose version is above all that other videos have delivered. -/
namespace VideoPreview

def Event.shown? : Event → Option Shown
  | frameReady f v => some (f, v)
  | _ => none

def MainTask.eventsFor (viewer : Nat) : MainTask → List Event
  | deliver receiver events => if receiver = viewer then events else []
  | handle _ => []

theorem MainTask.eventsForReceiver (receiver k : Nat) (events : List Event) :
    ((events.map (receiver, ·)).filter (·.1 = k)).map Prod.snd =
      (deliver receiver events).eventsFor k := by
  by_cases same : receiver = k
  · subst same
    have all : (events.map (receiver, ·)).filter (·.1 = receiver) = events.map (receiver, ·) :=
      List.filter_eq_self.mpr (by simp)
    rw [all]
    simp [eventsFor, Function.comp_def]
  · simp [eventsFor, same]

theorem Recorder.takesAll (r : Recorder) (events : List Event) :
    (Viewer.takeIn r events).state = events.foldl Recorder.receive r ∧
      (Viewer.takeIn r events).heard = events ∧ (Viewer.takeIn r events).panic = none := by
  induction events generalizing r with
  | nil => exact ⟨rfl, rfl, rfl⟩
  | cons e rest ih =>
    obtain ⟨state, heard, panic⟩ := ih (r.receive e)
    have first : (Viewer.receive e r).panic = none := rfl
    have next : (Viewer.receive e r).state = r.receive e := rfl
    simp only [Viewer.takeIn, first, next, state, heard, panic]
    exact ⟨rfl, trivial, trivial⟩

namespace Session

variable {σ ρ τ : Type}

def Move.rearranges : Move σ ρ τ → Bool
  | rearrange _ _ => true
  | _ => false

/-- What may happen in a session with recorders: besides its moves, another video is put on display
or the controller is told something. Nobody but the main thread changes a recorder. -/
inductive Act (σ ρ : Type) where
  | move (m : Move σ ρ Recorder)
  | display (id : Option Nat)
  | command (k : Controller.Command)

def heardBy (s : Session σ ρ τ) (viewer : Nat) : List Event :=
  (s.heard.filter (·.1 = viewer)).map Prod.snd

def waitingFor (s : Session σ ρ τ) (viewer : Nat) : List Event :=
  s.pending.flatMap (MainTask.eventsFor viewer)

section
variable [FrameSource σ] [SubtitleRenderer ρ]

def act (s : Session σ ρ Recorder) : Act σ ρ → Session σ ρ Recorder
  | .move m => if m.rearranges then s else s.step m
  | .display id => (s.display id).2
  | .command k => (s.follow (s.controller.obey k)).2

def perform (s : Session σ ρ Recorder) (acts : List (Act σ ρ)) : Session σ ρ Recorder :=
  play act s acts

def handing (viewer : Nat) (s : Session σ ρ Recorder) : Act σ ρ → List (Nat × Event)
  | .move (.work id) =>
    match s.pipeline? id with
    | some p =>
      if p.viewer = viewer then (p.handover.toList.flatMap Handover.events).map (id, ·) else []
    | none => []
  | _ => []

def handedTo (viewer : Nat) (s : Session σ ρ Recorder) (acts : List (Act σ ρ)) :
    List (Nat × Event) :=
  seen act (handing viewer) s acts

def delivered (viewer : Nat) (s : Session σ ρ Recorder) (acts : List (Act σ ρ)) :
    List (Nat × Shown) :=
  (handedTo viewer s acts).filterMap fun d => d.2.shown?.map (d.1, ·)

end

structure Aside (s s' : Session σ ρ τ) : Prop where
  trampoline : s'.trampoline = s.trampoline
  viewers : s'.viewers = s.viewers
  pending : s'.pending = s.pending
  heard : s'.heard = s.heard

variable {s s' : Session σ ρ τ}

theorem Aside.trans {s'' : Session σ ρ τ} (first : Aside s s')
    (second : Aside s' s'') :
    Aside s s'' :=
  ⟨second.trampoline.trans first.trampoline, second.viewers.trans first.viewers,
    second.pending.trans first.pending, second.heard.trans first.heard⟩

theorem putAside (s : Session σ ρ τ) (p : Pipeline σ ρ) : Aside s (s.put p) :=
  ⟨rfl, rfl, rfl, rfl⟩

theorem handleAside (s : Session σ ρ τ) (failure : Failure) : Aside s (s.handle failure) := by
  unfold handle
  split <;> exact ⟨rfl, rfl, rfl, rfl⟩

theorem askAside (s : Session σ ρ τ) (p : Pipeline σ ρ) (q : Request) : Aside s (s.ask p q) := by
  cases q <;> exact ⟨rfl, rfl, rfl, rfl⟩

theorem openAside [FrameSource σ] (s : Session σ ρ τ) (path : String)
    (stream : Except SourceError σ) (renderer : ρ) (viewer : Nat) (options : PipelineOptions) :
    Aside s (s.openPipeline path stream renderer viewer options).2 := by
  unfold openPipeline
  split
  case h_1 => exact ⟨rfl, rfl, rfl, rfl⟩
  case h_2 source =>
    split
    case h_1 => exact ⟨rfl, rfl, rfl, rfl⟩
    case h_2 =>
      simp only
      split <;> exact ⟨rfl, rfl, rfl, rfl⟩

section
variable [Viewer τ]

theorem reclaimAside (s : Session σ ρ τ) (released : List Frame) (waiting : List MainTask) :
    Aside s (s.reclaim released waiting) := by
  obtain ⟨controller, others, only⟩ := reclaimOnly s released waiting
  rw [only]
  exact ⟨rfl, rfl, rfl, rfl⟩

theorem keepAside (s : Session σ ρ τ) (name : String) (f : Frame) : Aside s (s.keep name f) :=
  have kept : Aside s { s with kept := (name, f) :: s.kept.filter (·.1 ≠ name) } :=
    ⟨rfl, rfl, rfl, rfl⟩
  kept.trans (reclaimAside ..)

theorem discardAside (s : Session σ ρ τ) (name : String) : Aside s (s.discard name) := by
  have dropped : Aside s { s with kept := s.kept.filter (·.1 ≠ name) } := ⟨rfl, rfl, rfl, rfl⟩
  exact dropped.trans (reclaimAside ..)

theorem collectAside (s : Session σ ρ τ) (outcome : Attempt SourceError Rendered)
    (name : Option String) : Aside s (s.collect outcome name).2 := by
  cases outcome with
  | done rendered =>
    obtain ⟨frame, fault⟩ := rendered
    cases fault with
    | some fault => exact reclaimAside ..
    | none =>
      cases name with
      | none => exact reclaimAside ..
      | some name => exact keepAside s name frame
  | refused e => exact ⟨rfl, rfl, rfl, rfl⟩
  | panicked payload => exact ⟨rfl, rfl, rfl, rfl⟩

theorem pickUpAside (s : Session σ ρ τ) (id : Nat) (name : Option String) :
    Aside s (s.pickUp id name) := by
  unfold pickUp
  split
  case h_1 outcome p taken => exact (putAside s p).trans (collectAside (s.put p) outcome name)
  case h_2 p taken => exact putAside s p
  case h_3 => exact ⟨rfl, rfl, rfl, rfl⟩

end

structure Arriving (k : Nat) (out : List (Nat × Event)) (s : Session σ ρ Recorder) : Prop where
  received : s.viewers[k]? = some (.receiveAll (s.heardBy k))
  arrives : s.heardBy k ++ s.waitingFor k = out.map Prod.snd
  inline : s.trampoline = .inline → s.pending = []

section
variable {k : Nat} {out : List (Nat × Event)} {s s' : Session σ ρ Recorder}

theorem Arriving.aside (arriving : Arriving k out s) (aside : Aside s s') : Arriving k out s' := by
  have heard : s'.heardBy k = s.heardBy k := by
    rw [heardBy, aside.heard]
    rfl
  have waiting : s'.waitingFor k = s.waitingFor k := by
    rw [waitingFor, aside.pending]
    rfl
  refine ⟨?_, ?_, ?_⟩
  · rw [aside.viewers, heard]
    exact arriving.received
  · rw [heard, waiting]
    exact arriving.arrives
  · rw [aside.trampoline, aside.pending]
    exact arriving.inline

structure Reaches (k : Nat) (task : MainTask) (s s' : Session σ ρ Recorder) : Prop where
  trampoline : s'.trampoline = s.trampoline
  pending : s'.pending = s.pending
  heard : s'.heardBy k = s.heardBy k ++ task.eventsFor k
  received : s'.viewers[k]? = some (.receiveAll (s'.heardBy k))

theorem Reaches.aside {s'' : Session σ ρ Recorder} {task : MainTask} (reaches : Reaches k task s s')
    (aside : Aside s' s'') : Reaches k task s s'' := by
  have heard : s''.heardBy k = s'.heardBy k := by
    rw [heardBy, aside.heard]
    rfl
  refine ⟨aside.trampoline.trans reaches.trampoline, aside.pending.trans reaches.pending,
    heard.trans reaches.heard, ?_⟩
  rw [aside.viewers, heard]
  exact reaches.received

theorem receiveReaches (here : s.viewers[k]? = some (.receiveAll (s.heardBy k))) (receiver : Nat)
    (events : List Event) : (receive receiver events s).2 = none ∧
      Reaches k (.deliver receiver events) s (receive receiver events s).1 := by
  cases found : s.viewers[receiver]? with
  | none =>
    have other : receiver ≠ k := by
      rintro rfl
      cases found.symm.trans here
    rw [receiveMissing found]
    exact ⟨rfl, rfl, rfl, by simp [MainTask.eventsFor, other], here⟩
  | some r =>
    obtain ⟨state, heard, panic⟩ := r.takesAll events
    rw [receiveTaken found]
    have now : (s.taken receiver (Viewer.takeIn r events)).heardBy k =
        s.heardBy k ++ (MainTask.deliver receiver events).eventsFor k := by
      simp only [taken, heard, heardBy, List.filter_append, List.map_append]
      rw [MainTask.eventsForReceiver]
    refine ⟨panic, rfl, rfl, now, ?_⟩
    rw [now]
    simp only [taken, state]
    by_cases same : receiver = k
    · subst same
      obtain ⟨inside, -⟩ := List.getElem?_eq_some_iff.mp found
      have before : r = .receiveAll (s.heardBy receiver) :=
        Option.some.inj (found.symm.trans here)
      rw [List.getElem?_set_self inside, before]
      simp [MainTask.eventsFor, Recorder.receiveAll]
    · rw [List.getElem?_set_ne same, here]
      simp [MainTask.eventsFor, same]

theorem runTaskReaches (here : s.viewers[k]? = some (.receiveAll (s.heardBy k))) (task : MainTask)
    (waiting : List MainTask) :
    (runTask task waiting s).posted = [] ∧ Reaches k task s (runTask task waiting s).state := by
  cases task with
  | handle failure =>
    have still : Reaches k (.handle failure) s s := ⟨rfl, rfl, (List.append_nil _).symm, here⟩
    exact ⟨rfl, still.aside (handleAside s failure)⟩
  | deliver receiver events =>
    obtain ⟨quiet, reaches⟩ := receiveReaches here receiver events
    simp only [runTask]
    generalize receive receiver events s = received at quiet reaches ⊢
    obtain ⟨s₁, panic⟩ := received
    cases quiet
    exact ⟨rfl, reaches.aside (reclaimAside ..)⟩

theorem Arriving.turn (arriving : Arriving k out s) : Arriving k out s.turn := by
  unfold Session.turn
  cases pending : s.pending with
  | nil => simpa [pending] using arriving
  | cons task rest =>
    obtain ⟨quiet, reaches⟩ :=
      runTaskReaches (s := { s with pending := [] }) arriving.received task rest
    have heard := reaches.heard
    have order := arriving.arrives
    refine ⟨reaches.received, ?_, fun inline => ?_⟩
    · simp only [waitingFor, pending, List.flatMap_cons] at order
      simp only [waitingFor, quiet, List.append_nil]
      rw [← order, ← List.append_assoc]
      exact congrArg (· ++ _) heard
    · have none := arriving.inline (reaches.trampoline.symm.trans inline)
      rw [pending] at none
      cases none

theorem Arriving.post (arriving : Arriving k out s) (id : Nat) (task : MainTask) :
    Arriving k (out ++ (task.eventsFor k).map (id, ·)) (s.post task).2 := by
  have both : (out ++ (task.eventsFor k).map (id, ·)).map Prod.snd =
      s.heardBy k ++ s.waitingFor k ++ task.eventsFor k := by
    simp [arriving.arrives, Function.comp_def]
  cases mode : s.trampoline with
  | pump =>
    rw [postPumped mode]
    refine ⟨arriving.received, ?_, fun inline => ?_⟩
    · rw [both]
      simp [push, waitingFor, heardBy]
    · cases mode.symm.trans inline
  | inline =>
    rw [postInline mode]
    obtain ⟨quiet, reaches⟩ := runTaskReaches arriving.received task []
    have empty := arriving.inline mode
    have still := reaches.pending.trans empty
    rw [runInlineQuiet quiet]
    refine ⟨reaches.received, ?_, fun _ => still⟩
    rw [both, reaches.heard]
    simp [waitingFor, still, empty]

theorem Arriving.desert (arriving : Arriving k out s) (id : Nat) :
    Arriving k out (s.desert id) := by
  unfold Session.desert
  cases s.pipeline? id with
  | none => exact arriving
  | some p => exact arriving.aside (putAside s p.desert)

theorem Arriving.unwind (arriving : Arriving k out s) (id : Nat) (payload : Payload)
    (h : Handover) : Arriving k out (s.unwind id payload h) := by
  cases h with
  | surface failure => exact arriving.desert id
  | deliver events =>
    have noted :
        Aside s (s.note [.surfacing Worker.queueLabel (Failure.ofPanic payload).message]) :=
      ⟨rfl, rfl, rfl, rfl⟩
    have posted := (arriving.aside noted).post id (.handle (.ofPanic payload))
    rw [MainTask.eventsFor, List.map_nil, List.append_nil] at posted
    simp only [Session.unwind]
    split
    case h_1 s₁ quiet =>
      rw [quiet] at posted
      exact posted
    case h_2 again s₁ thrown =>
      rw [thrown] at posted
      exact posted.desert id

theorem Arriving.handOver (arriving : Arriving k out s) (p : Pipeline σ ρ) (h : Handover) :
    Arriving k (out ++ ((h.task p.viewer).eventsFor k).map (p.id, ·)) (s.handOver p h) := by
  have posted := (arriving.aside (putAside s p.relieved)).post p.id (h.task p.viewer)
  unfold Session.handOver
  split
  case h_1 s₁ quiet =>
    rw [quiet] at posted
    exact posted
  case h_2 payload s₁ thrown =>
    rw [thrown] at posted
    exact posted.unwind p.id payload h

end

section
variable [FrameSource σ] [SubtitleRenderer ρ] {k : Nat} {out : List (Nat × Event)}
  {s : Session σ ρ Recorder}

theorem Arriving.work (arriving : Arriving k out s) (id : Nat) :
    Arriving k (out ++ handing k s (.move (.work id))) (s.work id) := by
  unfold Session.work
  simp only [handing]
  cases found : s.pipeline? id with
  | none => simpa using arriving
  | some p =>
    cases held : p.handover with
    | none =>
      simp only [Option.toList_none, List.flatMap_nil, List.map_nil, ite_self, List.append_nil,
        held]
      have noted : Aside s ((s.put p.compute.1).note p.compute.2) := ⟨rfl, rfl, rfl, rfl⟩
      exact arriving.aside (noted.trans (reclaimAside ..))
    | some h =>
      have handed := arriving.handOver p h
      have same : (h.task p.viewer).eventsFor k = if p.viewer = k then h.events else [] := by
        cases h with
        | deliver events => rfl
        | surface failure => exact (ite_self _).symm
      rw [same, apply_ite (List.map (p.id, ·)), (pipelineFound found).2] at handed
      simpa [held] using handed

theorem Arriving.step (arriving : Arriving k out s) {m : Move σ ρ Recorder}
    (spares : m.rearranges = false) :
    Arriving k (out ++ handing k s (.move m)) (s.step m) := by
  have aside {s' : Session σ ρ Recorder} (aside : Aside s s') : Arriving k (out ++ []) s' := by
    rw [List.append_nil]
    exact arriving.aside aside
  have still : Arriving k (out ++ []) s := aside ⟨rfl, rfl, rfl, rfl⟩
  cases m with
  | addViewer r =>
    rw [Session.step]
    split
    case isTrue =>
      obtain ⟨inside, -⟩ := List.getElem?_eq_some_iff.mp arriving.received
      refine ⟨?_, still.arrives, arriving.inline⟩
      simp only [addViewer]
      rw [List.getElem?_append_left inside]
      exact arriving.received
    case isFalse => exact still
  | openPipeline path stream renderer viewer options =>
    exact aside (openAside s path stream renderer viewer options)
  | ask id q =>
    rw [Session.step]
    cases s.openPipeline? id with
    | none => exact still
    | some p => exact aside (askAside s p q)
  | work id => exact arriving.work id
  | main => simpa [handing, Session.step] using arriving.turn
  | pickUp id name => exact aside (pickUpAside s id name)
  | share name f =>
    rw [Session.step]
    split
    case isTrue => exact aside (keepAside s name f)
    case isFalse => exact still
  | discard name => exact aside (discardAside s name)
  | rearrange viewer r => cases spares
  | retire id =>
    rw [Session.step]
    cases s.openPipeline? id with
    | none => exact still
    | some p => exact aside (putAside s p.bump)
  | shut id =>
    rw [Session.step]
    cases (s.openPipeline? id).filter (·.remaining = 0) with
    | none => exact still
    | some p => exact aside (.trans (putAside s p.shut) ⟨rfl, rfl, rfl, rfl⟩)

theorem Arriving.act (arriving : Arriving k out s) (a : Act σ ρ) :
    Arriving k (out ++ handing k s a) (s.act a) := by
  cases a with
  | move m =>
    cases spares : m.rearranges with
    | true =>
      have nothing : handing k s (.move m) = [] := by
        cases m <;> first | rfl | cases spares
      simpa [Session.act, spares, nothing] using arriving
    | false => simpa [Session.act, spares] using arriving.step spares
  | display id =>
    have nothing : handing k s (.display id) = [] := rfl
    rw [nothing, List.append_nil]
    exact arriving.aside ⟨rfl, rfl, rfl, rfl⟩
  | command c =>
    have nothing : handing k s (.command c) = [] := rfl
    rw [nothing, List.append_nil]
    exact arriving.aside ⟨rfl, rfl, rfl, rfl⟩

theorem Arriving.perform (arriving : Arriving k [] s) (acts : List (Act σ ρ)) :
    Arriving k (handedTo k s acts) (s.perform acts) := by
  induction acts using List.reverseRecOn with
  | nil => exact arriving
  | append_singleton acts a ih =>
    rw [Session.perform, handedTo, playSnoc, seenSnoc]
    exact ih.act a

end

/-- What a recorder shows of the frames that pipelines delivered, each with its pipeline's number:
never a frame of a pipeline that others are ahead of with a version above all of its own. A frame
is accepted if it would be without the other pipelines and is newer than all they delivered
before. -/
structure ShowsNewest (delivered : List (Nat × Shown)) (r : Recorder) : Prop where
  frames : r.frames = delivered.map Prod.snd
  display : r.display = .offerAll r.frames
  latest : ∀ x, r.latest = some x ↔ Shown.Leads x r.frames
  ahead : ∀ d ∈ delivered, (∀ e ∈ delivered, e.1 ≠ d.1 → e.2.2.number < d.2.2.number) →
    ∃ x, (d.1, x) ∈ delivered ∧ r.latest = some x ∧
      ∀ e ∈ delivered, e.1 = d.1 → e.2.2.number ≤ x.2.number
  behind : ∀ id, ∀ d ∈ delivered, d.1 ≠ id →
    (∀ e ∈ delivered, e.1 = id → e.2.2.number < d.2.2.number) →
    ∃ e ∈ delivered, e.1 ≠ id ∧ r.latest = some e.2
  accepts : ∀ before d after, delivered = before ++ d :: after →
    ((Display.offerAll (before.map Prod.snd)).accepts d.2.2 = true ↔
      (Display.offerAll ((before.filter (·.1 = d.1)).map Prod.snd)).accepts d.2.2 = true ∧
        ∀ e ∈ before, e.1 ≠ d.1 → e.2.2.number < d.2.2.number)

theorem deliveredFrames (out : List (Nat × Event)) :
    (out.filterMap fun d => d.2.shown?.map (d.1, ·)).map Prod.snd =
      (out.map Prod.snd).filterMap Event.shown? := by
  rw [List.map_filterMap, List.filterMap_map]
  congr 1
  funext d
  cases shown : d.2.shown? <;> simp [shown]

theorem acceptsApart (before : List (Nat × Shown)) (id : Nat) (v : Version) :
    (Display.offerAll (before.map Prod.snd)).accepts v = true ↔
      (Display.offerAll ((before.filter (·.1 = id)).map Prod.snd)).accepts v = true ∧
        ∀ e ∈ before, e.1 ≠ id → e.2.2.number < v.number := by
  simp only [Display.accepted, List.forall_mem_map, List.mem_filter, decide_eq_true_eq]
  constructor
  · exact fun older => ⟨fun e member => older e member.1, fun e member _ => older e member⟩
  · rintro ⟨own, others⟩ e member
    by_cases same : e.1 = id
    · exact own e ⟨member, same⟩
    · exact others e member same

theorem latestAmong {delivered : List (Nat × Shown)} {events : List Event}
    (frames : (Recorder.receiveAll events).frames = delivered.map Prod.snd)
    {d : Nat × Shown} (member : d ∈ delivered) :
    ∃ e ∈ delivered, (Recorder.receiveAll events).latest = some e.2 ∧
      ∀ e' ∈ delivered, e'.2.2.number ≤ e.2.2.number := by
  cases shown : (Recorder.receiveAll events).latest with
  | none =>
    rw [Recorder.latestNone, frames] at shown
    simp only [List.map_eq_nil_iff] at shown
    rw [shown] at member
    cases member
  | some x =>
    have leads := (Recorder.latestIff events x).mp shown
    rw [frames] at leads
    obtain ⟨e, inside, rfl⟩ := List.mem_map.mp leads.member
    exact ⟨e, inside, rfl, fun e' other => leads.highest e'.2 (List.mem_map_of_mem other)⟩

theorem showsNewest {delivered : List (Nat × Shown)} {events : List Event}
    (frames : (Recorder.receiveAll events).frames = delivered.map Prod.snd) :
    ShowsNewest delivered (.receiveAll events) where
  frames := frames
  display := Recorder.displayOffered events
  latest := Recorder.latestIff events
  ahead d member newer := by
    obtain ⟨e, inside, shown, highest⟩ := latestAmong frames member
    have own : e.1 = d.1 := by
      refine Decidable.byContradiction fun other => ?_
      exact UInt64.not_le.mpr (newer e inside other) (highest d member)
    exact ⟨e.2, own ▸ inside, shown, fun e' other _ => highest e' other⟩
  behind id d member other newer := by
    obtain ⟨e, inside, shown, highest⟩ := latestAmong frames member
    refine ⟨e, inside, fun own => ?_, shown⟩
    exact UInt64.not_le.mpr (newer e inside own) (highest d member)
  accepts before d after _ := acceptsApart before d.1 d.2.2

structure Fresh (k : Nat) (s : Session σ ρ Recorder) : Prop where
  blank : s.viewers[k]? = some .empty
  heard : s.heardBy k = []
  waiting : s.waitingFor k = []
  inline : s.trampoline = .inline → s.pending = []

theorem startFresh {trampoline : Trampoline} {handling : FailureHandling}
    {options : DispatchOptions} {start : Session σ ρ Recorder}
    (started : Session.start trampoline handling options = .ok start) :
    Fresh 0 (start.addViewer .empty).2 := by
  unfold Session.start at started
  split at started
  case h_1 => cases started
  case h_2 =>
    cases started
    exact ⟨rfl, rfl, rfl, fun _ => rfl⟩

theorem newestShown [FrameSource σ] [SubtitleRenderer ρ] {k : Nat} {s : Session σ ρ Recorder}
    (fresh : s.Fresh k) (acts : List (Act σ ρ)) (drained : (s.perform acts).pending = []) :
    ∃ r, (s.perform acts).viewers[k]? = some r ∧ ShowsNewest (delivered k s acts) r := by
  have before : Arriving k [] s := by
    refine ⟨?_, ?_, fresh.inline⟩
    · rw [fresh.heard]
      exact fresh.blank
    · rw [fresh.heard, fresh.waiting]
      rfl
  have after := before.perform acts
  have arrived := after.arrives
  rw [waitingFor, drained, List.flatMap_nil, List.append_nil] at arrived
  refine ⟨_, after.received, showsNewest ?_⟩
  rw [delivered, deliveredFrames, ← arrived]
  exact congrArg (List.filterMap Event.shown?) (Recorder.eventsKept _)

def showing (id : Nat) : List (Act SyntheticStream BandRenderer) :=
  [.move (.work id), .move (.work id), .move .main]

def replacing : List (Act SyntheticStream BandRenderer) :=
  let video : SyntheticStream :=
    ⟨{ SyntheticVideo.default with width := 1, height := 1 }, "TV.601"⟩
  [.move (.openPipeline "a.mkv" (.ok video) .default 0 .default), .display (some 0),
      .command (.jumpToFrame 0), .command (.jumpToFrame 1)] ++ showing 0 ++ showing 0
    ++ [.move (.openPipeline "b.mkv" (.ok video) .default 0 .default), .display (some 1),
      .move (.retire 0), .move (.shut 0), .command (.jumpToFrame 5)] ++ showing 1

theorem closedVideoStays : ∃ start, Session.start .pump .record .singleThreaded = .ok start ∧
    let s := (start.addViewer .empty).2
    let last := s.perform replacing
    last.pending = [] ∧ last.pipelines.map (fun p => (p.id, p.isOpen, p.remaining)) =
        [(1, true, 0), (0, false, 0)] ∧
      (delivered 0 s replacing).map (fun d => (d.1, d.2.1.number, d.2.2)) =
        [(0, 0, ⟨1⟩), (0, 1, ⟨2⟩), (1, 5, ⟨1⟩)] ∧
      last.viewers.map (fun r => (r.latest.map fun x => (x.1.id.pipeline, x.1.number, x.2),
        r.discarded)) = [(some (0, 1, ⟨2⟩), 1)] := by
  refine ⟨_, rfl, ?_⟩
  decide +kernel

theorem newestShownOnceAhead :
    let asking : List (Act SyntheticStream BandRenderer) :=
      replacing ++ [.command (.jumpToFrame 6), .command (.jumpToFrame 7)] ++ showing 1 ++ showing 1
    ∃ start, Session.start .pump .record .singleThreaded = .ok start ∧
      let s := (start.addViewer .empty).2
      s.Fresh 0 ∧ (s.perform asking).pending = [] ∧
        ∃ r, (s.perform asking).viewers[0]? = some r ∧ ShowsNewest (delivered 0 s asking) r ∧
          r.latest.map (fun x => (x.1.id.pipeline, x.1.number, x.2)) = some (1, 7, ⟨3⟩) := by
  intro asking
  have started : Session.start .pump .record .singleThreaded =
      .ok (_ : Session SyntheticStream BandRenderer Recorder) := rfl
  refine ⟨_, started, startFresh started, by decide +kernel, ?_⟩
  obtain ⟨r, here, shows⟩ := newestShown (startFresh started) asking (by decide +kernel)
  have latest : ((some r).bind Recorder.latest).map
      (fun x => (x.1.id.pipeline, x.1.number, x.2)) = some (1, 7, ⟨3⟩) := by
    rw [← here]
    decide +kernel
  exact ⟨r, here, shows, latest⟩

end Session
end VideoPreview
