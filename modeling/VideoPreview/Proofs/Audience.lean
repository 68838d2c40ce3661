import Mathlib.Data.List.Perm.Basic
import VideoPreview.Proofs.Alike
import VideoPreview.Proofs.Rounds

/-! A single viewer and the main thread. The viewer gets all deliveries in the order in which they
were handed over, whenever the main thread runs them. If it panics, that surfaces at some later
time among the failures of computations, and the next delivery finds the viewer as it was left. -/
namespace VideoPreview

variable {σ ρ τ : Type}

/-- Two lists merged, in any way that leaves the order of each as it is. -/
inductive Interleaved {α : Type} : List α → List α → List α → Prop where
  | nil : Interleaved [] [] []
  | left {a b all : List α} (before : Interleaved a b all) (x : α) :
      Interleaved (a ++ [x]) b (all ++ [x])
  | right {a b all : List α} (before : Interleaved a b all) (x : α) :
      Interleaved a (b ++ [x]) (all ++ [x])

theorem Interleaved.perm {α : Type} {a b all : List α} (interleaved : Interleaved a b all) :
    all.Perm (a ++ b) := by
  induction interleaved with
  | nil => exact .refl _
  | @left a b all before x ih =>
    have swapped : (b ++ [x]).Perm ([x] ++ b) := List.perm_append_comm
    calc (all ++ [x]).Perm (a ++ b ++ [x]) := ih.append_right [x]
      _ = a ++ (b ++ [x]) := List.append_assoc ..
      List.Perm _ (a ++ ([x] ++ b)) := swapped.append_left a
      _ = a ++ [x] ++ b := (List.append_assoc ..).symm
  | right before x ih => simpa using ih.append_right [x]

namespace Viewer

variable [Viewer τ]

def attend (v : τ) (events : List Event) : τ := (takeIn v events).state

def hearing (v : τ) (deliveries : List (List Event)) : List Event :=
  seen attend (fun v events => (takeIn v events).heard) v deliveries

def crashes (v : τ) (deliveries : List (List Event)) : List Failure :=
  seen attend (fun v events => (takeIn v events).panic.toList.map .ofPanic) v deliveries

def crash (v : τ) (events : List Event) : List Handover :=
  (takeIn v events).panic.toList.map fun payload => .surface (.ofPanic payload)

end Viewer

namespace Session

variable {F : Pipeline σ ρ → Prop} {s s' : Session σ ρ τ} {p q : Pipeline σ ρ}

theorem putAlone (idle : s.controller.pipeline = none) (alone : s.others = [q])
    (same : q.id = p.id) : s.put p = { s with others := [p] } := by
  obtain ⟨_, _, _, _, _, ⟨pipeline, _⟩, others⟩ := s
  simp only at idle alone
  subst idle alone
  simp [put, same]

theorem aloneFound (idle : s.controller.pipeline = none) (alone : s.others = [p]) (id : p.id = 0) :
    s.pipeline? 0 = some p := by
  simp [pipeline?, pipelines, idle, alone, id]

theorem alonePipeline (idle : s.controller.pipeline = none) (alone : s.others = [p]) {id : Nat}
    (found : s.pipeline? id = some q) : q = p := by
  have member := (pipelineFound found).1
  simpa [pipelines, idle, alone] using member

structure Behind (F : Pipeline σ ρ → Prop) (s s' : Session σ ρ τ) : Prop where
  only : s' = { s with others := s'.others, kept := s'.kept, log := s'.log }
  alone : ∃ p, F p ∧ s'.others = [p]

theorem Behind.refl (alone : ∃ p, F p ∧ s.others = [p]) : Behind F s s := ⟨rfl, alone⟩

theorem Behind.note (behind : Behind F s s') (entries : List LogEntry) :
    Behind F s (s'.note entries) :=
  ⟨by rw [behind.only]; rfl, behind.alone⟩

theorem Behind.keeping (behind : Behind F s s') (kept : List (String × Frame)) :
    Behind F s { s' with kept } :=
  ⟨by rw [behind.only], behind.alone⟩

theorem Behind.queueing (behind : Behind F s s') (pending : List MainTask) :
    Behind F { s with pending } { s' with pending } :=
  ⟨by rw [behind.only], behind.alone⟩

theorem putBehind (idle : s.controller.pipeline = none) (alone : s.others = [q])
    (same : q.id = p.id) (good : F p) : Behind F s (s.put p) := by
  rw [putAlone idle alone same]
  exact ⟨rfl, p, good, rfl⟩

theorem Behind.trans {s'' : Session σ ρ τ} {G : Pipeline σ ρ → Prop} (first : Behind G s s')
    (second : Behind F s' s'') : Behind F s s'' :=
  ⟨by rw [second.only, first.only], second.alone⟩

theorem askBehind (idle : s.controller.pipeline = none) (alone : s.others = [p]) (q : Request)
    (same : p.id = (p.ask q).id) (good : F (p.ask q)) : Behind F s (s.ask p q) := by
  have put : Behind F s (s.put (p.ask q)) := putBehind idle alone same good
  cases q <;> exact put.note _

section
variable (returns : ∀ p b, F p → F (Pipeline.takeBack p b)) (idle : s.controller.pipeline = none)
include returns idle

theorem Behind.giveBack (behind : Behind F s s') (f : Frame) : Behind F s (s'.giveBack f) := by
  unfold Session.giveBack
  cases found : s'.openPipeline? f.id.pipeline with
  | none => exact behind
  | some q =>
    obtain ⟨p, good, alone⟩ := behind.alone
    have idle' : s'.controller.pipeline = none := by rw [behind.only, idle]
    cases alonePipeline idle' alone (openFound found).1
    exact behind.trans (putBehind idle' alone rfl (returns q f.buffer good))

theorem Behind.reclaim [Viewer τ] (behind : Behind F s s') (released : List Frame)
    (waiting : List MainTask) : Behind F s (s'.reclaim released waiting) := by
  change Behind F s ((s'.freed released waiting).foldl Session.giveBack s')
  induction s'.freed released waiting using List.reverseRecOn with
  | nil => exact behind
  | append_singleton back f ih =>
    rw [List.foldl_append]
    exact ih.giveBack returns idle f

variable [Viewer τ]

theorem Behind.keep (behind : Behind F s s') (name : String) (f : Frame) :
    Behind F s (s'.keep name f) :=
  (behind.keeping _).reclaim returns idle _ _

theorem Behind.discard (behind : Behind F s s') (name : String) :
    Behind F s (s'.discard name) :=
  (behind.keeping _).reclaim returns idle _ _

theorem Behind.collect (behind : Behind F s s') (outcome : Attempt SourceError Rendered)
    (name : Option String) : Behind F s (s'.collect outcome name).2 := by
  cases outcome with
  | done rendered =>
    obtain ⟨frame, fault⟩ := rendered
    cases fault with
    | some fault => exact behind.reclaim returns idle _ _
    | none =>
      cases name with
      | none => exact behind.reclaim returns idle _ _
      | some name => exact behind.keep returns idle name frame
  | refused e => exact behind
  | panicked payload => exact behind

end

/-- A session that shows its only pipeline to its only viewer. Of what was handed over, the
deliveries in `ran` have reached the viewer, and `queue` waits for the main thread together with
failures that surfaced meanwhile. -/
structure Showing [Viewer τ] (t : Trampoline) (handling : FailureHandling) (v : τ)
    (out queue : List Handover) (ran : List (List Event)) (s : Session σ ρ τ) : Prop where
  trampoline : s.trampoline = t
  gentle : handling.IsGentle
  handled : s.handling = handling
  idle : s.controller.pipeline = none
  running : s.paused = []
  viewers : s.viewers = [play Viewer.attend v ran]
  heard : s.heard = (Viewer.hearing v ran).map (0, ·)
  pending : s.pending = queue.map (Handover.task 0)
  deliveries : ran ++ queue.filterMap Handover.delivery? = out.filterMap Handover.delivery?
  failures : ∃ told, s.failures = (if handling.keeps then told else []) ∧
    Interleaved (out.filterMap Handover.failure?) (Viewer.crashes v ran)
      (told ++ queue.filterMap Handover.failure?)

def Shows [Viewer τ] (F : Pipeline σ ρ → Prop) (t : Trampoline)
    (handling : FailureHandling) (v : τ) (out : List Handover) (s : Session σ ρ τ) : Prop :=
  ∃ queue ran, Showing t handling v out queue ran s ∧ ∃ p, F p ∧ s.others = [p]

variable [Viewer τ] {t : Trampoline} {handling : FailureHandling} {v : τ}
  {out queue : List Handover} {ran : List (List Event)}

theorem Showing.behind (showing : Showing t handling v out queue ran s) (behind : Behind F s s') :
    Showing t handling v out queue ran s' := by
  rw [behind.only]
  exact ⟨showing.trampoline, showing.gentle, showing.handled, showing.idle, showing.running,
    showing.viewers, showing.heard, showing.pending, showing.deliveries, showing.failures⟩

theorem Showing.shows (showing : Showing t handling v out queue ran s) (behind : Behind F s s') :
    Shows F t handling v out s' :=
  ⟨queue, ran, showing.behind behind, behind.alone⟩

theorem Showing.push (showing : Showing t handling v out queue ran s) (h : Handover) :
    Showing t handling v (out ++ [h]) (queue ++ [h]) ran (s.push (h.task 0)) := by
  refine ⟨showing.trampoline, showing.gentle, showing.handled, showing.idle, showing.running,
    showing.viewers, showing.heard, ?_, ?_, ?_⟩
  · simp [Session.push, showing.pending]
  · rw [List.filterMap_append, List.filterMap_append, ← showing.deliveries, List.append_assoc]
  · obtain ⟨told, kept, order⟩ := showing.failures
    refine ⟨told, kept, ?_⟩
    cases h with
    | deliver events => simpa [Handover.failure?, List.filterMap_cons] using order
    | surface failure => simpa [Handover.failure?] using order.left failure

omit [Viewer τ] in
theorem handleOnly (s : Session σ ρ τ) (failure : Failure) : ∃ log,
    s.handle failure = { s with
      log, failures := if s.handling.keeps then s.failures ++ [failure] else s.failures } := by
  obtain ⟨trampoline, handling, rest⟩ := s
  cases handling <;> exact ⟨_, rfl⟩

theorem Showing.relieved {failure : Failure}
    (showing : Showing t handling v out (.surface failure :: queue) ran s) :
    Showing t handling v out queue ran
      { ({ s with pending := [] } : Session σ ρ τ).handle failure with
        pending := queue.map (Handover.task 0) } := by
  obtain ⟨told, kept, order⟩ := showing.failures
  obtain ⟨log, only⟩ := handleOnly ({ s with pending := [] } : Session σ ρ τ) failure
  rw [only]
  refine ⟨showing.trampoline, showing.gentle, showing.handled, showing.idle, showing.running,
    showing.viewers, showing.heard, rfl, showing.deliveries, told ++ [failure], ?_, ?_⟩
  · simp only [showing.handled, kept]
    split <;> rfl
  · simpa [Handover.failure?] using order

theorem Showing.delivered {events : List Event}
    (showing : Showing t handling v out (.deliver events :: queue) ran s) :
    let now := play Viewer.attend v ran
    let left := queue ++ Viewer.crash now events
    Showing t handling v out left (ran ++ [events])
      { s.taken 0 (Viewer.takeIn now events) with pending := left.map (Handover.task 0) } := by
  intro now left
  refine ⟨showing.trampoline, showing.gentle, showing.handled, showing.idle, showing.running,
    ?_, ?_, rfl, ?_, ?_⟩
  · simp [taken, showing.viewers, now, Viewer.attend]
  · simp [taken, showing.heard, Viewer.hearing, now]
  · rw [← showing.deliveries]
    simp [left, Viewer.crash, Handover.delivery?]
  · obtain ⟨told, kept, order⟩ := showing.failures
    refine ⟨told, kept, ?_⟩
    rw [Viewer.crashes, seenSnoc]
    change Interleaved _ (Viewer.crashes v ran ++ (Viewer.takeIn now events).panic.toList.map _) _
    simp only [left, Viewer.crash]
    cases (Viewer.takeIn now events).panic with
    | none => simpa [Handover.failure?, List.filterMap_cons] using order
    | some payload =>
      simpa [Handover.failure?, List.filterMap_cons] using order.right (.ofPanic payload)

theorem deliverBehind (returns : ∀ p b, F p → F (Pipeline.takeBack p b))
    (idle : s.controller.pipeline = none) (alone : ∃ p, F p ∧ s.others = [p])
    (here : s.viewers = [v]) (events : List Event) (waiting : List MainTask) :
    let turn := runTask (.deliver 0 events) waiting s
    Behind F (s.taken 0 (Viewer.takeIn v events)) turn.state ∧
      turn.posted = (Viewer.crash v events).map (Handover.task 0) := by
  have only : s.viewers[0]? = some v := by simp [here]
  simp only [runTask, receiveTaken only, Viewer.crash]
  generalize taken : s.taken 0 (Viewer.takeIn v events) = s'
  have behind (released : List Frame) : Behind F s' (s'.reclaim released waiting) := by
    refine Behind.reclaim returns ?_ (.refl ?_) released waiting
    · rw [← taken]
      exact idle
    · rw [← taken]
      exact alone
  cases (Viewer.takeIn v events).panic with
  | none => exact ⟨behind _, rfl⟩
  | some payload => exact ⟨(behind _).note _, rfl⟩

theorem turnShows (returns : ∀ p b, F p → F (Pipeline.takeBack p b))
    (before : Shows F t handling v out s) :
    Shows F t handling v out s.turn := by
  obtain ⟨queue, ran, showing, alone⟩ := before
  unfold turn
  cases queue with
  | nil =>
    have empty : s.pending = [] := showing.pending
    simp only [empty]
    exact ⟨[], ran, showing, alone⟩
  | cons h rest =>
    have pending : s.pending = h.task 0 :: rest.map (Handover.task 0) := showing.pending
    simp only [pending]
    cases h with
    | surface failure =>
      simp only [Handover.task, runTask, List.append_nil]
      refine ⟨rest, ran, showing.relieved, ?_⟩
      obtain ⟨log, only⟩ := handleOnly ({ s with pending := [] } : Session σ ρ τ) failure
      rw [only]
      exact alone
    | deliver events =>
      obtain ⟨behind, posted⟩ := deliverBehind (s := { s with pending := [] }) returns showing.idle
        alone showing.viewers events (rest.map (Handover.task 0))
      have queued := behind.queueing
        ((rest ++ Viewer.crash (play Viewer.attend v ran) events).map (Handover.task 0))
      simp only [Handover.task, posted]
      rw [← List.map_append]
      exact ⟨_, _, showing.delivered.behind queued, queued.alone⟩

theorem postShows (returns : ∀ p b, F p → F (Pipeline.takeBack p b))
    (before : Shows F t handling v out s) (empty : t = .inline → s.pending = []) (h : Handover) :
    (s.post (h.task 0)).1 = none ∧ Shows F t handling v (out ++ [h]) (s.post (h.task 0)).2 ∧
      (t = .inline → (s.post (h.task 0)).2.pending = []) := by
  obtain ⟨queue, ran, showing, alone⟩ := before
  have pushed : Shows F t handling v (out ++ [h]) (s.push (h.task 0)) :=
    ⟨queue ++ [h], ran, showing.push h, alone⟩
  have gentle : s.handling.IsGentle := showing.handled ▸ showing.gentle
  cases t with
  | pump =>
    rw [postPumped showing.trampoline]
    exact ⟨rfl, pushed, nofun⟩
  | inline =>
    rw [postInline showing.trampoline]
    obtain ⟨turns, left⟩ := inlineTurns (empty rfl) (h.task 0)
    exact ⟨inlineQuiet gentle (h.task 0),
      turns ▸ turnShows returns (turnShows returns pushed), fun _ => left⟩

theorem Shows.all (shown : Shows F t handling v out s) (empty : s.pending = []) :
    s.heard = (Viewer.hearing v (out.filterMap Handover.delivery?)).map (0, ·) ∧
      ∃ told, s.failures = (if handling.keeps then told else []) ∧
        Interleaved (out.filterMap Handover.failure?)
          (Viewer.crashes v (out.filterMap Handover.delivery?)) told := by
  obtain ⟨queue, ran, showing, -⟩ := shown
  have none : queue = [] := by simpa [empty] using showing.pending
  have deliveries := showing.deliveries
  obtain ⟨told, kept, order⟩ := showing.failures
  rw [none, List.filterMap_nil, List.append_nil] at deliveries order
  rw [← deliveries]
  exact ⟨showing.heard, told, kept, order⟩

end Session
end VideoPreview
