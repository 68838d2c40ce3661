import Mathlib.Data.List.Nodup
import VideoPreview.Proofs.Drawing
import VideoPreview.Proofs.Reception

/-! Who holds which frame, and what happens when a frame is let go of: its buffer goes back to the
pool of its own pipeline, as long as that is open, and nothing else changes. -/
namespace VideoPreview

variable {σ ρ τ : Type}

structure Pipeline.Own (p : Pipeline σ ρ) : Prop where
  worker : p.worker.pipeline = p.id
  frames : ∀ f ∈ p.frames, f.id.pipeline = p.id

def Pipeline.account? (p : Pipeline σ ρ) : Option Account :=
  if p.isOpen then some p.worker.account else none

def ofPipeline (id : Nat) (frames : List Frame) : List Frame :=
  frames.filter (·.id.pipeline = id)

@[simp] theorem memOfPipeline {id : Nat} {frames : List Frame} {f : Frame} :
    f ∈ ofPipeline id frames ↔ f ∈ frames ∧ f.id.pipeline = id := by
  simp [ofPipeline]

theorem ofPipelineAppend (id : Nat) (a b : List Frame) :
    ofPipeline id (a ++ b) = ofPipeline id a ++ ofPipeline id b :=
  List.filter_append ..

structure LetGo (before after back : List Frame) : Prop where
  once : back.Nodup
  all : ∀ f, f ∈ back ↔ f ∈ before ∧ f ∉ after

def Frame.goesBack (f : Frame) : Transfer := .takeBack f.id.number f.buffer

def Account.after (a : Account) (transfers : List Transfer) : Account :=
  { a with pool := play Pool.use a.pool (transfers.map Transfer.use) }

namespace Session

structure Numbered (s : Session σ ρ τ) : Prop where
  once : (s.pipelines.map (·.id)).Nodup
  made : ∀ p ∈ s.pipelines, p.id < s.pipelinesMade
  own : ∀ p ∈ s.pipelines, p.Own

theorem pipelinesPut (s : Session σ ρ τ) (p : Pipeline σ ρ) :
    (s.put p).pipelines = s.pipelines.map fun q => if q.id = p.id then p else q := by
  unfold pipelines put
  cases s.controller.pipeline <;> simp

theorem pipelinePut (s : Session σ ρ τ) (p : Pipeline σ ρ) (id : Nat) :
    (s.put p).pipeline? id = (s.pipeline? id).map fun q => if q.id = p.id then p else q := by
  have same : ((fun q : Pipeline σ ρ => decide (q.id = id)) ∘
      fun q => if q.id = p.id then p else q) = fun q => decide (q.id = id) := by
    funext q
    simp only [Function.comp_apply]
    split_ifs with h
    · rw [h]
    · rfl
  rw [pipeline?, pipelinesPut, List.find?_map, same, pipeline?]

theorem pipelineFound {s : Session σ ρ τ} {id : Nat} {p : Pipeline σ ρ}
    (found : s.pipeline? id = some p) : p ∈ s.pipelines ∧ p.id = id :=
  ⟨List.mem_of_find?_eq_some found, by simpa using List.find?_some found⟩

theorem Numbered.unique {s : Session σ ρ τ} (numbered : s.Numbered) {p q : Pipeline σ ρ}
    (found : s.pipeline? p.id = some q) (member : p ∈ s.pipelines) : p = q :=
  List.inj_on_of_nodup_map numbered.once member (pipelineFound found).1 (pipelineFound found).2.symm

theorem Numbered.put {s : Session σ ρ τ} (numbered : s.Numbered) {p q : Pipeline σ ρ}
    (found : s.pipeline? p.id = some q) (own : p.Own) :
    (s.put p).Numbered := by
  have ids : (s.put p).pipelines.map (·.id) = s.pipelines.map (·.id) := by
    rw [pipelinesPut, List.map_map]
    refine List.map_congr_left fun r _ => ?_
    simp only [Function.comp_apply]
    split_ifs with h
    · exact h.symm
    · rfl
  have swapped : ∀ r ∈ (s.put p).pipelines, r = p ∨ r ∈ s.pipelines := by
    intro r member
    rw [pipelinesPut] at member
    obtain ⟨r', inside, rfl⟩ := List.mem_map.mp member
    split_ifs
    · exact .inl rfl
    · exact .inr inside
  refine ⟨ids ▸ numbered.once, fun r member => ?_, fun r member => ?_⟩
  · rcases swapped r member with rfl | member
    · obtain ⟨member, same⟩ := pipelineFound found
      exact same ▸ numbered.made q member
    · exact numbered.made r member
  · rcases swapped r member with rfl | member
    · exact own
    · exact numbered.own r member

def account? (s : Session σ ρ τ) (id : Nat) : Option Account :=
  (s.pipeline? id).bind Pipeline.account?

theorem pipelinePutSelf {s : Session σ ρ τ} {p q : Pipeline σ ρ}
    (found : s.pipeline? p.id = some q) : (s.put p).pipeline? p.id = some p := by
  simp [pipelinePut, found, (pipelineFound found).2]

theorem pipelinePutOther (s : Session σ ρ τ) (p : Pipeline σ ρ) {id : Nat} (other : id ≠ p.id) :
    (s.put p).pipeline? id = s.pipeline? id := by
  rw [pipelinePut]
  cases found : s.pipeline? id with
  | none => rfl
  | some q => simp [(pipelineFound found).2, other]

theorem accountPut {s : Session σ ρ τ} {p q : Pipeline σ ρ} (found : s.pipeline? p.id = some q)
    (id : Nat) :
    (s.put p).account? id = if id = p.id then p.account? else s.account? id := by
  unfold account?
  split_ifs with same
  · rw [same, pipelinePutSelf found]
    rfl
  · rw [pipelinePutOther s p same]

structure Like (s s' : Session σ ρ τ) : Prop where
  made : s'.pipelinesMade = s.pipelinesMade
  account : ∀ id, s'.account? id = s.account? id

theorem Like.refl (s : Session σ ρ τ) : s.Like s := ⟨rfl, fun _ => rfl⟩

theorem putLike {s : Session σ ρ τ} {p q : Pipeline σ ρ} (found : s.pipeline? p.id = some q)
    (same : p.account? = q.account?) : s.Like (s.put p) := by
  refine ⟨rfl, fun id => ?_⟩
  rw [accountPut found, same]
  split_ifs with own
  · rw [own, account?, found]
    rfl
  · rfl

structure Returned (s s' : Session σ ρ τ) (back : List Frame) : Prop where
  only : s' = { s with controller := s'.controller, others := s'.others }
  held : s'.pipelines.flatMap Pipeline.frames = s.pipelines.flatMap Pipeline.frames
  numbered : s'.Numbered
  account : ∀ id, s'.account? id = (s.account? id).map
    (·.after ((ofPipeline id back).map Frame.goesBack))

theorem Returned.nothing {s : Session σ ρ τ} (numbered : s.Numbered) : Returned s s [] :=
  ⟨rfl, rfl, numbered, fun id => by cases s.account? id <;> rfl⟩

theorem Returned.made {s s' : Session σ ρ τ} {back : List Frame} (returned : Returned s s' back) :
    s'.pipelinesMade = s.pipelinesMade := by
  rw [returned.only]

theorem Returned.append {s s₁ s₂ : Session σ ρ τ} {back more : List Frame}
    (first : Returned s s₁ back) (second : Returned s₁ s₂ more) :
    Returned s s₂ (back ++ more) := by
  refine ⟨?_, second.held.trans first.held, second.numbered, fun id => ?_⟩
  · rw [second.only, first.only]
  · rw [second.account, first.account, Option.map_map, ofPipelineAppend, List.map_append]
    cases s.account? id with
    | none => rfl
    | some a => simp [Account.after, playAppend]

theorem giveBackReturned {s : Session σ ρ τ} (numbered : s.Numbered) (f : Frame) :
    Returned s (s.giveBack f) [f] := by
  have unchanged (id : Nat) (other : f.id.pipeline ≠ id ∨ s.account? id = none) :
      s.account? id = (s.account? id).map
        (·.after ((ofPipeline id [f]).map Frame.goesBack)) := by
    rcases other with other | none
    · cases s.account? id <;> simp [ofPipeline, other, Account.after, play]
    · simp [none]
  unfold giveBack openPipeline?
  cases found : s.pipeline? f.id.pipeline with
  | none =>
    refine ⟨rfl, rfl, numbered, fun id => unchanged id ?_⟩
    by_cases same : f.id.pipeline = id
    · exact .inr (by simp [account?, ← same, found])
    · exact .inl same
  | some p =>
    cases opened : p.isOpen with
    | false =>
      simp only [Option.filter_some, opened, Bool.false_eq_true, if_false]
      refine ⟨rfl, rfl, numbered, fun id => unchanged id ?_⟩
      by_cases same : f.id.pipeline = id
      · exact .inr (by simp [account?, ← same, found, Pipeline.account?, opened])
      · exact .inl same
    | true =>
      obtain ⟨member, same⟩ := pipelineFound found
      have own : (p.takeBack f.buffer).Own :=
        ⟨(numbered.own p member).worker, (numbered.own p member).frames⟩
      have here : s.pipeline? (p.takeBack f.buffer).id = some p := by
        rw [← found, ← same]
        rfl
      simp only [Option.filter_some, opened, if_true]
      refine ⟨rfl, ?_, numbered.put here own, fun id => ?_⟩
      · rw [pipelinesPut, List.flatMap_map]
        refine List.flatMap_congr fun q inside => ?_
        split_ifs with own
        · rw [numbered.unique (q := p) (own ▸ here) inside]
          rfl
        · rfl
      · rw [accountPut here]
        split_ifs with own
        · have mine : f.id.pipeline = id := same.symm.trans own.symm
          have kept : (p.takeBack f.buffer).isOpen = true := opened
          simp only [account?, ← mine, found, Option.bind_some, Pipeline.account?, opened, kept,
            if_true, Option.map_some]
          simp only [ofPipeline, decide_true, List.filter_cons_of_pos, List.filter_nil]
          rfl
        · exact unchanged id (.inl fun h => own (h ▸ same.symm))

theorem eraseDupsSpec (frames : List Frame) :
    let once := frames.eraseDupsBy fun a b => a.id = b.id
    once.Pairwise (·.id ≠ ·.id) ∧ (∀ f ∈ once, f ∈ frames) ∧
      ∀ f ∈ frames, ∃ g ∈ once, g.id = f.id := by
  -- the rest shrinks by all that look like the first
  generalize size : frames.length = n
  induction n using Nat.strongRecOn generalizing frames with
  | ind n ih =>
    cases frames with
    | nil => simp
    | cons f rest =>
      have others (g : Frame) : (g ∈ rest.filter fun g => decide (decide (g.id = f.id) = false)) ↔
          g ∈ rest ∧ g.id ≠ f.id := by simp
      have shorter : (rest.filter fun g => decide (decide (g.id = f.id) = false)).length < n := by
        rw [← size]
        exact Nat.lt_succ_of_le (List.length_filter_le ..)
      obtain ⟨apart, fewer, all⟩ := ih _ shorter _ rfl
      rw [List.eraseDupsBy_cons]
      refine ⟨List.pairwise_cons.mpr ⟨?_, apart⟩, ?_, ?_⟩
      · intro g member
        exact ((others g).mp (fewer g member)).2.symm
      · intro g member
        rcases List.mem_cons.mp member with rfl | later
        · exact List.mem_cons_self
        · exact List.mem_cons_of_mem _ ((others g).mp (fewer g later)).1
      · intro g member
        by_cases same : g.id = f.id
        · exact ⟨f, List.mem_cons_self, same.symm⟩
        · have later : g ∈ rest :=
            (List.mem_cons.mp member).resolve_left fun h => same (congrArg Frame.id h)
          obtain ⟨h, inside, like⟩ := all g ((others g).mpr ⟨later, same⟩)
          exact ⟨h, List.mem_cons_of_mem _ inside, like⟩

structure Released (s s' : Session σ ρ τ) (before after : List Frame) : Prop where
  numbered : s'.Numbered
  made : s'.pipelinesMade = s.pipelinesMade
  fewer : after ⊆ before
  account : ∀ id, ∃ back, s'.account? id = (s.account? id).map (·.after (back.map Frame.goesBack)) ∧
    ((∀ f ∈ ofPipeline id before, ∀ g ∈ ofPipeline id before, f.id = g.id → f = g) →
      LetGo (ofPipeline id before) (ofPipeline id after) back)

theorem Released.same {s s' : Session σ ρ τ} {before after : List Frame} (numbered : s'.Numbered)
    (like : s.Like s') (same : ∀ f, f ∈ after ↔ f ∈ before) : Released s s' before after := by
  refine ⟨numbered, like.made, fun f h => (same f).mp h,
    fun id => ⟨[], ?_, fun _ => ⟨.nil, fun f => ?_⟩⟩⟩
  · rw [like.account]
    cases s.account? id <;> rfl
  · simp [same f]

theorem Released.congr {s s' : Session σ ρ τ} {before before' after after' : List Frame}
    (released : Released s s' before after) (had : ∀ f, f ∈ before' ↔ f ∈ before)
    (has : ∀ f, f ∈ after' ↔ f ∈ after) : Released s s' before' after' := by
  refine ⟨released.numbered, released.made,
    fun f h => (had f).mpr (released.fewer ((has f).mp h)), fun id => ?_⟩
  obtain ⟨back, account, gone⟩ := released.account id
  refine ⟨back, account, fun distinct => ?_⟩
  obtain ⟨once, all⟩ := gone (by simpa only [memOfPipeline, had] using distinct)
  exact ⟨once, fun f => by simpa only [memOfPipeline, had, has] using all f⟩

theorem Released.note {s s' : Session σ ρ τ} {before after : List Frame}
    (released : Released s s' before after) (entries : List LogEntry) :
    Released s (s'.note entries) before after :=
  ⟨⟨released.numbered.once, released.numbered.made, released.numbered.own⟩, released.made,
    released.fewer, released.account⟩

theorem Released.since {s s₁ s' : Session σ ρ τ} {before after : List Frame}
    (released : Released s₁ s' before after) (like : s.Like s₁) : Released s s' before after :=
  ⟨released.numbered, released.made.trans like.made, released.fewer,
    fun id => like.account id ▸ released.account id⟩

variable [Viewer τ]

def elsewhere (s : Session σ ρ τ) : List Frame :=
  s.viewers.flatMap Viewer.frames ++ s.pending.flatMap MainTask.frames ++ s.kept.map Prod.snd

def beside (s : Session σ ρ τ) (id : Nat) : List Frame :=
  (s.pipelines.filter (·.id ≠ id)).flatMap Pipeline.frames ++ s.elsewhere

theorem framesElsewhere (s : Session σ ρ τ) :
    s.frames = s.pipelines.flatMap Pipeline.frames ++ s.elsewhere := by
  simp [frames, elsewhere]

theorem framesBeside {s : Session σ ρ τ} (numbered : s.Numbered) {id : Nat} {p : Pipeline σ ρ}
    (found : s.pipeline? id = some p) (f : Frame) :
    f ∈ s.frames ↔ f ∈ p.frames ∨ f ∈ s.beside id := by
  obtain ⟨member, rfl⟩ := pipelineFound found
  simp only [framesElsewhere, beside, List.mem_append, List.mem_flatMap, List.mem_filter,
    decide_eq_true_eq, ← or_assoc]
  refine or_congr_left ⟨?_, ?_⟩
  · rintro ⟨q, inside, held⟩
    by_cases same : q.id = p.id
    · rw [numbered.unique (same ▸ found) inside] at held
      exact .inl held
    · exact .inr ⟨q, ⟨inside, same⟩, held⟩
  · rintro (held | ⟨q, ⟨inside, -⟩, held⟩)
    · exact ⟨p, member, held⟩
    · exact ⟨q, inside, held⟩

theorem besidePut (s : Session σ ρ τ) (p : Pipeline σ ρ) :
    (s.put p).beside p.id = s.beside p.id := by
  have others : (s.put p).pipelines.filter (·.id ≠ p.id) = s.pipelines.filter (·.id ≠ p.id) := by
    rw [pipelinesPut]
    induction s.pipelines with
    | nil => rfl
    | cons q rest ih =>
      by_cases same : q.id = p.id
      · simpa [same] using ih
      · simpa [same] using ih
  rw [beside, others]
  rfl

theorem framesPut {s : Session σ ρ τ} (numbered : s.Numbered) {p q : Pipeline σ ρ}
    (found : s.pipeline? p.id = some q) (own : p.Own) (f : Frame) :
    f ∈ (s.put p).frames ↔ f ∈ p.frames ∨ f ∈ s.beside p.id := by
  rw [framesBeside (numbered.put found own) (pipelinePutSelf found), besidePut]

theorem Returned.frames {s s' : Session σ ρ τ} {back : List Frame} (returned : Returned s s' back) :
    s'.frames = s.frames := by
  rw [framesElsewhere, framesElsewhere, returned.held, returned.only]
  rfl

def freed (s : Session σ ρ τ) (released : List Frame) (waiting : List MainTask) : List Frame :=
  (released.filter fun f =>
    (s.frames ++ waiting.flatMap MainTask.frames).all fun h => h.id ≠ f.id).eraseDupsBy
      fun a b => a.id = b.id

theorem reclaimReturned {s : Session σ ρ τ} (numbered : s.Numbered) (released : List Frame)
    (waiting : List MainTask) :
    Returned s (s.reclaim released waiting) (s.freed released waiting) := by
  change Returned s ((s.freed released waiting).foldl giveBack s) _
  induction s.freed released waiting using List.reverseRecOn with
  | nil => exact .nothing numbered
  | append_singleton back f ih =>
    rw [List.foldl_append]
    exact ih.append (giveBackReturned ih.numbered f)

theorem freedIff {s : Session σ ρ τ} {released had : List Frame} {waiting : List MainTask}
    {id : Nat} (distinct : ∀ f ∈ ofPipeline id had, ∀ g ∈ ofPipeline id had, f.id = g.id → f = g)
    (fewer : s.frames ++ waiting.flatMap MainTask.frames ⊆ had) (given : released ⊆ had)
    (f : Frame) :
    f ∈ ofPipeline id (s.freed released waiting) ↔
      f ∈ ofPipeline id released ∧ f ∉ s.frames ++ waiting.flatMap MainTask.frames := by
  obtain ⟨-, erased, kept⟩ := eraseDupsSpec (released.filter fun f =>
    (s.frames ++ waiting.flatMap MainTask.frames).all fun h => h.id ≠ f.id)
  change (∀ f ∈ s.freed released waiting, _) at erased
  change (∀ f ∈ _, ∃ g ∈ s.freed released waiting, _) at kept
  simp only [memOfPipeline] at distinct ⊢
  generalize s.frames ++ waiting.flatMap MainTask.frames = held at *
  simp only [List.mem_filter, List.all_eq_true, decide_eq_true_eq] at erased kept
  constructor
  · rintro ⟨member, own⟩
    obtain ⟨inside, apart⟩ := erased f member
    exact ⟨⟨inside, own⟩, fun h => apart f h rfl⟩
  · rintro ⟨⟨inside, own⟩, gone⟩
    have apart : ∀ h ∈ held, h.id ≠ f.id := by
      intro h member same
      have equal := distinct h ⟨fewer member, same ▸ own⟩ f ⟨given inside, own⟩ same
      exact gone (equal ▸ member)
    obtain ⟨g, member, same⟩ := kept f ⟨inside, apart⟩
    have equal := distinct g ⟨given (erased g member).1, same ▸ own⟩ f ⟨given inside, own⟩ same
    exact ⟨equal ▸ member, own⟩

theorem reclaimReleased {s : Session σ ρ τ} (numbered : s.Numbered) (released : List Frame)
    (waiting : List MainTask) {before after : List Frame}
    (held : ∀ f, f ∈ after ↔ f ∈ s.frames ++ waiting.flatMap MainTask.frames)
    (fewer : after ⊆ before) (given : released ⊆ before)
    (all : ∀ f ∈ before, f ∈ after ∨ f ∈ released) :
    Released s (s.reclaim released waiting) before after := by
  have reclaimed := reclaimReturned numbered released waiting
  refine ⟨reclaimed.numbered, reclaimed.made, fewer, fun id =>
    ⟨_, reclaimed.account id, fun distinct => ⟨?_, fun f => ?_⟩⟩⟩
  · obtain ⟨apart, -⟩ := eraseDupsSpec (released.filter fun f =>
      (s.frames ++ waiting.flatMap MainTask.frames).all fun h => h.id ≠ f.id)
    refine List.Nodup.filter _ (apart.imp fun different same => different ?_)
    rw [same]
  · have freed := freedIff distinct (fun f h => fewer ((held f).mpr h)) given f
    rw [freed, ← held]
    simp only [memOfPipeline]
    constructor
    · rintro ⟨⟨inside, own⟩, gone⟩
      exact ⟨⟨given inside, own⟩, fun h => gone h.1⟩
    · rintro ⟨⟨inside, own⟩, gone⟩
      have left : f ∉ after := fun h => gone ⟨h, own⟩
      exact ⟨⟨(all f inside).resolve_left left, own⟩, left⟩

end Session
end VideoPreview
