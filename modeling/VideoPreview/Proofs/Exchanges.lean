import Mathlib.Data.List.Dedup
import VideoPreview.Proofs.Rounds
import VideoPreview.Synthetic.Bands
import VideoPreview.Synthetic.Video

/-! Every buffer of an open pipeline is accounted for, at any time and whatever became of the frames
until then: it is parked, it was dropped, or it belongs to one frame that somebody still holds. -/
namespace VideoPreview

theorem Custody.Kept.returns {live : Nat → Prop} {c : Custody} (kept : c.Kept live)
    (back : List Frame) (all : ∀ f ∈ back, live f.id.number)
    (once : (back.map (·.id.number)).Nodup) :
    (play Custody.move c (back.map Frame.goesBack)).Kept fun k =>
      live k ∧ ∀ f ∈ back, f.id.number ≠ k := by
  induction back generalizing c live with
  | nil => exact kept.congr fun k => by simp
  | cons f rest ih =>
    obtain ⟨apart, once⟩ := List.nodup_cons.mp once
    have first := kept.takeBack (all f List.mem_cons_self) f.buffer
    refine (ih first (fun g member => ⟨all g (List.mem_cons_of_mem _ member), fun same => ?_⟩)
      once).congr fun k => ?_
    · exact apart (List.mem_map.mpr ⟨g, member, same⟩)
    · simp only [List.mem_cons, forall_eq_or_imp, and_assoc, ne_comm]

theorem LetGo.none {had has back : List Frame} (gone : LetGo had has back) (all : had ⊆ has) :
    back = [] :=
  List.eq_nil_iff_forall_not_mem.mpr fun f member =>
    ((gone.all f).mp member).2 (all ((gone.all f).mp member).1)

theorem letGoNew {had has back : List Frame} {f : Frame} (shown : f ∈ has) :
    LetGo (f :: had) has back ↔ LetGo had has back := by
  have all (g : Frame) : (g ∈ f :: had ∧ g ∉ has) ↔ (g ∈ had ∧ g ∉ has) := by
    refine and_congr_left fun left => ?_
    exact ⟨fun h => (List.mem_cons.mp h).resolve_left fun same => left (same ▸ shown),
      List.mem_cons_of_mem f⟩
  exact ⟨fun gone => ⟨gone.once, fun g => (gone.all g).trans (all g)⟩,
    fun gone => ⟨gone.once, fun g => (gone.all g).trans (all g).symm⟩⟩

theorem LetGo.kept {had has back : List Frame} (gone : LetGo had has back) (fewer : has ⊆ had)
    (unique : ∀ f ∈ had, ∀ g ∈ had, f.id.number = g.id.number → f = g) {c : Custody}
    (kept : c.Kept fun k => ∃ f ∈ had, f.id.number = k) :
    (play Custody.move c (back.map Frame.goesBack)).Kept fun k => ∃ f ∈ has, f.id.number = k := by
  have inside (f : Frame) (member : f ∈ back) : f ∈ had := ((gone.all f).mp member).1
  have once : (back.map (·.id.number)).Nodup :=
    gone.once.map_on fun f member g other => unique f (inside f member) g (inside g other)
  refine (kept.returns back (fun f member => ⟨f, inside f member, rfl⟩) once).congr fun k => ?_
  constructor
  · rintro ⟨⟨f, held, rfl⟩, apart⟩
    by_cases still : f ∈ has
    · exact ⟨f, still, rfl⟩
    · exact absurd rfl (apart f ((gone.all f).mpr ⟨held, still⟩))
  · rintro ⟨f, held, rfl⟩
    refine ⟨⟨f, fewer held, rfl⟩, fun g member same => ?_⟩
    rw [unique g (inside g member) f (fewer held) same] at member
    exact ((gone.all f).mp member).2 held

namespace Session

variable {σ ρ τ : Type} [Viewer τ]

def held (s : Session σ ρ τ) (id : Nat) : List Frame := ofPipeline id s.frames

/-- What a move costs a pipeline that stays open. A buffer is taken for a frame that is made anew,
and for one whose making panics, which gives it straight back; a buffer goes back once nobody holds
its frame any more. -/
inductive Exchange (id : Nat) (s s' : Session σ ρ τ) : List Transfer → Prop where
  | returns {a : Account} {back : List Frame} (before : s.account? id = some a)
      (after : s'.account? id = some (a.after (back.map Frame.goesBack)))
      (fewer : s'.held id ⊆ s.held id) (gone : LetGo (s.held id) (s'.held id) back) :
      Exchange id s s' (back.map Frame.goesBack)
  | again {a : Account} (before : s.account? id = some a)
      (after : s'.account? id = some { a with reused := a.reused + 1 })
      (same : ∀ f, f ∈ s'.held id ↔ f ∈ s.held id) : Exchange id s s' []
  | frame {a : Account} {f : Frame} {rendered : Nat} {back : List Frame}
      (new : f.id = ⟨id, a.made⟩) (before : s.account? id = some a)
      (after : s'.account? id = some
        { a.after (.lend a.made f.buffer.size :: back.map Frame.goesBack) with
          made := a.made + 1
          rendered })
      (shown : f ∈ s'.held id) (fewer : s'.held id ⊆ f :: s.held id)
      (gone : LetGo (s.held id) (s'.held id) back) :
      Exchange id s s' (.lend a.made f.buffer.size :: back.map Frame.goesBack)
  | crash {a : Account} {rendered : Nat} (b : Buffer) (before : s.account? id = some a)
      (after : s'.account? id = some
        { a.after [.lend a.made b.size, .takeBack a.made b] with rendered })
      (once : rendered ∈ [a.rendered, a.rendered + 1])
      (same : ∀ f, f ∈ s'.held id ↔ f ∈ s.held id) :
      Exchange id s s' [.lend a.made b.size, .takeBack a.made b]

inductive History [FrameSource σ] [SubtitleRenderer ρ] (id : Nat) (start : Session σ ρ τ) :
    List (Move σ ρ τ) → List Transfer → Prop where
  | opened {moves m} (options : PoolOptions) (before : (start.run moves).account? id = none)
      (after : (start.run (moves ++ [m])).account? id = some (.fresh options)) :
      History id start (moves ++ [m]) []
  | goesOn {moves m history more} (earlier : History id start moves history)
      (exchange : Exchange id (start.run moves) (start.run (moves ++ [m])) more) :
      History id start (moves ++ [m]) (history ++ more)

structure Backed (id : Nat) (history : List Transfer) (s : Session σ ρ τ) (a : Account) :
    Prop where
  numbers : ∀ f ∈ s.held id, f.id.number < a.made
  distinct : ∀ f ∈ s.held id, ∀ g ∈ s.held id, f.id = g.id → f = g
  pool : (Custody.after a.pool.options history).pool = a.pool
  kept : (Custody.after a.pool.options history).Kept fun k => ∃ f ∈ s.held id, f.id.number = k

variable {s s' : Session σ ρ τ} {id : Nat} {a a' : Account}

theorem heldPipeline {f : Frame} (held : f ∈ s.held id) : f.id.pipeline = id :=
  (memOfPipeline.mp held).2

theorem Backed.unique {history : List Transfer} (backed : Backed id history s a) {f g : Frame}
    (held : f ∈ s.held id) (held' : g ∈ s.held id) (number : f.id.number = g.id.number) :
    f = g := by
  refine backed.distinct f held g held' ?_
  have first := heldPipeline held
  have second := heldPipeline held'
  cases hf : f.id
  cases hg : g.id
  simp_all

theorem Backed.extend {history more : List Transfer} (backed : Backed id history s a)
    (pool : a'.pool = (a.after more).pool) (numbers : ∀ f ∈ s'.held id, f.id.number < a'.made)
    (distinct : ∀ f ∈ s'.held id, ∀ g ∈ s'.held id, f.id = g.id → f = g)
    (kept : (play Custody.move (Custody.after a.pool.options history) more).Kept
      fun k => ∃ f ∈ s'.held id, f.id.number = k) : Backed id (history ++ more) s' a' := by
  have options : a'.pool.options = a.pool.options := by
    rw [pool]
    exact Pool.usesOptions a.pool _
  have whole : Custody.after a'.pool.options (history ++ more) =
      play Custody.move (Custody.after a.pool.options history) more := by
    rw [options, Custody.after, playAppend]
    rfl
  refine ⟨numbers, distinct, ?_, whole ▸ kept⟩
  rw [whole, Custody.movesPool, backed.pool, pool]
  rfl

theorem exchangeBacked {history more : List Transfer} (backed : Backed id history s a)
    (before : s.account? id = some a) (after : s'.account? id = some a')
    (exchange : Exchange id s s' more) : Backed id (history ++ more) s' a' := by
  have unique : ∀ f ∈ s.held id, ∀ g ∈ s.held id, f.id.number = g.id.number → f = g :=
    fun f held g held' => backed.unique held held'
  cases exchange with
  | returns before' after' fewer gone =>
    cases before.symm.trans before'
    cases after.symm.trans after'
    exact backed.extend rfl (fun f held => backed.numbers f (fewer held))
      (fun f held g held' => backed.distinct f (fewer held) g (fewer held'))
      (gone.kept fewer unique backed.kept)
  | again before' after' same =>
    cases before.symm.trans before'
    cases after.symm.trans after'
    refine backed.extend rfl (fun f held => backed.numbers f ((same f).mp held))
      (fun f held g held' => backed.distinct f ((same f).mp held) g ((same g).mp held')) ?_
    exact backed.kept.congr fun k => by simp only [same]
  | @frame _ f rendered back new before' after' shown fewer gone =>
    cases before.symm.trans before'
    cases after.symm.trans after'
    have number : f.id.number = a.made := by rw [new]
    have newest : ∀ g ∈ s.held id, g.id.number ≠ f.id.number := by
      intro g held
      have below := backed.numbers g held
      omega
    have unique :
        ∀ g ∈ f :: s.held id, ∀ h ∈ f :: s.held id, g.id.number = h.id.number → g = h := by
      intro g held h held' same
      rcases List.mem_cons.mp held with rfl | old <;> rcases List.mem_cons.mp held' with rfl | old'
      · rfl
      · exact absurd same.symm (newest h old')
      · exact absurd same (newest g old)
      · exact unique g old h old' same
    have gone := (letGoNew shown).mpr gone
    refine backed.extend rfl (fun g held => ?_)
      (fun g held h held' same => unique g (fewer held) h (fewer held') (congrArg _ same)) ?_
    · rcases List.mem_cons.mp (fewer held) with rfl | held
      · exact number ▸ Nat.lt_succ_self _
      · exact Nat.lt_succ_of_lt (backed.numbers g held)
    · have free : ¬ ∃ g ∈ s.held id, g.id.number = a.made := by
        rintro ⟨g, held, same⟩
        exact newest g held (same.trans number.symm)
      refine gone.kept fewer unique ((backed.kept.lend free f.buffer.size).congr fun k => ?_)
      simp only [List.mem_cons, exists_eq_or_imp, number]
      rw [or_comm, eq_comm (a := k)]
  | crash b before' after' once same =>
    cases before.symm.trans before'
    cases after.symm.trans after'
    have free : ¬ ∃ g ∈ s.held id, g.id.number = a.made := by
      rintro ⟨g, held, same⟩
      exact absurd (backed.numbers g held) (same ▸ Nat.lt_irrefl _)
    refine backed.extend rfl (fun f held => backed.numbers f ((same f).mp held))
      (fun f held g held' => backed.distinct f ((same f).mp held) g ((same g).mp held')) ?_
    refine ((backed.kept.lend free b.size).takeBack (.inr rfl) b).congr fun k => ?_
    simp only [same]
    constructor
    · rintro ⟨held | rfl, other⟩
      · exact held
      · exact absurd rfl other
    · rintro ⟨f, held, rfl⟩
      exact ⟨.inl ⟨f, held, rfl⟩, Nat.ne_of_lt (backed.numbers f held)⟩

theorem heldSubset {had has : List Frame} (fewer : has ⊆ had) :
    ofPipeline id has ⊆ ofPipeline id had := fun _ held =>
  memOfPipeline.mpr ((memOfPipeline.mp held).imp_left (fewer ·))

omit [Viewer τ] in
theorem accountFound (numbered : s.Numbered) (account : s.account? id = some a) :
    ∃ p, s.pipeline? id = some p ∧ p.isOpen = true ∧ p.worker.account = a ∧
      id < s.pipelinesMade := by
  obtain ⟨p, found, mine⟩ := Option.bind_eq_some_iff.mp account
  obtain ⟨member, rfl⟩ := pipelineFound found
  unfold Pipeline.account? at mine
  split at mine
  case isTrue opened => exact ⟨p, found, opened, Option.some.inj mine, numbered.made p member⟩
  case isFalse => cases mine

theorem sameExchange (before : s.account? id = some a) (account : s'.account? id = s.account? id)
    (same : ∀ f, f ∈ s'.held id ↔ f ∈ s.held id) : Exchange id s s' [] := by
  have gone : LetGo (s.held id) (s'.held id) [] := ⟨.nil, fun f => by simp [same f]⟩
  refine .returns before ?_ (fun f held => (same f).mp held) gone
  rw [account, before]
  rfl

omit [Viewer τ] in
theorem drawnOwn (numbered : s.Numbered) {p p' : Pipeline σ ρ} {shown : List Frame}
    (found : s.pipeline? p'.id = some p) (drawn : p.worker.Drawn p'.worker shown) :
    ∀ f ∈ shown, f.id.pipeline = p'.id := by
  obtain ⟨member, same⟩ := pipelineFound found
  obtain ⟨worker, frames⟩ := numbered.own p member
  intro f held
  rcases drawn.frames.2 f held with before | new
  · exact (frames f (List.mem_append_left _ (List.mem_append_left _ before))).trans same
  · rw [new]
    exact worker.trans same

theorem drawnExchange {w w' : Worker σ ρ} {shown back : List Frame} (drawn : w.Drawn w' shown)
    (pipeline : w.pipeline = id) (before : s.account? id = some w.account)
    (after : s'.account? id = some (w'.account.after (back.map Frame.goesBack)))
    (numbers : ∀ f ∈ s.held id, f.id.number < w.account.made)
    (distinct : ∀ f ∈ s.held id, ∀ g ∈ s.held id, f.id = g.id → f = g)
    (last : w.frames ⊆ s.held id) (given : shown ⊆ s'.held id)
    (fewer : s'.held id ⊆ shown ++ s.held id)
    (kept : w'.frames = w.frames → s.held id ⊆ s'.held id)
    (gone : (∀ f ∈ shown ++ s.held id, ∀ g ∈ shown ++ s.held id, f.id = g.id → f = g) →
      LetGo (shown ++ s.held id) (s'.held id) back) : ∃ more, Exchange id s s' more := by
  cases drawn with
  | nothing account =>
    rw [account] at after
    exact ⟨_, .returns before after fewer (gone distinct)⟩
  | @again f account same shown =>
    have same := kept same
    have held : [f] ++ s.held id ⊆ s.held id := by simpa using last shown
    obtain rfl := (gone fun g hg h hh => distinct g (held hg) h (held hh)).none
      (List.Subset.trans held same)
    rw [account] at after
    exact ⟨_, .again before after fun g => ⟨fun h => held (fewer h), (same ·)⟩⟩
  | @frame f new account =>
    have shown : f ∈ s'.held id := given List.mem_cons_self
    have newest : ∀ g ∈ s.held id, f.id ≠ g.id := by
      intro g held same
      have below := numbers g held
      rw [← same, new] at below
      exact absurd below (Nat.lt_irrefl _)
    have gone := gone <| by
      intro g held h held' same
      rcases List.mem_cons.mp held with rfl | old <;> rcases List.mem_cons.mp held' with rfl | old'
      · rfl
      · exact absurd same (newest h old')
      · exact absurd same.symm (newest g old)
      · exact distinct g old h old' same
    rw [account] at after
    exact ⟨_, .frame (pipeline ▸ new) before after shown fewer ((letGoNew shown).mp gone)⟩
  | crash b account once same =>
    have same := kept same
    obtain rfl := (gone distinct).none same
    rw [account] at after
    exact ⟨_, .crash b before after once fun f => ⟨(fewer ·), (same ·)⟩⟩

theorem effectExchange (numbered : s.Numbered) (effect : Effect s s')
    (before : s.account? id = some a) (after : s'.account? id = some a')
    (numbers : ∀ f ∈ s.held id, f.id.number < a.made)
    (distinct : ∀ f ∈ s.held id, ∀ g ∈ s.held id, f.id = g.id → f = g) :
    ∃ more, Exchange id s s' more := by
  obtain ⟨q, here, opened, account, below⟩ := accountFound numbered before
  cases effect with
  | settles released =>
    obtain ⟨back, settled, gone⟩ := released.account id
    rw [before] at settled
    exact ⟨_, .returns before settled (heldSubset released.fewer) (gone distinct)⟩
  | opens options n made new others frames =>
    refine ⟨_, sameExchange before (others id (Nat.ne_of_lt below)) fun f => ?_⟩
    simp only [held, memOfPipeline, frames]
  | shuts i n made gone others fewer kept =>
    have other : id ≠ i := by
      rintro rfl
      exact absurd (gone.symm.trans after) (Option.some_ne_none a').symm
    refine ⟨_, sameExchange before (others id other) fun f => ?_⟩
    simp only [held, memOfPipeline]
    exact and_congr_left fun own => ⟨(fewer ·), fun h => kept f h (own ▸ other)⟩
  | @computes p p' shown found open' drawn given released kept =>
    obtain ⟨back, settled, gone⟩ := released.account id
    rw [accountPut found] at settled
    rw [ofPipelineAppend] at gone
    obtain ⟨member, same⟩ := pipelineFound found
    obtain ⟨worker, frames⟩ := numbered.own p member
    have own := drawnOwn numbered found drawn
    by_cases mine : id = p'.id
    · subst mine
      have all : ofPipeline p'.id shown = shown := by
        simpa [ofPipeline] using own
      obtain rfl : p = q := Option.some.inj (found.symm.trans here)
      have open' : p'.account? = some p'.worker.account := if_pos (open'.trans opened)
      rw [if_pos rfl, open'] at settled
      rw [all] at gone
      refine drawnExchange drawn (worker.trans same) (account ▸ before) settled
        (account ▸ numbers) distinct (fun f held => ?_) (fun f held => ?_) (fun f held => ?_)
        (fun still f held => ?_) gone
      · have mine : f ∈ p.frames := List.mem_append_left _ (List.mem_append_left _ held)
        exact memOfPipeline.mpr
          ⟨(framesBeside numbered found f).mpr (.inl mine), (frames f mine).trans same⟩
      · exact memOfPipeline.mpr ⟨given held, own f held⟩
      · have held := heldSubset released.fewer held
        rwa [ofPipelineAppend, all] at held
      · exact heldSubset (kept still) held
    · have none : ofPipeline id shown = [] := by
        simp only [ofPipeline, List.filter_eq_nil_iff, decide_eq_true_eq]
        exact fun f held same => mine (same.symm.trans (own f held))
      rw [none, List.nil_append] at gone
      rw [if_neg mine, before] at settled
      refine ⟨_, .returns before settled (fun f held => ?_) (gone distinct)⟩
      have held := heldSubset released.fewer held
      rw [ofPipelineAppend, none] at held
      exact held

theorem freshBacked (options : PoolOptions) (none : s.held id = []) :
    Backed id [] s (.fresh options) := by
  refine ⟨?_, ?_, rfl, ?_⟩
  · simp [none]
  · simp [none]
  · exact (Custody.startKept options).congr fun k => by simp [none]

def Bounded (s : Session σ ρ τ) : Prop := ∀ f ∈ s.frames, f.id.pipeline < s.pipelinesMade

theorem effectBounded (numbered : s.Numbered) (bounded : s.Bounded) (effect : Effect s s') :
    s'.Numbered ∧ s'.Bounded := by
  cases effect with
  | settles released =>
    exact ⟨released.numbered, fun f held => released.made ▸ bounded f (released.fewer held)⟩
  | opens options n made new others frames =>
    exact ⟨n, fun f held => made ▸ Nat.lt_succ_of_lt (bounded f ((frames f).mp held))⟩
  | shuts i n made gone others fewer => exact ⟨n, fun f held => made ▸ bounded f (fewer held)⟩
  | computes found open' drawn given released =>
    refine ⟨released.numbered, fun f held => ?_⟩
    rw [released.made]
    obtain ⟨member, same⟩ := pipelineFound found
    rcases List.mem_append.mp (released.fewer held) with shown | before
    · rw [drawnOwn numbered found drawn f shown, ← same]
      exact numbered.made _ member
    · exact bounded f before

theorem effectOpens (bounded : s.Bounded) (effect : Effect s s')
    (before : s.account? id = none) (after : s'.account? id = some a') :
    ∃ options, a' = .fresh options ∧ s'.held id = [] := by
  cases effect with
  | settles released =>
    obtain ⟨back, settled, -⟩ := released.account id
    simp [after, before] at settled
  | opens options n made new others frames =>
    by_cases mine : id = s.pipelinesMade
    · subst mine
      refine ⟨options, Option.some.inj (after.symm.trans new), ?_⟩
      simp only [held, ofPipeline, List.filter_eq_nil_iff, decide_eq_true_eq]
      exact fun f held => Nat.ne_of_lt (bounded f ((frames f).mp held))
    · simp [others id mine, before] at after
  | shuts i n made gone others fewer =>
    by_cases mine : id = i
    · subst mine
      simp [gone] at after
    · simp [others id mine, before] at after
  | computes found open' drawn given released =>
    obtain ⟨back, settled, -⟩ := released.account id
    rw [accountPut found, after] at settled
    split_ifs at settled with mine
    · rw [mine, account?, found] at before
      simp only [Option.bind_some, Pipeline.account?] at before settled
      rw [open'] at settled
      split_ifs at before settled
      simp at settled
    · simp [before] at settled

section

variable [FrameSource σ] [SubtitleRenderer ρ]

structure Kept (start : Session σ ρ τ) (moves : List (Move σ ρ τ)) (s : Session σ ρ τ) : Prop where
  numbered : s.Numbered
  bounded : s.Bounded
  backed : ∀ id a, s.account? id = some a → ∃ history, History id start moves history ∧
    Backed id history s a

theorem startKept {trampoline : Trampoline} {handling : FailureHandling}
    {options : DispatchOptions} {start : Session σ ρ τ}
    (started : Session.start trampoline handling options = .ok start) : Kept start [] start := by
  unfold Session.start at started
  split at started
  case h_1 => cases started
  case h_2 =>
    cases started
    exact ⟨⟨.nil, fun p h => (nomatch h), fun p h => (nomatch h)⟩, fun f h => (nomatch h),
      fun id a h => (nomatch h)⟩

theorem runKept {start : Session σ ρ τ} (first : Kept start [] start) (moves : List (Move σ ρ τ)) :
    Kept start moves (start.run moves) := by
  induction moves using List.reverseRecOn with
  | nil => exact first
  | append_singleton moves m ih =>
    have last : start.run (moves ++ [m]) = (start.run moves).step m := playSnoc ..
    have effect := stepEffect ih.numbered m
    obtain ⟨numbered, bounded⟩ := effectBounded ih.numbered ih.bounded effect
    rw [last]
    refine ⟨numbered, bounded, fun id a' after => ?_⟩
    cases before : (start.run moves).account? id with
    | none =>
      obtain ⟨options, rfl, none⟩ := effectOpens ih.bounded effect before after
      exact ⟨[], .opened options before (last ▸ after), freshBacked options none⟩
    | some a =>
      obtain ⟨history, earlier, backed⟩ := ih.backed id a before
      obtain ⟨more, exchange⟩ :=
        effectExchange ih.numbered effect before after backed.numbers backed.distinct
      exact ⟨_, .goesOn earlier (last ▸ exchange), exchangeBacked backed before after exchange⟩

end

structure Accounted (id : Nat) (history : List Transfer) (s : Session σ ρ τ)
    (p : Pipeline σ ρ) : Prop where
  distinct : ∀ f ∈ s.held id, ∀ g ∈ s.held id, f.id = g.id → f = g
  pool : (Custody.after p.worker.pool.options history).pool = p.worker.pool
  kept : (Custody.after p.worker.pool.options history).Kept
    fun k => ∃ f ∈ s.held id, f.id.number = k
  apart : ∀ parked ∈ (Custody.after p.worker.pool.options history).shelf,
    ∀ pair ∈ (Custody.after p.worker.pool.options history).lent, parked.1 ≠ pair.2
  balance : p.poolStats.allocatedBuffers =
    p.poolStats.parkedBuffers + p.poolStats.dropped + (s.held id).dedup.length

theorem buffersAccounted [FrameSource σ] [SubtitleRenderer ρ] {trampoline : Trampoline}
    {handling : FailureHandling} {options : DispatchOptions} {start : Session σ ρ τ}
    (started : Session.start trampoline handling options = .ok start)
    (moves : List (Move σ ρ τ)) {id : Nat} {p : Pipeline σ ρ}
    (opened : (start.run moves).openPipeline? id = some p) :
    ∃ history, History id start moves history ∧ Accounted id history (start.run moves) p := by
  obtain ⟨found, isOpen, -⟩ := openFound opened
  have account : (start.run moves).account? id = some p.worker.account := by
    rw [account?, found]
    exact if_pos isOpen
  obtain ⟨history, happened, backed⟩ := (runKept (startKept started) moves).backed id _ account
  refine ⟨history, happened, backed.distinct, backed.pool, backed.kept, backed.kept.apart, ?_⟩
  have once : (((start.run moves).held id).dedup.map (·.id.number)).Nodup :=
    (List.nodup_dedup _).map_on fun f held g held' =>
      backed.unique (List.mem_dedup.mp held) (List.mem_dedup.mp held')
  have balance := backed.kept.balance _ once fun k => by simp
  rwa [backed.pool, List.length_map] at balance

theorem buffersAccountedOnDisplay :
    let source : SyntheticStream := ⟨{ SyntheticVideo.default with width := 1, height := 1 },
      "TV.601"⟩
    let moves : List (Move SyntheticStream BandRenderer Display) :=
      [.addViewer .blank, .openPipeline "a.mkv" (.ok source) .default 0 .default,
        .ask 0 (.display 1 40), .work 0, .work 0, .main, .ask 0 (.fetch 2 80 true), .work 0,
        .pickUp 0 (some "kept"), .ask 0 (.display 3 120), .work 0, .work 0, .main,
        .discard "kept", .ask 0 (.display 4 160), .work 0]
    ∃ start, Session.start .pump .record .singleThreaded = .ok start ∧
      ∃ p, (start.run moves).openPipeline? 0 = some p ∧ p.poolStats = ⟨1, 4, 1, 3, 12, 0⟩ ∧
        ∃ history, History 0 start moves history ∧ Accounted 0 history (start.run moves) p := by
  intro source moves
  have started : Session.start .pump .record .singleThreaded =
      .ok (_ : Session SyntheticStream BandRenderer Display) := rfl
  refine ⟨_, started, ?_⟩
  generalize same : (Session.run _ moves).openPipeline? 0 = found
  have stats : found.map (·.poolStats) = some ⟨1, 4, 1, 3, 12, 0⟩ := by
    rw [← same]
    decide +kernel
  obtain ⟨p, here, stats⟩ := Option.map_eq_some_iff.mp stats
  exact ⟨p, here, stats, buffersAccounted started moves (same.trans here)⟩

end Session
end VideoPreview
