import VideoPreview.Dispatch.Errand

/-! Running the main loop until nothing is left, or until something holds. What is waiting and what
is posted meanwhile runs once, in the order of posting, level by level; a loop that stops early has
run the first items of this order and goes on with the others when it is run again. -/
namespace VideoPreview

namespace MainLoop

structure Ran (ι : Type) where
  item : ι
  posted : List ι

def postedBy {ι : Type} (ran : List (Ran ι)) : List ι := ran.flatMap Ran.posted

inductive Levels {ι : Type} : List ι → List (Ran ι) → Prop where
  | none : Levels [] []
  | next {items : List ι} {level later : List (Ran ι)} (here : level.map Ran.item = items)
      (below : Levels (postedBy level) later) : Levels items (level ++ later)

variable {ι ς : Type} [MainItem ι ς] {pending left : List ι} {s t last : ς}
  {ran order : List (Ran ι)}

inductive Runs : List ι → ς → List (Ran ι) → List ι → ς → Prop where
  | none (pending : List ι) (s : ς) : Runs pending s [] pending s
  | next {i : ι} {rest left : List ι} {s t : ς} {ran : List (Ran ι)}
      (quiet : (MainItem.run i rest s).panic = none)
      (later : Runs (rest ++ (MainItem.run i rest s).posted) (MainItem.run i rest s).state ran
        left t) :
      Runs (i :: rest) s (⟨i, (MainItem.run i rest s).posted⟩ :: ran) left t

def Calm (pending : List ι) (s : ς) : Prop :=
  ∀ ran i rest t, Runs pending s ran (i :: rest) t → (MainItem.run i rest t).panic = none

def runUntilEach : List (ς → Bool) → List ι → ς → Drained ι ς
  | [], pending, s => ⟨s, pending, 0, .ok true⟩
  | done :: dones, pending, s =>
    let first := runUntil done 0 pending s
    match first.answer with
    | .error _ => first
    | .ok _ =>
      let later := runUntilEach dones first.pending first.state
      { later with ran := first.ran + later.ran }

theorem Runs.trans {between : List ι} {u : ς} {later : List (Ran ι)}
    (first : Runs pending s ran between u) (second : Runs between u later left t) :
    Runs pending s (ran ++ later) left t := by
  induction first with
  | none => exact second
  | next quiet _ ih => exact .next quiet (ih second)

theorem Calm.after (calm : Calm pending s) (runs : Runs pending s ran left t) : Calm left t :=
  fun later i rest u more => calm (ran ++ later) i rest u (runs.trans more)

theorem Runs.rest (runs : Runs pending s ran left t) (whole : Runs pending s order [] last) :
    ∃ later, order = ran ++ later ∧ Runs left t later [] last := by
  induction runs generalizing order with
  | none => exact ⟨order, rfl, whole⟩
  | next quiet _ ih =>
    cases whole with
    | next _ whole =>
      obtain ⟨later, rfl, more⟩ := ih whole
      exact ⟨later, rfl, more⟩

theorem Runs.nothing (runs : Runs ([] : List ι) s ran left t) : ran = [] := by
  cases runs
  rfl

theorem Runs.queued (runs : Runs pending s ran left t) :
    pending ++ postedBy ran = ran.map Ran.item ++ left := by
  induction runs with
  | none => simp [postedBy]
  | next quiet _ ih => simpa [postedBy] using ih

theorem Runs.level {front back : List ι} (runs : Runs (front ++ back) s order [] last) :
    ∃ level later u, order = level ++ later ∧ level.map Ran.item = front ∧
      Runs (back ++ postedBy level) u later [] last := by
  induction front generalizing back s order with
  | nil => exact ⟨[], order, s, rfl, rfl, by simpa [postedBy] using runs⟩
  | cons i front ih =>
    rw [List.cons_append] at runs
    cases runs with
    | next quiet later =>
      rw [List.append_assoc] at later
      obtain ⟨level, others, u, rfl, same, more⟩ := ih later
      refine ⟨_ :: level, others, u, rfl, by rw [List.map_cons, same], ?_⟩
      simpa [postedBy] using more

theorem Runs.levels (runs : Runs pending s order [] last) : Levels pending order := by
  -- What is left after a level is no part of the list that was waiting, so the run has to shrink.
  induction size : order.length using Nat.strongRecOn generalizing pending s order with
  | ind n ih =>
    cases pending with
    | nil =>
      rw [runs.nothing]
      exact .none
    | cons i rest =>
      rw [← List.append_nil (i :: rest)] at runs
      obtain ⟨level, later, u, rfl, same, more⟩ := runs.level
      have some : level.length = rest.length + 1 := by
        simpa using congrArg List.length same
      rw [List.length_append] at size
      exact .next same (ih later.length (by omega) more rfl)

theorem runUntilRuns (calm : Calm pending s) (done : ς → Bool) (n : Nat) :
    ∃ ran left t, Runs pending s ran left t ∧
      runUntil done n pending s = ⟨t, left, n + ran.length, .ok (done t)⟩ ∧
      (∀ early mid u, Runs pending s early mid u → early.length < ran.length → done u = false) ∧
      (done t = true ∨ done t = false ∧ left = []) := by
  fun_induction runUntil done n pending s with
  | case1 n pending s holds =>
    exact ⟨[], pending, s, .none pending s, by simp [holds], by simp, .inl holds⟩
  | case2 n s fails =>
    exact ⟨[], [], s, .none [] s, rfl, by simp, .inr ⟨by simpa using fails, rfl⟩⟩
  | case3 n s fails i rest payload panicked =>
    cases (calm [] i rest s (.none _ s)).symm.trans panicked
  | case4 n s fails i rest quiet ih =>
    obtain ⟨ran, left, t, runs, outcome, before, reached⟩ :=
      ih (calm.after (.next quiet (.none _ _)))
    refine ⟨_ :: ran, left, t, .next quiet runs, ?_, fun early mid u first shorter => ?_, reached⟩
    · rw [outcome, List.length_cons]
      congr 1
      omega
    · cases first with
      | none => simpa using fails
      | next _ later => exact before _ _ _ later (Nat.lt_of_succ_lt_succ shorter)

structure Stopped (done : ς → Bool) (pending : List ι) (s : ς) (order ran : List (Ran ι))
    (d : Drained ι ς) : Prop where
  first : ran <+: order
  runs : Runs pending s ran d.pending d.state
  counted : d.ran = ran.length
  answer : d.answer = .ok (done d.state)
  waiting : pending ++ postedBy ran = ran.map Ran.item ++ d.pending
  before : ∀ early mid u, Runs pending s early mid u → early.length < ran.length → done u = false
  reached : done d.state = true ∨ done d.state = false ∧ ran = order ∧ d.pending = []

theorem stops (calm : Calm pending s) (whole : Runs pending s order [] last) (done : ς → Bool) :
    ∃ ran, Stopped done pending s order ran (runUntil done 0 pending s) := by
  obtain ⟨ran, left, t, runs, outcome, before, reached⟩ := runUntilRuns calm done 0
  rw [Nat.zero_add] at outcome
  obtain ⟨later, rfl, more⟩ := runs.rest whole
  rw [outcome]
  refine ⟨ran, List.prefix_append ran later, runs, rfl, rfl, runs.queued, before, ?_⟩
  refine reached.imp_right fun ⟨fails, empty⟩ => ⟨fails, ?_, empty⟩
  subst empty
  rw [more.nothing, List.append_nil]

theorem Calm.runsOut (calm : Calm pending s) : ∃ order last, Runs pending s order [] last := by
  obtain ⟨order, left, last, runs, -, -, reached⟩ := runUntilRuns calm (fun _ => false) 0
  obtain ⟨-, empty⟩ := reached.resolve_left Bool.false_ne_true
  subst empty
  exact ⟨order, last, runs⟩

theorem runPendingAll (calm : Calm pending s) (whole : Runs pending s order [] last) :
    runPending pending s = ⟨last, [], order.length, .ok false⟩ := by
  obtain ⟨ran, left, t, runs, outcome, -, reached⟩ := runUntilRuns calm (fun _ => false) 0
  obtain ⟨-, empty⟩ := reached.resolve_left Bool.false_ne_true
  subst empty
  obtain ⟨later, rfl, more⟩ := runs.rest whole
  cases more
  rw [runPending, outcome, Nat.zero_add, List.append_nil]

theorem runUntilEachRuns (calm : Calm pending s) (dones : List (ς → Bool)) :
    ∃ ran left t answer, Runs pending s ran left t ∧
      runUntilEach dones pending s = ⟨t, left, ran.length, .ok answer⟩ := by
  induction dones generalizing pending s with
  | nil => exact ⟨[], pending, s, true, .none pending s, rfl⟩
  | cons done dones ih =>
    obtain ⟨ran, left, t, runs, outcome, -, -⟩ := runUntilRuns calm done 0
    obtain ⟨more, rest, u, answer, later, outcomes⟩ := ih (calm.after runs)
    refine ⟨ran ++ more, rest, u, answer, runs.trans later, ?_⟩
    rw [runUntilEach, outcome]
    simp only [outcomes, Nat.zero_add, List.length_append]

end MainLoop

/-! ### Errands -/

open MainLoop (Ran Runs Calm Levels)

namespace Errand

variable {V : Type} {es left : List (Errand V)} {w v : List V} {ran : List (Ran (Errand V))}

inductive Quiet : Errand V → Prop where
  | mk (line : Option V) (posts : List (Errand V)) (below : ∀ e ∈ posts, Quiet e) :
      Quiet (.mk line posts none)

theorem quietLeft (runs : Runs es w ran left v) (quiet : ∀ e ∈ es, e.Quiet) :
    ∀ e ∈ left, e.Quiet := by
  induction runs with
  | none => exact quiet
  | next calm later ih =>
    obtain ⟨first, others⟩ := List.forall_mem_cons.mp quiet
    cases first with
    | mk line posts below => exact ih (List.forall_mem_append.mpr ⟨others, below⟩)

theorem quietCalm (quiet : ∀ e ∈ es, e.Quiet) (w : List V) : Calm es w := by
  intro ran e rest v runs
  cases quietLeft runs quiet e List.mem_cons_self with
  | mk line posts below => rfl

theorem runsPlain (runs : Runs es w ran left v) :
    (∀ r ∈ ran, r.posted = r.item.posts) ∧ v = w ++ ran.flatMap (·.item.line.toList) := by
  induction runs with
  | none => simp
  | @next e rest left w v ran calm later ih =>
    obtain ⟨posted, written⟩ := ih
    refine ⟨List.forall_mem_cons.mpr ⟨rfl, posted⟩, ?_⟩
    rw [written, List.flatMap_cons, ← List.append_assoc]
    rfl

theorem loopWrites (l : ErrandLoop V) (quiet : ∀ e ∈ l.pending, e.Quiet) :
    ∃ order : List (Ran (Errand V)), Levels l.pending order ∧
      (∀ r ∈ order, r.posted = r.item.posts) ∧
      l.runPending = (.ok order.length, { l with
        pending := []
        written := l.written ++ order.flatMap (·.item.line.toList) }) := by
  have calm := quietCalm quiet l.written
  obtain ⟨order, last, whole⟩ := calm.runsOut
  obtain ⟨posted, rfl⟩ := runsPlain whole
  have outcome := MainLoop.runPendingAll calm whole
  refine ⟨order, whole.levels, posted, ?_⟩
  rw [ErrandLoop.runPending, outcome]
  rfl

def twoTrees : List (Errand Nat) := [
  .mk (some 1) [.mk (some 3) [.mk (some 6) [] none] none, .mk (some 4) [] none] none,
  .mk (some 2) [.mk (some 5) [] none] none]

theorem twoTreesQuiet : ∀ e ∈ twoTrees, e.Quiet := by
  have leaf (n : Nat) : Quiet (.mk (some n) [] none) := .mk _ _ (by simp)
  have three : Quiet (.mk (some 3) [.mk (some 6) [] none] none) := .mk _ _ (by simp [leaf])
  have one : Quiet (.mk (some 1) [.mk (some 3) [.mk (some 6) [] none] none,
    .mk (some 4) [] none] none) := .mk _ _ (by simp [leaf, three])
  have two : Quiet (.mk (some 2) [.mk (some 5) [] none] none) := .mk _ _ (by simp [leaf])
  simp [twoTrees, one, two]

end Errand

namespace MainLoop

variable {ι ς : Type} [MainItem ι ς]

structure Drains (pending : List ι) (s : ς) (order : List (Ran ι)) (last : ς) : Prop where
  runs : Runs pending s order [] last
  queued : order.map Ran.item = pending ++ postedBy order
  levels : Levels pending order
  atOnce : runPending pending s = ⟨last, [], order.length, .ok false⟩
  stopped : ∀ done : ς → Bool,
    ∃ ran, Stopped done pending s order ran (runUntil done 0 pending s)
  inParts : ∀ dones : List (ς → Bool), ∃ ran later left t answer,
    order = ran ++ later ∧ Runs pending s ran left t ∧ Runs left t later [] last ∧
    runUntilEach dones pending s = ⟨t, left, ran.length, .ok answer⟩ ∧
    runPending left t = ⟨last, [], later.length, .ok false⟩

theorem drainsInOrder (pending : List ι) (s : ς) (calm : Calm pending s) :
    ∃ order last, Drains pending s order last := by
  obtain ⟨order, last, whole⟩ := calm.runsOut
  have queued := whole.queued
  rw [List.append_nil] at queued
  refine ⟨order, last, whole, queued.symm, whole.levels, runPendingAll calm whole, stops calm whole,
    fun dones => ?_⟩
  obtain ⟨ran, left, t, answer, runs, outcome⟩ := runUntilEachRuns calm dones
  obtain ⟨later, rfl, more⟩ := runs.rest whole
  exact ⟨ran, later, left, t, answer, rfl, runs, more, outcome,
    runPendingAll (calm.after runs) more⟩

theorem twoTreesDrain : Calm Errand.twoTrees ([] : List Nat) ∧
    ∃ order, Drains Errand.twoTrees [] order [1, 2, 3, 4, 5, 6] := by
  have calm := Errand.quietCalm Errand.twoTreesQuiet ([] : List Nat)
  have outcome : runPending Errand.twoTrees [] = ⟨[1, 2, 3, 4, 5, 6], [], 6, .ok false⟩ := by
    simp [runPending, Errand.twoTrees, runUntil, MainItem.run, Errand.run, Errand.line,
      Errand.posts, Errand.panic]
  obtain ⟨order, last, drains⟩ := drainsInOrder Errand.twoTrees [] calm
  have same : last = [1, 2, 3, 4, 5, 6] :=
    congrArg Drained.state (drains.atOnce.symm.trans outcome)
  exact ⟨calm, order, same ▸ drains⟩

end MainLoop
end VideoPreview
