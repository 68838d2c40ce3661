import VideoPreview.Proofs.Holders

/-! The main loop of a session, turn by turn. A pump is nothing but turns until no task is left, and
so is running a task where it is posted. -/
namespace VideoPreview.Session

variable {σ ρ τ : Type} {s : Session σ ρ τ}

def push (s : Session σ ρ τ) (task : MainTask) : Session σ ρ τ :=
  { s with pending := s.pending ++ [task] }

variable [Viewer τ]

def turn (s : Session σ ρ τ) : Session σ ρ τ :=
  match s.pending with
  | [] => s
  | task :: rest =>
    let turn := runTask task rest { s with pending := [] }
    { turn.state with pending := rest ++ turn.posted }

theorem runTaskPosts (task : MainTask) (waiting : List MainTask) (s : Session σ ρ τ) :
    let turn := runTask task waiting s
    turn.posted = [] ∨ ∃ failure, turn.posted = [.handle failure] ∧ turn.panic = none := by
  cases task with
  | handle failure => exact .inl rfl
  | deliver viewer events =>
    simp only [runTask]
    obtain ⟨s₁, panic⟩ := receive viewer events s
    cases panic with
    | none => exact .inl rfl
    | some payload => exact .inr ⟨_, rfl, rfl⟩

theorem reclaimOnly (s : Session σ ρ τ) (released : List Frame) (waiting : List MainTask) :
    ∃ controller others, s.reclaim released waiting = { s with controller, others } := by
  change ∃ controller others, (s.freed released waiting).foldl giveBack s =
    { s with controller, others }
  induction s.freed released waiting using List.reverseRecOn with
  | nil => exact ⟨_, _, rfl⟩
  | append_singleton back f ih =>
    obtain ⟨controller, others, same⟩ := ih
    rw [List.foldl_append, same]
    simp only [List.foldl_cons, List.foldl_nil, giveBack]
    split <;> exact ⟨_, _, rfl⟩

theorem runTaskKeeps (task : MainTask) (waiting : List MainTask) (s : Session σ ρ τ) :
    (runTask task waiting s).state.pending = s.pending ∧
      (runTask task waiting s).state.handling = s.handling := by
  cases task with
  | handle failure =>
    simp only [runTask, handle]
    split <;> exact ⟨rfl, rfl⟩
  | deliver viewer events =>
    have received : (receive viewer events s).1.pending = s.pending ∧
        (receive viewer events s).1.handling = s.handling := by
      cases here : s.viewers[viewer]? with
      | none =>
        rw [receiveMissing here]
        exact ⟨rfl, rfl⟩
      | some v =>
        rw [receiveTaken here]
        exact ⟨rfl, rfl⟩
    simp only [runTask]
    generalize receive viewer events s = reception at received
    obtain ⟨s', panic⟩ := reception
    have reclaimed (released : List Frame) :
        (s'.reclaim released waiting).pending = s.pending ∧
          (s'.reclaim released waiting).handling = s.handling := by
      obtain ⟨_, _, only⟩ := reclaimOnly s' released waiting
      rw [only]
      exact received
    cases panic <;> exact reclaimed _

theorem runTaskQuiet (gentle : s.handling.IsGentle) (task : MainTask) (waiting : List MainTask) :
    (runTask task waiting s).panic = none := by
  cases task with
  | handle failure => exact gentle s.failures failure
  | deliver viewer events =>
    simp only [runTask]
    split <;> rfl

omit [Viewer τ] in
theorem emptied (empty : s.pending = []) : { s with pending := [] } = s := by
  cases s
  cases empty
  rfl

theorem turnNext (empty : s.pending = []) (task : MainTask) (rest : List MainTask) :
    ({ s with pending := task :: rest } : Session σ ρ τ).turn =
      { (runTask task rest s).state with pending := rest ++ (runTask task rest s).posted } := by
  have same : ({ s with pending := [] } : Session σ ρ τ) = s := emptied empty
  simp only [turn, same]

theorem postPumped (pump : s.trampoline = .pump) (task : MainTask) :
    s.post task = (none, s.push task) := by
  simp [post, pump, push]

theorem postInline (inline : s.trampoline = .inline) (task : MainTask) :
    s.post task = ((MainLoop.runInline [task] s).2, (MainLoop.runInline [task] s).1) := by
  simp [post, inline]

theorem runInlineNil (s : Session σ ρ τ) :
    MainLoop.runInline ([] : List MainTask) s = (s, none) := by
  rw [MainLoop.runInline]

theorem runInlineQuiet {s : Session σ ρ τ} {task : MainTask}
    (posted : (runTask task [] s).posted = []) :
    MainLoop.runInline [task] s = ((runTask task [] s).state, (runTask task [] s).panic) := by
  have ran : MainItem.run task [] s = runTask task [] s := rfl
  rw [MainLoop.runInline, ran, posted, runInlineNil]
  cases (runTask task [] s).panic with
  | some payload => rfl
  | none => exact runInlineNil _

theorem runInlineSurfaces {s : Session σ ρ τ} {task : MainTask} {failure : Failure}
    (posted : (runTask task [] s).posted = [.handle failure])
    (quiet : (runTask task [] s).panic = none) :
    MainLoop.runInline [task] s =
      ((runTask task [] s).state.handle failure, (runTask task [] s).state.thrown? failure) := by
  have ran : MainItem.run task [] s = runTask task [] s := rfl
  have handled (s : Session σ ρ τ) :
      MainLoop.runInline [MainTask.handle failure] s = (s.handle failure, s.thrown? failure) :=
    runInlineQuiet rfl
  rw [MainLoop.runInline, ran, posted, quiet, handled]
  cases (runTask task [] s).state.thrown? failure with
  | some payload => rfl
  | none => exact runInlineNil _

theorem inlineTurns (empty : s.pending = []) (task : MainTask) :
    (MainLoop.runInline [task] s).1 = (s.push task).turn.turn ∧
      (MainLoop.runInline [task] s).1.pending = [] := by
  have pushed : s.push task = { s with pending := [task] } := by simp [push, empty]
  have pending := (runTaskKeeps task [] s).1.trans empty
  rcases runTaskPosts task [] s with posted | ⟨failure, posted, quiet⟩
  · rw [runInlineQuiet posted, pushed, turnNext empty, posted]
    refine ⟨?_, pending⟩
    rw [List.append_nil, emptied pending]
    simp [turn, pending]
  · have handled := (runTaskKeeps (.handle failure) [] (runTask task [] s).state).1.trans pending
    rw [runInlineSurfaces posted quiet, pushed, turnNext empty, posted, List.nil_append,
      turnNext pending]
    exact ⟨(emptied handled).symm, handled⟩

theorem inlineQuiet (gentle : s.handling.IsGentle) (task : MainTask) :
    (MainLoop.runInline [task] s).2 = none := by
  rcases runTaskPosts task [] s with posted | ⟨failure, posted, quiet⟩
  · rw [runInlineQuiet posted]
    exact runTaskQuiet gentle task []
  · rw [runInlineSurfaces posted quiet]
    exact ((runTaskKeeps task [] s).2 ▸ gentle) _ failure

theorem pumpKeeps {P : Session σ ρ τ → Prop} (kept : ∀ s, P s → P s.turn) (before : P s) :
    P s.pump.2 ∧ (s.handling.IsGentle → s.pump.2.pending = []) := by
  have drained (pending : List MainTask) (ran : Nat) (s : Session σ ρ τ) (empty : s.pending = [])
      (before : P { s with pending }) :
      let d := MainLoop.runUntil (fun _ => false) ran pending s
      P { d.state with pending := d.pending } ∧ (s.handling.IsGentle → d.pending = []) := by
    fun_induction MainLoop.runUntil (fun _ => false) ran pending s with
    | case1 ran pending s done => cases done
    | case2 ran s => exact ⟨before, fun _ => rfl⟩
    | case3 ran s more task rest payload panicked =>
      have next := kept _ before
      rw [turnNext empty] at next
      exact ⟨next, fun gentle => (nomatch (runTaskQuiet gentle task rest).symm.trans panicked)⟩
    | case4 ran s more task rest quiet ih =>
      have next := kept _ before
      rw [turnNext empty] at next
      obtain ⟨last, left⟩ := ih ((runTaskKeeps task rest s).1.trans empty) next
      exact ⟨last, fun gentle => left ((runTaskKeeps task rest s).2 ▸ gentle)⟩
  exact drained s.pending 0 { s with pending := [] } rfl before

end VideoPreview.Session
