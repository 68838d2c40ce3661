import VideoPreview.Proofs.Waiting

/-! Schedules. The functions that take all turns in one fixed order, and run the main loop in
between, go through runs like any other. As every turn makes a hub lighter, they get as far as
anybody could: once threads have settled none can take a turn, and an exhausted main loop has
nothing left, unless the caller is kept waiting. -/
namespace VideoPreview.Hub

variable {V : Type} {h h' : Hub V} {t : ThreadRef}

structure Gets (h h' : Hub V) : Prop where
  run : ∃ moves, h' = h.run moves
  lighter : h' = h ∨ h'.weight < h.weight

theorem Gets.refl (h : Hub V) : Gets h h := ⟨⟨[], rfl⟩, .inl rfl⟩

theorem Gets.trans {h₁ : Hub V} (first : Gets h h₁) (second : Gets h₁ h') : Gets h h' := by
  obtain ⟨⟨before, rfl⟩, lighter⟩ := first
  obtain ⟨⟨after, rfl⟩, lighter'⟩ := second
  refine ⟨⟨before ++ after, (runAppend before after).symm⟩, ?_⟩
  rcases lighter' with same | less
  · rwa [same]
  · rcases lighter with same | less'
    · rw [same] at less ⊢
      exact .inr less
    · exact .inr (Nat.lt_trans less less')

theorem Gets.le (gets : Gets h h') : h'.weight ≤ h.weight := by
  rcases gets.lighter with same | less
  · exact Nat.le_of_eq (congrArg weight same)
  · exact Nat.le_of_lt less

theorem getsTurn (stepped : h.step? t = some h') : Gets h h' := by
  refine ⟨⟨[.turn t], ?_⟩, .inr (stepLess stepped)⟩
  exact (turnStep stepped).symm

theorem takeLess {e : MainEntry V} {rest : List (MainEntry V)} (waiting : h.pending = e :: rest) :
    h.takeEntry.weight < h.weight := by
  have before : weightMeasure.hub h =
      weightMeasure.hub { h with pending := rest } + weightMeasure.entry e := by
    simp only [Measure.hub, waiting, totalWeight]
    omega
  rw [weightMeasured, weightMeasured, before]
  unfold takeEntry
  rw [waiting]
  cases e with
  | handle failure =>
    have same : weightMeasure.hub ({ h with pending := rest }.handle failure) =
        weightMeasure.hub { h with pending := rest } := by
      unfold handle
      cases h.handling <;> rfl
    exact same.symm ▸ Nat.lt_succ_self _
  | item i =>
    have pushed :=
      weightMeasure.pushTotal (h := { h with pending := rest }) (t := .caller) trivial i
    simp only [pushed]
    exact Nat.add_lt_add_left (Nat.lt_succ_self _) _

theorem getsTaken (free : h.caller.wait = none) {e : MainEntry V} {rest : List (MainEntry V)}
    (waiting : h.pending = e :: rest) : Gets h h.takeEntry := by
  refine ⟨⟨[.mainLoop], ?_⟩, .inr (takeLess waiting)⟩
  change h.takeEntry = h.step .mainLoop
  simp [step, free]

theorem nextTurn (next : h.next? = some h') : ∃ t, h.step? t = some h' := by
  obtain ⟨t, -, stepped⟩ := List.exists_of_findSome?_eq_some next
  exact ⟨t, stepped⟩

theorem hasThread (has : h.Has t) : t ∈ h.threads := by
  cases t with
  | caller => simp [threads]
  | background n =>
    have bound : n < h.background.length := has
    simp [threads, bound]
  | serial n =>
    have bound : n < h.lanes.length := has
    simp [threads, bound]

theorem nextNone (rests : h.next? = none) (t : ThreadRef) : h.step? t = none := by
  by_cases has : h.Has t
  · exact List.findSome?_eq_none_iff.mp rests t (hasThread has)
  · have idle := strandAbsent has
    cases fetch : h.fetch? t with
    | none => simp [step?, idle, Strand.idle, fetch]
    | some found =>
      obtain ⟨i, h'⟩ := found
      exact absurd (fetched fetch).2 has

theorem advanceGets (n : Nat) (h : Hub V) : Gets h (h.advance n) := by
  induction n generalizing h with
  | zero => exact .refl h
  | succ n ih =>
    unfold advance
    cases next : h.next? with
    | none => exact .refl h
    | some h' =>
      obtain ⟨t, stepped⟩ := nextTurn next
      exact (getsTurn stepped).trans (ih h')

theorem advanceRests {n : Nat} (enough : h.weight ≤ n) (t : ThreadRef) :
    (h.advance n).step? t = none := by
  induction n generalizing h with
  | zero =>
    cases stepped : h.step? t with
    | none => exact stepped
    | some h' =>
      have less := stepLess stepped
      omega
  | succ n ih =>
    unfold advance
    cases next : h.next? with
    | none => exact nextNone next t
    | some h' =>
      obtain ⟨u, stepped⟩ := nextTurn next
      have less := stepLess stepped
      exact ih (by omega)

theorem settles (h : Hub V) : Gets h h.settle ∧ ∀ t, h.settle.step? t = none :=
  ⟨advanceGets _ h, advanceRests (Nat.le_refl _)⟩

theorem performRuns (idle : h.caller = .idle) (program : Work V) :
    ∃ moves, h.perform program = h.run moves := by
  obtain ⟨moves, same⟩ := (settles (h.push .caller ⟨none, program, .own⟩)).1.run
  refine ⟨.program program :: moves, ?_⟩
  have begun : h.step (.program program) = h.push .caller ⟨none, program, .own⟩ := by
    simp [step, beginProgram, idle, Strand.idle]
  change h.perform program = (h.step (.program program)).run moves
  rw [begun]
  exact same

theorem advanceCallerGets (n : Nat) (h : Hub V) : Gets h (h.advanceCaller n) := by
  induction n generalizing h with
  | zero => exact .refl h
  | succ n ih =>
    unfold advanceCaller
    split
    · exact .refl h
    · cases next : h.next? with
      | none => exact .refl h
      | some h' =>
        obtain ⟨t, stepped⟩ := nextTurn next
        exact (getsTurn stepped).trans (ih h')

theorem entryGets (free : h.caller.wait = none) {e : MainEntry V} {rest : List (MainEntry V)}
    (waiting : h.pending = e :: rest) :
    Gets h (runEntry { h with pending := rest } e).2 ∧
      (runEntry { h with pending := rest } e).2.weight < h.weight := by
  have taken := getsTaken free waiting
  have less := takeLess waiting
  unfold takeEntry at taken less
  rw [waiting] at taken less
  cases e with
  | handle failure => exact ⟨taken, less⟩
  | item i =>
    have ran := advanceCallerGets ({ h with pending := rest }.push .caller i).weight
      ({ h with pending := rest }.push .caller i)
    exact ⟨taken.trans ran, Nat.lt_of_le_of_lt ran.le less⟩

theorem drainGets (done : Hub V → Bool) (fuel ran : Nat) (h : Hub V) :
    Gets h (drainUntil done fuel ran h).2 := by
  induction fuel generalizing ran h with
  | zero => exact .refl h
  | succ fuel ih =>
    unfold drainUntil
    split
    · exact .refl h
    · rename_i going
      obtain ⟨-, free⟩ : done h = false ∧ h.caller.wait = none := by simpa using going
      cases waiting : h.pending with
      | nil => exact .refl h
      | cons e rest =>
        have took := (entryGets free waiting).1
        rcases ran' : runEntry { h with pending := rest } e with ⟨panic, h'⟩
        rw [ran'] at took
        cases panic with
        | some p => simpa [ran'] using took
        | none => simpa [ran'] using took.trans (ih _ _)

theorem pumpUntilGets (h : Hub V) (more : Nat) : Gets h (h.pumpUntil more).2 :=
  (drainGets _ _ _ h).trans (settles _).1

end VideoPreview.Hub
