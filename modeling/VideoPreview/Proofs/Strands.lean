import VideoPreview.Proofs.Moves

/-! What a move does to the strands. A thread changes its own, and only the end of an item that
another thread waits for reaches that thread's strand, which then waits no longer. -/
namespace VideoPreview.Hub

variable {V : Type} {h h' : Hub V} {t u : ThreadRef}

@[simp]
theorem strandRecord (place : Option QueueRef) (n : Note V) (u : ThreadRef) :
    (h.record place n).strand u = h.strand u := SameThreads.strand ⟨rfl, rfl, rfl⟩ u

@[simp]
theorem strandEntry (e : LogEntry) (u : ThreadRef) : (h.entry e).strand u = h.strand u :=
  SameThreads.strand ⟨rfl, rfl, rfl⟩ u

theorem sameStopped (n : Nat) : SameThreads h (h.noteStopped n) := by
  simp only [noteStopped]
  split <;> exact ⟨rfl, rfl, rfl⟩

@[simp]
theorem strandStopped (n : Nat) (u : ThreadRef) : (h.noteStopped n).strand u = h.strand u :=
  (sameStopped n).strand u

theorem Jotted.same (jotted : Jotted h h') : SameThreads h h' := by
  cases jotted
  exact ⟨rfl, rfl, rfl⟩

theorem sameHandle (failure : Failure) : SameThreads h (h.handle failure) := by
  unfold handle
  cases h.handling <;> exact ⟨rfl, rfl, rfl⟩

theorem sameSurface (label : String) (failure : Failure) :
    SameThreads h (h.surface label failure) := by
  unfold surface
  cases mode : h.trampoline with
  | pump => simp only [mode, entry]; exact ⟨rfl, rfl, rfl⟩
  | inline =>
    have handled := sameHandle (h := h.entry (.surfacing label failure.message)) failure
    simp only [mode, entry] at handled ⊢
    exact ⟨handled.caller, handled.background, handled.lanes⟩

theorem strandGiven {a : Activity V} {below : List (Activity V)} {w : Option Wait}
    (busy : h.strand t = ⟨a :: below, w⟩) (r : CallResult V) :
    (h.giveResult t r).strand t = ⟨a :: below, none⟩ := by
  simp only [giveResult, busy]
  rw [strandRecord, strandSetSelf (hasOfStack busy)]

theorem strandGivenOther (other : u ≠ t) (r : CallResult V) :
    (h.giveResult t r).strand u = h.strand u := by
  unfold giveResult
  split
  · rw [strandRecord, strandSetOther other]
  · rfl

theorem strandGivenFree (free : (h.strand t).wait = none) (r : CallResult V) :
    (h.giveResult t r).strand t = h.strand t := by
  rcases busy : h.strand t with ⟨stack, w⟩
  cases stack with
  | nil => simp [giveResult, busy]
  | cons a below =>
    rw [strandGiven busy]
    simp only [busy] at free
    rw [free]

theorem strandConcluded {finish : Finish} {e : Ending V} (free : (h.strand t).wait = none)
    (concluded : Concluded h t e finish h') : h'.strand t = h.strand t := by
  cases concluded with
  | quiet none unasked unawaited => rfl
  | surfaced some => exact (sameSurface _ _).strand t
  | inlined => exact strandGivenFree free _
  | replied receiver =>
    by_cases same : t = receiver
    · subst same
      exact strandGivenFree free _
    · exact strandGivenOther same _

theorem strandConcludedOther {finish : Finish} {e : Ending V} (other : u ≠ t)
    (concluded : Concluded h t e finish h') (unasked : finish ≠ .reply u) :
    h'.strand u = h.strand u := by
  cases concluded with
  | quiet none unasked unawaited => rfl
  | surfaced some => exact (sameSurface _ _).strand u
  | inlined => exact strandGivenOther other _
  | replied receiver => exact strandGivenOther (fun same => unasked (by rw [same])) _

variable {b : Activity V} {below : List (Activity V)}

theorem strandPushed (busy : h.strand t = ⟨b :: below, none⟩) (i : Item V) :
    (h.push t i).strand t = ⟨i.begin :: b :: below, none⟩ := by
  rw [push, strandSetSelf (hasOfStack busy), busy]

theorem strandPushedOther (other : u ≠ t) (i : Item V) : (h.push t i).strand u = h.strand u :=
  strandSetOther other _

theorem strandSubmitted {q : QueueRef} {i : Item V} (busy : h.strand t = ⟨b :: below, none⟩)
    (submitted : Submitted h t q i h') :
    h'.strand t = ⟨b :: below, none⟩ ∨ h'.strand t = ⟨i.begin :: b :: below, none⟩ := by
  cases submitted with
  | queued admitted => exact .inl ((admitted.strand t).trans busy)
  | immediate admitted => exact .inr (strandPushed busy _)
  | dropped admitted => exact .inl ((admitted.strandDropped t).trans busy)

theorem strandSubmittedOther {q : QueueRef} {i : Item V} (other : u ≠ t)
    (submitted : Submitted h t q i h') : h'.strand u = h.strand u := by
  cases submitted with
  | queued admitted => exact admitted.strand u
  | immediate admitted => exact strandPushedOther other _
  | dropped admitted => exact admitted.strandDropped u

theorem strandCalled {q : QueueRef} {work : Work V} (busy : h.strand t = ⟨b :: below, none⟩)
    (called : Called h t q work h') :
    h'.strand t = ⟨b :: below, some .result⟩ ∨
      h'.strand t = ⟨Item.begin ⟨some q, work, .inlined⟩ :: b :: below, none⟩ ∨
      h'.strand t = ⟨b :: below, none⟩ := by
  cases called with
  | own current => exact .inr (.inl (strandPushed busy _))
  | waits other admitted =>
    refine .inl ?_
    rw [strandSetSelf (admitted.has (hasOfStack busy)), admitted.strand, busy]
  | immediate other admitted => exact .inr (.inl (strandPushed busy _))
  | refused other admitted =>
    exact .inr (.inr (strandGiven ((admitted.strandDropped t).trans busy) _))

theorem strandCalledOther {q : QueueRef} {work : Work V} (other : u ≠ t)
    (called : Called h t q work h') : h'.strand u = h.strand u := by
  cases called with
  | own current => exact strandPushedOther other _
  | waits differs admitted => exact (strandSetOther other _).trans (admitted.strand u)
  | immediate differs admitted => exact strandPushedOther other _
  | refused differs admitted =>
    exact (strandGivenOther other _).trans (admitted.strandDropped u)

theorem strandClosed {name : String} (busy : h.strand t = ⟨b :: below, none⟩)
    (closed : Closed h t name h') :
    ∃ w, h'.strand t = ⟨b :: below, w⟩ ∧
      (w = none ∨ ∃ n, w = some (.drained n) ∧ t ≠ .serial n) := by
  cases closed with
  | nothing unopened => exact ⟨none, busy, .inl rfl⟩
  | detached found lane opened own =>
    exact ⟨none, (strandEntry _ t).trans ((strandSetQueue ..).trans busy), .inl rfl⟩
  | @waits n l found lane opened other =>
    refine ⟨some (.drained n), ?_, .inr ⟨n, rfl, other⟩⟩
    rw [strandSetSelf (hasSetQueue (hasOfStack busy) n _), busy]

theorem strandClosedOther {name : String} (other : u ≠ t) (closed : Closed h t name h') :
    h'.strand u = h.strand u := by
  cases closed with
  | nothing unopened => rfl
  | detached found lane opened own => exact (strandEntry _ u).trans (strandSetQueue ..)
  | waits found lane opened differs => rw [strandSetOther other, strandSetQueue]

inductive Change : Strand V → Strand V → Prop where
  | resumed {stack : List (Activity V)} {n : Nat} :
      Change ⟨stack, some (.drained n)⟩ ⟨stack, none⟩
  | ended {a : Activity V} {below : List (Activity V)} {e : Ending V} (last : a.ending? = some e) :
      Change ⟨a :: below, none⟩ ⟨below, none⟩
  | onward {a b : Activity V} {below : List (Activity V)} (unfinished : a.ending? = none)
      (course : b.fate = a.fate) (wait : Option Wait) :
      Change ⟨a :: below, none⟩ ⟨b :: below, wait⟩
  | pushed {a b : Activity V} {below : List (Activity V)} (unfinished : a.ending? = none)
      (course : b.fate = a.fate) (i : Item V) :
      Change ⟨a :: below, none⟩ ⟨i.begin :: b :: below, none⟩
  | begun (i : Item V) : Change .idle ⟨[i.begin], none⟩

theorem endingQuiet {a : Activity V} {next : Work V × Option V}
    (quiet : a.rest.quietly? a.answer = some next) : a.ending? = none := by
  unfold Activity.ending?
  cases rest : a.rest <;> simp [rest, Work.quietly?] at quiet ⊢

theorem fateOnward {a : Activity V} {rest : Work V} {answer : Option V}
    (course : rest.outcome answer = a.rest.outcome a.answer) :
    Activity.fate { a with rest, answer } = a.fate := by
  simp only [Activity.fate, course]

theorem actedChange {a : Activity V} (busy : h.strand t = ⟨a :: below, none⟩)
    (acted : Acted h t a below h') : Change (h.strand t) (h'.strand t) := by
  have set (s : Strand V) : (h.setStrand t s).strand t = s := strandSetSelf (hasOfStack busy) s
  rw [busy]
  cases acted with
  | ended last concluded =>
    rw [strandConcluded (by rw [set]) concluded, set]
    exact .ended last
  | went next jotted =>
    rw [jotted.same.strand, set]
    exact .onward (endingQuiet next) (fateOnward (Work.quietCourse next).1) none
  | @submitted q fallible work rest _ next submitted =>
    have unfinished : a.ending? = none := by simp [Activity.ending?, next]
    have course : Activity.fate { a with rest } = a.fate :=
      fateOnward (congrArg (Work.outcome · a.answer) next).symm
    rcases strandSubmitted (set _) submitted with same | more
    · rw [same]
      exact .onward unfinished course none
    · rw [more]
      exact .pushed unfinished course _
  | @called q work rest _ next called =>
    have unfinished : a.ending? = none := by simp [Activity.ending?, next]
    have course : Activity.fate { a with rest } = a.fate :=
      fateOnward (congrArg (Work.outcome · a.answer) next).symm
    rcases strandCalled (set _) called with waits | more | same
    · rw [waits]
      exact .onward unfinished course _
    · rw [more]
      exact .pushed unfinished course _
    · rw [same]
      exact .onward unfinished course none
  | @closed name rest _ next closed =>
    have unfinished : a.ending? = none := by simp [Activity.ending?, next]
    have course : Activity.fate { a with rest } = a.fate :=
      fateOnward (congrArg (Work.outcome · a.answer) next).symm
    obtain ⟨w, same, -⟩ := strandClosed (set _) closed
    rw [same]
    exact .onward unfinished course w

theorem actedOther {a : Activity V} (other : u ≠ t) (acted : Acted h t a below h') :
    h'.strand u = h.strand u ∨ ∃ e, a.ending? = some e ∧ a.finish = .reply u ∧
      h' = (h.setStrand t ⟨below, none⟩).giveResult u e.result := by
  cases acted with
  | @ended e _ last concluded =>
    by_cases replies : a.finish = .reply u
    · rw [replies] at concluded
      cases concluded with
      | quiet none unasked unawaited => exact absurd rfl (unawaited u)
      | surfaced some => cases some
      | replied receiver => exact .inr ⟨e, last, replies, rfl⟩
    · rw [strandConcludedOther other concluded replies, strandSetOther other]
      exact .inl rfl
  | went next jotted => exact .inl (by rw [jotted.same.strand, strandSetOther other])
  | submitted next submitted =>
    exact .inl (by rw [strandSubmittedOther other submitted, strandSetOther other])
  | called next called =>
    exact .inl (by rw [strandCalledOther other called, strandSetOther other])
  | closed next closed =>
    exact .inl (by rw [strandClosedOther other closed, strandSetOther other])

theorem turnChange (turned : Turned h t h') : Change (h.strand t) (h'.strand t) := by
  cases turned with
  | @resumed stack n waits drained =>
    have has : h.Has t := by
      by_contra absent
      rw [strandAbsent absent] at waits
      cases waits
    simp only [strandStopped, waits, strandSetSelf has]
    exact .resumed
  | acted busy acted => exact actedChange busy acted
  | @begun i h' idle found =>
    obtain ⟨taken, has⟩ := fetched found
    rw [idle, push, strandSetSelf (taken.has has), taken.strand, idle]
    exact .begun i

inductive Kept : Strand V → Strand V → Prop where
  | same (s : Strand V) : Kept s s
  | given (stack : List (Activity V)) (w : Option Wait) : Kept ⟨stack, w⟩ ⟨stack, none⟩

theorem Kept.stack {s s' : Strand V} (kept : Kept s s') : s'.stack = s.stack := by
  cases kept <;> rfl

theorem keptGiven (r : CallResult V) (u : ThreadRef) :
    Kept (h.strand u) ((h.giveResult t r).strand u) := by
  rcases busy : h.strand t with ⟨stack, w⟩
  cases stack with
  | nil =>
    have nothing : h.giveResult t r = h := by simp [giveResult, busy]
    rw [nothing]
    exact .same _
  | cons a below =>
    by_cases own : u = t
    · subst own
      rw [strandGiven busy, busy]
      exact .given _ _
    · rw [strandGivenOther own]
      exact .same _

theorem turnKept (other : u ≠ t) (turned : Turned h t h') : Kept (h.strand u) (h'.strand u) := by
  cases turned with
  | resumed waits drained =>
    simp only [strandStopped, strandSetOther other]
    exact .same _
  | begun idle found =>
    obtain ⟨taken, -⟩ := fetched found
    rw [strandPushedOther other, taken.strand]
    exact .same _
  | @acted a below _ busy acted =>
    rcases actedOther other acted with same | ⟨e, last, replies, rfl⟩
    · rw [same]
      exact .same _
    · rw [← strandSetOther other ⟨below, none⟩]
      exact keptGiven _ u

end VideoPreview.Hub
