import VideoPreview.Proofs.Measures
import VideoPreview.Proofs.Strands

/-! Who waits for whom. A thread that waits for the result of a call has something to go on with,
and exactly one item, running or not, owes it that result; nobody else is owed anything. No thread
waits for its own queue to be drained. An item that runs on top of its caller never runs by
itself. -/
namespace VideoPreview.Hub

variable {V : Type} {h h' : Hub V} {t : ThreadRef}

def owed (u : ThreadRef) : Measure V where
  activity a := if a.finish = .reply u then 1 else 0
  wait _ := 0
  item i := if i.finish = .reply u then 1 else 0
  failure := 0

theorem owedCalm (u : ThreadRef) : (owed u : Measure V).Calm := ⟨fun _ => rfl, rfl⟩

def misplaced : Measure V where
  activity _ := 0
  wait _ := 0
  item i := if i.finish = .inlined then 1 else 0
  failure := 0

theorem misplacedCalm : (misplaced : Measure V).Calm := ⟨fun _ => rfl, rfl⟩

structure Orderly (h : Hub V) : Prop where
  owed : ∀ u, (owed u).hub h = if (h.strand u).wait = some .result then 1 else 0
  standing : ∀ u, (h.strand u).wait ≠ none → (h.strand u).stack ≠ []
  apart : ∀ u n, (h.strand u).wait = some (.drained n) → u ≠ .serial n
  rooted : ∀ u a, (h.strand u).stack.getLast? = some a → a.finish ≠ .inlined
  placed : misplaced.hub h = 0

theorem Orderly.once (orderly : Orderly h) (u : ThreadRef) : (Hub.owed u).hub h ≤ 1 := by
  rw [orderly.owed]
  split <;> omega

theorem Orderly.awaited (orderly : Orderly h) {u : ThreadRef} {a : Activity V}
    (runs : a ∈ (h.strand t).stack) (replies : a.finish = .reply u) :
    (h.strand u).wait = some .result := by
  by_contra free
  have none := orderly.owed u
  rw [if_neg free] at none
  have one : (Hub.owed u).activity a = 1 := if_pos replies
  have part := (Hub.owed u).activityLe runs
  have whole := (Hub.owed u).strandLe (h := h) t
  omega

theorem finishOfUnawaited (q : QueueRef) (fallible : Bool) (u : ThreadRef) :
    finishOf q fallible ≠ .reply u := by
  cases fallible <;> simp [finishOf]

theorem finishOfPlaced (q : QueueRef) (fallible : Bool) : finishOf q fallible ≠ .inlined := by
  cases fallible <;> simp [finishOf]

theorem submittedOwed {q : QueueRef} {i : Item V} {u : ThreadRef} (has : h.Has t)
    (submitted : Submitted h t q i h') (unawaited : i.finish ≠ .reply u) :
    (owed u).hub h' = (owed u).hub h := by
  cases submitted with
  | queued admitted =>
    have total := (owed u).queuedTotal admitted
    simpa [owed, unawaited] using total
  | immediate admitted =>
    have total := (owed u).pushTotal has i
    simpa [owed, Item.begin, unawaited] using total
  | dropped admitted => exact (owed u).droppedTotal admitted

theorem owedKept (orderly : Orderly h) {u : ThreadRef} (total : (owed u).hub h' = (owed u).hub h)
    (free : (h.strand t).wait = none) (still : (h'.strand t).wait ≠ some .result)
    (others : u ≠ t → h'.strand u = h.strand u) :
    (owed u).hub h' = if (h'.strand u).wait = some .result then 1 else 0 := by
  rw [total, orderly.owed u]
  by_cases own : u = t
  · subst own
    simp [free, still]
  · rw [others own]

section
variable {a : Activity V} {below : List (Activity V)}

theorem onwardOwed (busy : h.strand t = ⟨a :: below, none⟩) (u : ThreadRef) (rest : Work V)
    (answer : Option V) (w : Option Wait) :
    (owed u).hub (h.setStrand t ⟨{ a with rest, answer } :: below, w⟩) = (owed u).hub h := by
  have replaced := (owedCalm u).setStrand busy ({ a with rest, answer } :: below) w
  simp only [owed, totalWeight] at replaced ⊢
  omega

theorem repliedOwed (orderly : Orderly h) (busy : h.strand t = ⟨a :: below, none⟩) {e : Ending V}
    {u : ThreadRef} (concluded : Concluded (h.setStrand t ⟨below, none⟩) t e a.finish h')
    (replies : a.finish = .reply u) :
    (owed u).hub h' = if (h'.strand u).wait = some .result then 1 else 0 := by
  have popped := (owedCalm u).setStrand busy below none
  have kept := (owedCalm u).concluded concluded
  have one : (owed u).activity a = 1 := if_pos replies
  have waits : (h.strand u).wait = some .result :=
    orderly.awaited (t := t) (by simp [busy]) replies
  have differs : u ≠ t := by
    rintro rfl
    rw [busy] at waits
    cases waits
  have before := orderly.owed u
  rw [if_pos waits] at before
  obtain ⟨b, rest, stack⟩ := List.exists_cons_of_ne_nil (orderly.standing u (by rw [waits]; simp))
  have strand : (h.setStrand t ⟨below, none⟩).strand u = ⟨b :: rest, some .result⟩ := by
    rw [strandSetOther differs, ← stack, ← waits]
  rw [replies] at concluded
  cases concluded with
  | quiet none unasked unawaited => exact absurd rfl (unawaited u)
  | surfaced some => cases some
  | replied receiver =>
    rw [strandGiven strand]
    simp only [reduceCtorEq, if_false]
    omega

theorem endedOwed (orderly : Orderly h) (busy : h.strand t = ⟨a :: below, none⟩) {e : Ending V}
    (concluded : Concluded (h.setStrand t ⟨below, none⟩) t e a.finish h') (u : ThreadRef) :
    (owed u).hub h' = if (h'.strand u).wait = some .result then 1 else 0 := by
  have set := strandSetSelf (hasOfStack busy) ⟨below, none⟩
  by_cases replies : a.finish = .reply u
  · exact repliedOwed orderly busy concluded replies
  · have popped := (owedCalm u).setStrand busy below none
    have kept := (owedCalm u).concluded concluded
    have zero : (owed u).activity a = 0 := if_neg replies
    refine owedKept (t := t) orderly (by omega) (by rw [busy]) ?_ fun other => ?_
    · rw [strandConcluded (by rw [set]) concluded, set]
      simp
    · rw [strandConcludedOther other concluded replies, strandSetOther other]

theorem calledOwed (orderly : Orderly h) (busy : h.strand t = ⟨a :: below, none⟩) {q : QueueRef}
    {work rest : Work V}
    (called : Called (h.setStrand t ⟨{ a with rest } :: below, none⟩) t q work h')
    (u : ThreadRef) : (owed u).hub h' = if (h'.strand u).wait = some .result then 1 else 0 := by
  have free : (h.strand t).wait = none := by rw [busy]
  have set := strandSetSelf (hasOfStack busy) ⟨{ a with rest } :: below, none⟩
  have still : (h.setStrand t ⟨{ a with rest } :: below, none⟩).Has t := hasSet (hasOfStack busy) _
  have ahead := onwardOwed busy u rest a.answer none
  have others (other : u ≠ t) : h'.strand u = h.strand u := by
    rw [strandCalledOther other called, strandSetOther other]
  have onTop := (owed u).pushTotal still ⟨some q, work, .inlined⟩
  have nothing : (owed u).activity (Item.begin ⟨some q, work, .inlined⟩) = 0 := rfl
  cases called with
  | own current =>
    refine owedKept orderly (by rw [onTop, nothing]; exact ahead) free ?_ others
    rw [strandPushed set]
    simp
  | immediate differs admitted =>
    refine owedKept orderly (by rw [onTop, nothing]; exact ahead) free ?_ others
    rw [strandPushed set]
    simp
  | @refused h₁ differs admitted =>
    have total := (owed u).droppedTotal admitted
    have given := (owedCalm u).given (h := h₁) (t := t) (.failed (.abandoned (label q)))
    refine owedKept orderly ((given.trans total).trans ahead) free ?_ others
    rw [strandGiven ((admitted.strandDropped t).trans set)]
    simp
  | @waits h₁ differs admitted =>
    have total := (owed u).queuedTotal admitted
    have there := admitted.has still
    have waits := (owedCalm u).setWait there .result
    rw [waits, total, ahead, orderly.owed u]
    by_cases own : u = t
    · subst own
      rw [strandSetSelf there, free]
      simp [owed]
    · rw [strandSetOther own, admitted.strand, strandSetOther own]
      have nobody : Finish.reply t ≠ .reply u := fun same => own (Finish.reply.inj same).symm
      simp [owed, nobody]

theorem actedOwed (orderly : Orderly h) (busy : h.strand t = ⟨a :: below, none⟩)
    (acted : Acted h t a below h') (u : ThreadRef) :
    (owed u).hub h' = if (h'.strand u).wait = some .result then 1 else 0 := by
  have has := hasOfStack busy
  have free : (h.strand t).wait = none := by rw [busy]
  have still (s : Strand V) : (h.setStrand t s).Has t := hasSet has s
  have set (s : Strand V) : (h.setStrand t s).strand t = s := strandSetSelf has s
  have ahead := onwardOwed busy u
  cases acted with
  | ended last concluded => exact endedOwed orderly busy concluded u
  | went next jotted =>
    refine owedKept orderly (((owed u).jottedTotal jotted).trans (ahead ..)) free ?_ fun other => ?_
    · rw [jotted.same.strand, set]
      simp
    · rw [jotted.same.strand, strandSetOther other]
  | submitted next submitted =>
    have total := submittedOwed (still _) submitted (finishOfUnawaited _ _ u)
    refine owedKept orderly (total.trans (ahead ..)) free ?_ fun other => ?_
    · rcases strandSubmitted (set _) submitted with same | more
      · simp [same]
      · simp [more]
    · rw [strandSubmittedOther other submitted, strandSetOther other]
  | called next called => exact calledOwed orderly busy called u
  | closed next closed =>
    have total := (owedCalm u).closed (still _) closed
    refine owedKept orderly (total.trans (ahead ..)) free ?_ fun other => ?_
    · obtain ⟨w, same, waits⟩ := strandClosed (set _) closed
      rw [same]
      obtain rfl | ⟨n, rfl, -⟩ := waits <;> simp
    · rw [strandClosedOther other closed, strandSetOther other]

end

structure Taken (h : Hub V) (i : Item V) (h' : Hub V) : Prop where
  strand : ∀ u, h'.strand u = h.strand u
  owed : ∀ u, (owed u).hub h' + (owed u).item i = (owed u).hub h
  misplaced : misplaced.hub h' + misplaced.item i = misplaced.hub h

theorem takenFetched {i : Item V} (fetched : Fetched h t i h') : Taken h i h' :=
  ⟨fetched.strand, fun u => (Hub.owed u).fetchedTotal fetched, Hub.misplaced.fetchedTotal fetched⟩

theorem takenTotal {i : Item V} (same : SameThreads h h')
    (total : ∀ m : Measure V, m.hub h' + m.item i = m.hub h) : Taken h i h' :=
  ⟨same.strand, fun u => total (Hub.owed u), total Hub.misplaced⟩

theorem pushOwed (orderly : Orderly h) {i : Item V} (taken : Taken h i h') (has : h'.Has t)
    (free : (h.strand t).wait = none) (u : ThreadRef) :
    (owed u).hub (h'.push t i) = if ((h'.push t i).strand u).wait = some .result then 1 else 0 := by
  have pushed := (owed u).pushTotal has i
  have fewer := taken.owed u
  have same : (owed u).activity i.begin = (owed u).item i := rfl
  refine owedKept orderly (by omega) free ?_ fun other => ?_
  · rw [push, strandSetSelf has, taken.strand, free]
    simp
  · rw [strandPushedOther other, taken.strand]

theorem takenPlaced (orderly : Orderly h) {i : Item V} (taken : Taken h i h') :
    i.finish ≠ .inlined ∧ misplaced.hub h' = 0 := by
  have total := taken.misplaced
  rw [orderly.placed] at total
  refine ⟨?_, by omega⟩
  intro inlined
  have one : (misplaced : Measure V).item i = 1 := if_pos inlined
  omega

theorem orderlyPush (orderly : Orderly h) {i : Item V} (taken : Taken h i h') (has : h'.Has t)
    (free : (h.strand t).wait = none) : Orderly (h'.push t i) := by
  obtain ⟨plain, placed⟩ := takenPlaced orderly taken
  have own : (h'.push t i).strand t = ⟨i.begin :: (h.strand t).stack, none⟩ := by
    rw [push, strandSetSelf has, taken.strand]
    exact congrArg (Strand.mk _) free
  have others {u : ThreadRef} (other : u ≠ t) : (h'.push t i).strand u = h.strand u := by
    rw [strandPushedOther other, taken.strand]
  refine ⟨pushOwed orderly taken has free, ?_, ?_, ?_, ?_⟩
  · intro u
    by_cases same : u = t
    · subst same
      simp [own]
    · rw [others same]
      exact orderly.standing u
  · intro u n
    by_cases same : u = t
    · subst same
      simp [own]
    · rw [others same]
      exact orderly.apart u n
  · intro u a
    by_cases same : u = t
    · subst same
      rw [own]
      cases stack : (h.strand u).stack with
      | nil =>
        rintro ⟨⟩
        exact plain
      | cons b below =>
        rw [List.getLast?_cons_cons, ← stack]
        exact orderly.rooted u a
    · rw [others same]
      exact orderly.rooted u a
  · have pushed := misplaced.pushTotal has i
    rw [placed] at pushed
    exact pushed

/-! ### Turns -/

theorem changeRooted {s s' : Strand V} (change : Change s s') (busy : s.stack ≠ [])
    (rooted : ∀ a, s.stack.getLast? = some a → a.finish ≠ .inlined) :
    ∀ a, s'.stack.getLast? = some a → a.finish ≠ .inlined := by
  cases change with
  | resumed => exact rooted
  | begun i => exact absurd rfl busy
  | @ended b below e last =>
    intro a bottom
    cases below with
    | nil => cases bottom
    | cons c below =>
      refine rooted a ?_
      rwa [List.getLast?_cons_cons]
  | @onward b b' below unfinished course wait =>
    intro a bottom
    cases below with
    | nil =>
      obtain rfl : b' = a := by simpa using bottom
      have finish : b'.finish = b.finish := congrArg Fate.finish course
      rw [finish]
      exact rooted b rfl
    | cons c below =>
      refine rooted a ?_
      rwa [List.getLast?_cons_cons] at bottom ⊢
  | @pushed b b' below unfinished course i =>
    intro a bottom
    rw [List.getLast?_cons_cons] at bottom
    cases below with
    | nil =>
      obtain rfl : b' = a := by simpa using bottom
      have finish : b'.finish = b.finish := congrArg Fate.finish course
      rw [finish]
      exact rooted b rfl
    | cons c below =>
      refine rooted a ?_
      rwa [List.getLast?_cons_cons] at bottom ⊢

theorem changeStanding {s s' : Strand V} (change : Change s s')
    (standing : s.wait ≠ none → s.stack ≠ []) : s'.wait ≠ none → s'.stack ≠ [] := by
  cases change with
  | onward unfinished course wait => exact fun _ => List.cons_ne_nil _ _
  | _ => exact fun waits => absurd rfl waits

theorem actedApart {a : Activity V} {below : List (Activity V)}
    (busy : h.strand t = ⟨a :: below, none⟩) (acted : Acted h t a below h') {n : Nat}
    (waits : (h'.strand t).wait = some (.drained n)) : t ≠ .serial n := by
  have set (s : Strand V) : (h.setStrand t s).strand t = s := strandSetSelf (hasOfStack busy) s
  cases acted with
  | ended last concluded =>
    rw [strandConcluded (by rw [set]) concluded, set] at waits
    cases waits
  | went next jotted =>
    rw [jotted.same.strand, set] at waits
    cases waits
  | submitted next submitted =>
    rcases strandSubmitted (set _) submitted with same | more
    · rw [same] at waits
      cases waits
    · rw [more] at waits
      cases waits
  | called next called =>
    rcases strandCalled (set _) called with same | same | same
    all_goals
      rw [same] at waits
      cases waits
  | closed next closed =>
    obtain ⟨w, same, none | ⟨m, drained, other⟩⟩ := strandClosed (set _) closed
    · rw [same, none] at waits
      cases waits
    · rw [same, drained] at waits
      cases waits
      exact other

theorem actedPlaced (orderly : Orderly h) {a : Activity V} {below : List (Activity V)}
    (busy : h.strand t = ⟨a :: below, none⟩) (acted : Acted h t a below h') :
    misplaced.hub h' = 0 := by
  have has := hasOfStack busy
  have still (s : Strand V) : (h.setStrand t s).Has t := hasSet has s
  have zero (stack : List (Activity V)) :
      totalWeight (misplaced : Measure V).activity stack = 0 := by
    induction stack with
    | nil => rfl
    | cons b rest ih => simpa [misplaced] using ih
  have replaced (stack : List (Activity V)) (w : Option Wait) :
      misplaced.hub (h.setStrand t ⟨stack, w⟩) = 0 := by
    have onto := misplacedCalm.setStrand busy stack w
    rw [zero, zero, orderly.placed] at onto
    exact onto
  cases acted with
  | ended last concluded => rw [misplacedCalm.concluded concluded, replaced]
  | went next jotted => rw [misplaced.jottedTotal jotted, replaced]
  | closed next closed => rw [misplacedCalm.closed (still _) closed, replaced]
  | @submitted q fallible work rest _ next submitted =>
    cases submitted with
    | queued admitted =>
      rw [misplaced.queuedTotal admitted, replaced, Nat.zero_add]
      exact if_neg (finishOfPlaced q fallible)
    | immediate admitted =>
      rw [misplaced.pushTotal (still _), replaced]
      rfl
    | dropped admitted => rw [misplaced.droppedTotal admitted, replaced]
  | @called q work rest _ next called =>
    cases called with
    | own current =>
      rw [misplaced.pushTotal (still _), replaced]
      rfl
    | immediate differs admitted =>
      rw [misplaced.pushTotal (still _), replaced]
      rfl
    | waits differs admitted =>
      rw [misplacedCalm.setWait (admitted.has (still _)), misplaced.queuedTotal admitted,
        replaced]
      rfl
    | refused differs admitted =>
      rw [misplacedCalm.given, misplaced.droppedTotal admitted, replaced]

theorem keptStanding {s s' : Strand V} (kept : Kept s s')
    (standing : s.wait ≠ none → s.stack ≠ []) : s'.wait ≠ none → s'.stack ≠ [] := by
  cases kept with
  | same => exact standing
  | given stack w => exact fun waits => absurd rfl waits

theorem keptWaits {s s' : Strand V} (kept : Kept s s') {w : Wait} (waits : s'.wait = some w) :
    s.wait = some w := by
  cases kept with
  | same => exact waits
  | given stack w => cases waits

theorem turnApart (orderly : Orderly h) (turned : Turned h t h') (u : ThreadRef) (n : Nat)
    (waits : (h'.strand u).wait = some (.drained n)) : u ≠ .serial n := by
  by_cases own : u = t
  · subst own
    cases turned with
    | acted busy acted => exact actedApart busy acted waits
    | @resumed stack m before drained =>
      have has : h.Has u := by
        by_contra absent
        rw [strandAbsent absent] at before
        cases before
      simp [has] at waits
    | begun idle found =>
      obtain ⟨taken, has⟩ := fetched found
      rw [push, strandSetSelf (taken.has has), taken.strand, idle] at waits
      cases waits
  · exact orderly.apart u n (keptWaits (turnKept own turned) waits)

theorem orderlyTurn (orderly : Orderly h) (turned : Turned h t h') : Orderly h' := by
  have standing (u : ThreadRef) : (h'.strand u).wait ≠ none → (h'.strand u).stack ≠ [] := by
    by_cases own : u = t
    · subst own
      exact changeStanding (turnChange turned) (orderly.standing u)
    · exact keptStanding (turnKept own turned) (orderly.standing u)
  have apart := turnApart orderly turned
  have rooted (busy : (h.strand t).stack ≠ []) (u : ThreadRef) (a : Activity V)
      (bottom : (h'.strand u).stack.getLast? = some a) : a.finish ≠ .inlined := by
    by_cases own : u = t
    · subst own
      exact changeRooted (turnChange turned) busy (orderly.rooted u) a bottom
    · rw [(turnKept own turned).stack] at bottom
      exact orderly.rooted u a bottom
  cases turned with
  | @resumed stack n waits drained =>
    obtain ⟨a, below, rfl⟩ := List.exists_cons_of_ne_nil
      (l := stack) (by simpa [waits] using orderly.standing t (by simp [waits]))
    have onto (m : Measure V) (calm : m.Calm) :
        m.hub (h.setStrand t ⟨a :: below, none⟩) = m.hub h := by
      have replaced := calm.setStrand waits (a :: below) none
      exact Nat.add_right_cancel replaced
    have set : (h.setStrand t ⟨a :: below, none⟩).strand t = ⟨a :: below, none⟩ :=
      strandSetSelf (hasOfStack waits) _
    refine ⟨fun u => ?_, standing, apart, rooted (by simp [waits]), ?_⟩
    · rw [Measure.stoppedTotal, onto _ (owedCalm u), orderly.owed u, strandStopped]
      by_cases own : u = t
      · subst own
        simp [set, waits]
      · rw [strandSetOther own]
    · rw [Measure.stoppedTotal, onto _ misplacedCalm, orderly.placed]
  | acted busy acted =>
    exact ⟨actedOwed orderly busy acted, standing, apart, rooted (by simp [busy]),
      actedPlaced orderly busy acted⟩
  | begun idle found =>
    obtain ⟨taken, has⟩ := fetched found
    exact orderlyPush orderly (takenFetched taken) (taken.has has) (by rw [idle]; rfl)

theorem orderlySame (orderly : Orderly h) (same : ∀ u, h'.strand u = h.strand u)
    (total : ∀ m : Measure V, m.Calm → m.hub h' = m.hub h) : Orderly h' := by
  refine ⟨fun u => ?_, fun u => ?_, fun u => ?_, fun u => ?_,
    (total _ misplacedCalm).trans orderly.placed⟩
  · rw [total _ (owedCalm u), same]
    exact orderly.owed u
  · rw [same]
    exact orderly.standing u
  · rw [same]
    exact orderly.apart u
  · rw [same]
    exact orderly.rooted u

theorem grabbed (h : Hub V) (n : Nat) (nested : Bool) (i : Nat) :
    h.grab n nested i = h ∨ ∃ item h', Taken h item h' ∧ SameQueues h h' ∧
      h'.Has (.background n) ∧ h.strand (.background n) = .idle ∧
      h.grab n nested i = h'.push (.background n) item := by
  unfold grab
  cases thread : h.background[n]? with
  | none => exact .inl rfl
  | some s =>
    obtain ⟨stack, wait⟩ := s
    have has : h.Has (.background n) := (List.getElem?_eq_some_iff.mp thread).1
    cases found : (if nested then h.nested else h.injected)[i]? with
    | none => cases stack <;> cases wait <;> exact .inl rfl
    | some item =>
      cases stack with
      | cons a below => cases wait <;> exact .inl rfl
      | nil =>
        cases wait with
        | some w => exact .inl rfl
        | none =>
          have idle : h.strand (.background n) = .idle := by simp [strand, thread, Strand.idle]
          cases nested with
          | true =>
            refine .inr ⟨item, { h with nested := h.nested.eraseIdx i },
              takenTotal ⟨rfl, rfl, rfl⟩ fun m => ?_, ⟨fun _ => rfl, fun _ => rfl, rfl⟩,
              hasLike has rfl rfl, idle, rfl⟩
            have fewer := totalWeightErase m.item found
            simp only [if_true] at fewer
            simp only [Measure.hub, totalWeightAppend]
            omega
          | false =>
            refine .inr ⟨item, { h with injected := h.injected.eraseIdx i },
              takenTotal ⟨rfl, rfl, rfl⟩ fun m => ?_, ⟨fun _ => rfl, fun _ => rfl, rfl⟩,
              hasLike has rfl rfl, idle, rfl⟩
            have fewer := totalWeightErase m.item found
            simp only [Bool.false_eq_true, if_false] at fewer
            simp only [Measure.hub, totalWeightAppend]
            omega

theorem strandMade {title : String} (made : Made h title h') (u : ThreadRef) :
    h'.strand u = h.strand u := by
  cases made with
  | unnamed => exact SameThreads.strand ⟨rfl, rfl, rfl⟩ u
  | lane name =>
    rw [strandEntry]
    cases u with
    | caller => rfl
    | background n => rfl
    | serial n =>
      by_cases old : n < h.lanes.length
      · simp [strand, List.getElem?_append_left old]
      · have absent : ¬ h.Has (.serial n) := old
        rw [strandAbsent absent]
        by_cases new : n = h.lanes.length
        · simp [strand, new]
        · have none : (h.lanes ++ [⟨title, .start name, .idle⟩])[n]? = none :=
            List.getElem?_eq_none (by simp; omega)
          simp only [strand, none]
          rfl

theorem totalMade (m : Measure V) {title : String} (made : Made h title h') :
    m.hub h' = m.hub h := by
  cases made with
  | unnamed => rfl
  | lane name =>
    have idle : m.strand Strand.idle = 0 := rfl
    have start : totalWeight m.item (SerialQueue.start name).backlog = 0 := rfl
    simp only [Measure.hubParts, entry, totalWeightAppend, totalWeight, idle, start]
    omega

theorem orderlyTake (orderly : Orderly h) (free : h.caller.wait = none) : Orderly h.takeEntry := by
  unfold takeEntry
  cases waiting : h.pending with
  | nil => exact orderly
  | cons e rest =>
    cases e with
    | handle failure =>
      have handled : SameThreads h ({ h with pending := rest }.handle failure) :=
        ⟨(sameHandle _).caller, (sameHandle _).background, (sameHandle _).lanes⟩
      refine orderlySame orderly handled.strand fun m calm => ?_
      have less : m.hub { h with pending := rest } = m.hub h := by
        simp [Measure.hub, waiting, Measure.entry, calm.failure]
      rw [← less]
      unfold handle
      cases h.handling <;> rfl
    | item i =>
      have taken : Taken h i { h with pending := rest } :=
        takenTotal ⟨rfl, rfl, rfl⟩ fun m => by
          simp only [Measure.hub, waiting, totalWeight, Measure.entry]
          omega
      exact orderlyPush orderly taken trivial free

theorem orderlyStep (shielded : h.Shielded) (orderly : Orderly h) (m : Move V) :
    Orderly (h.step m) := by
  cases m with
  | turn t =>
    cases stepped : h.step? t with
    | none => simpa [step, stepped] using orderly
    | some h' => simpa [step, stepped] using orderlyTurn orderly (turned shielded stepped)
  | grab n nested i =>
    rcases grabbed h n nested i with same | ⟨item, h', taken, -, has, idle, same⟩
    · simpa [step, same] using orderly
    · simpa [step, same] using orderlyPush orderly taken has (by rw [idle]; rfl)
  | program work =>
    change Orderly (h.beginProgram work)
    unfold beginProgram
    split
    case h_1 free =>
      have taken : Taken h ⟨none, work, .own⟩ h := ⟨fun _ => rfl, fun _ => rfl, rfl⟩
      exact orderlyPush (t := .caller) orderly taken trivial (by simp [strand, free])
    case h_2 => exact orderly
  | mainLoop =>
    cases free : h.caller.wait with
    | some w => simpa [step, free] using orderly
    | none => simpa [step, free] using orderlyTake orderly free
  | make title =>
    exact orderlySame orderly (strandMade (made h title)) fun m _ => totalMade m (made h title)

theorem totalIdle (m : Measure V) (crew : Nat) :
    totalWeight m.strand (List.replicate crew .idle) = 0 := by
  induction crew with
  | zero => rfl
  | succ n ih =>
    rw [List.replicate_succ]
    exact ih ▸ Nat.zero_add _

@[simp]
theorem strandBlank (trampoline : Trampoline) (handling : FailureHandling) (callerIsMain : Bool)
    (options : DispatchOptions) (crew : Nat) (u : ThreadRef) :
    (blank trampoline handling callerIsMain options crew : Hub V).strand u = .idle := by
  cases u with
  | caller => rfl
  | background n => by_cases has : n < crew <;> simp [strand, blank, has]
  | serial n => rfl

theorem orderlyBlank (trampoline : Trampoline) (handling : FailureHandling) (callerIsMain : Bool)
    (options : DispatchOptions) (crew : Nat) :
    Orderly (blank trampoline handling callerIsMain options crew : Hub V) := by
  have nothing (m : Measure V) :
      m.hub (blank trampoline handling callerIsMain options crew) = 0 := by
    rw [Measure.hubParts]
    simp only [blank, totalIdle]
    rfl
  refine ⟨fun u => ?_, fun u => ?_, fun u => ?_, fun u => ?_, nothing _⟩
  · simp [nothing, Strand.idle]
  · simp [Strand.idle]
  · simp [Strand.idle]
  · simp [Strand.idle]

theorem orderlyRun (shielded : h.Shielded) (orderly : Orderly h) (moves : List (Move V)) :
    Orderly (h.run moves) := by
  induction moves generalizing h with
  | nil => exact orderly
  | cons m rest ih => exact ih (shieldedStep shielded m) (orderlyStep shielded orderly m)

end VideoPreview.Hub
