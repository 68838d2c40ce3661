import VideoPreview.Proofs.Alone
import VideoPreview.Proofs.Desertion

/-! The service of a serial queue. What an item does to its queue, what comes of calls to it from
outside and of closing it, and what its ledger says in any run: nothing that an item does or comes
to keeps the ones behind it from running. -/
namespace VideoPreview.Hub

variable {V : Type} {h h' h₀ : Hub V} {t : ThreadRef} {n : Nat}

def Faces (h : Hub V) (t : ThreadRef) (a : Activity V) (below : List (Activity V)) (next : Work V) :
    Prop := h.strand t = ⟨a :: below, none⟩ ∧ a.rest = next

@[simp]
theorem threadNameSetStrand (s : Strand V) (u : ThreadRef) :
    (h.setStrand t s).threadName u = h.threadName u := by
  cases u with
  | caller => rfl
  | background m => rfl
  | serial m =>
    cases t with
    | caller => rfl
    | background i => rfl
    | serial i =>
      by_cases same : i = m <;> cases lane : h.lanes[m]? <;>
        simp [threadName, setStrand, same, lane]

theorem facedTurn (shielded : h.Shielded) {a : Activity V} {below : List (Activity V)}
    {next : Work V} (faces : h.Faces t a below next) : h.step (.turn t) = h.act t a below :=
  turnStep (busyStep shielded faces.1)

theorem closedDrops {name : String} (found : h.lane? name = some n) (closed : h.opened n = false)
    (s : Strand V) (i : Item V) : (h.setStrand t s).accept t (.serial name) i =
      .dropped ((h.setStrand t s).entry (.workDropped (h.threadName (.serial n)))) := by
  rw [← laneSetStrand (t := t) s] at found
  rw [← openedSetStrand t s] at closed
  rw [← threadNameSetStrand (t := t) s]
  obtain ⟨l, lane⟩ := laneHas found
  have refuses : l.queue.accepts = false := (laneFound lane).2.2 ▸ closed
  simp [accept, found, lane, refuses, threadName]

theorem openTakes {name : String} (found : h.lane? name = some n) (opened : h.opened n = true)
    (s : Strand V) (i : Item V) : ∃ q,
      (h.setStrand t s).accept t (.serial name) i = .queued ((h.setStrand t s).setQueue n q) := by
  rw [← laneSetStrand (t := t) s] at found
  rw [← openedSetStrand t s] at opened
  obtain ⟨l, lane⟩ := laneHas found
  have accepts : l.queue.accepts = true := (laneFound lane).2.2 ▸ opened
  exact ⟨l.queue.submit i, by simp [accept, found, lane, accepts]⟩

variable {a : Activity V} {below : List (Activity V)} {name : String} {work rest : Work V}

theorem lateSubmission (shielded : h.Shielded) {fallible : Bool}
    (faces : h.Faces t a below (.submit (.serial name) fallible work rest))
    (found : h.lane? name = some n) (closed : h.opened n = false) :
    h.step (.turn t) = (h.setStrand t ⟨{ a with rest } :: below, none⟩).entry
      (.workDropped (h.threadName (.serial n))) := by
  rw [facedTurn shielded faces]
  simp [act, faces.2, submit, closedDrops found closed]

theorem lateCall (shielded : h.Shielded)
    (faces : h.Faces t a below (.call (.serial name) work rest))
    (found : h.lane? name = some n) (closed : h.opened n = false) (other : t ≠ .serial n) :
    h.step (.turn t) = ((h.setStrand t ⟨{ a with rest } :: below, none⟩).entry
      (.workDropped (h.threadName (.serial n)))).record a.place
        (.result (.failed (.abandoned "serial"))) := by
  have own := strandSetSelf (hasOfStack faces.1) ⟨{ a with rest } :: below, none⟩
  have elsewhere := (currentOwn (t := t) found).trans (decide_eq_false other)
  have given : (h.act t a below) = ((h.setStrand t ⟨{ a with rest } :: below, none⟩).entry
      (.workDropped (h.threadName (.serial n)))).giveResult t (.failed (.abandoned "serial")) := by
    simp [act, faces.2, call, elsewhere, closedDrops found closed, label]
  rw [facedTurn shielded faces, given, giveResult, strandEntry, own]
  simp only
  rw [setStrandSame ((strandEntry ..).trans own)]

theorem ownCall (shielded : h.Shielded)
    (faces : h.Faces (.serial n) a below (.call (.serial name) work rest))
    (found : h.lane? name = some n) :
    h.step (.turn (.serial n)) = h.setStrand (.serial n)
      ⟨Item.begin ⟨some (.serial name), work, .inlined⟩ :: { a with rest } :: below, none⟩ := by
  rw [facedTurn shielded faces]
  have own := strandSetSelf (hasOfStack faces.1) ⟨{ a with rest } :: below, none⟩
  simp [act, faces.2, call, currentOwn found, push, own, setStrandTwice]

theorem closeTurn (shielded : h.Shielded) (faces : h.Faces t a below (.close name rest))
    (found : h.lane? name = some n) (opened : h.opened n = true) :
    (h.step (.turn t)).strand t =
        ⟨{ a with rest } :: below, if t = .serial n then none else some (.drained n)⟩ ∧
      (h.step (.turn t)).opened n = false := by
  rw [← laneSetStrand (t := t) ⟨{ a with rest } :: below, none⟩] at found
  rw [← openedSetStrand t ⟨{ a with rest } :: below, none⟩] at opened
  have has := hasSet (hasOfStack faces.1) (t := t) ⟨{ a with rest } :: below, none⟩
  have own := strandSetSelf (hasOfStack faces.1) ⟨{ a with rest } :: below, none⟩
  have acts : h.step (.turn t) =
      (h.setStrand t ⟨{ a with rest } :: below, none⟩).close t name := by
    simp [facedTurn shielded faces, act, faces.2]
  rw [acts]
  generalize h.setStrand t ⟨{ a with rest } :: below, none⟩ = h₁ at *
  have closed := closed h₁ t name
  generalize h₁.close t name = h' at closed ⊢
  cases closed with
  | nothing unopened => simp [unopened n found] at opened
  | detached here lane _ same =>
    cases found.symm.trans here
    rw [if_pos same, strandEntry, strandSetQueue, own]
    exact ⟨rfl, (queueSetSelf (laneFound lane).1 _).2⟩
  | waits here lane _ other =>
    cases found.symm.trans here
    rw [if_neg other, strandSetSelf (hasSetQueue has n _), own, openedSetStrand]
    exact ⟨rfl, (queueSetSelf (laneFound lane).1 _).2⟩

theorem outsideCall (shielded : h.Shielded)
    (faces : h.Faces t a below (.call (.serial name) work rest)) (found : h.lane? name = some n)
    (opened : h.opened n = true) (other : t ≠ .serial n) :
    (h.step (.turn t)).strand t = ⟨{ a with rest } :: below, some .result⟩ ∧
      accepting n h (.turn t) = [⟨some (.serial name), work, .reply t⟩] := by
  have has := hasOfStack faces.1
  have own := strandSetSelf has ⟨{ a with rest } :: below, none⟩
  have elsewhere := (currentOwn (t := t) found).trans (decide_eq_false other)
  refine ⟨?_, ?_⟩
  · obtain ⟨q, taken⟩ := openTakes (t := t) found opened ⟨{ a with rest } :: below, none⟩
      ⟨some (.serial name), work, .reply t⟩
    rw [facedTurn shielded faces]
    simp only [act, faces.2, call, currentSetStrand, elsewhere, taken, strandSetQueue, own]
    exact strandSetSelf (hasSetQueue (hasSet has _) n _) _
  · have offer :
        h.offer? t a.rest = some (.serial name, ⟨some (.serial name), work, .reply t⟩) := by
      simp [faces.2, offer?, elsewhere]
    rw [acceptingBusy faces.1 offer]
    exact if_pos ⟨found, opened⟩

theorem waitingStep (shielded : h.Shielded) (orderly : Orderly h) {stack : List (Activity V)}
    {w : Wait} (waits : h.strand t = ⟨stack, some w⟩) (m : Move V) :
    (h.step m).strand t = ⟨stack, some w⟩ ∨ (∃ k, w = .drained k ∧ h.isDrained k = true) ∨
      (w = .result ∧ ∃ u b rest, m = .turn u ∧ h.strand u = ⟨b :: rest, none⟩ ∧
        b.ending?.isSome = true ∧ b.finish = .reply t) := by
  have still (apart : ∀ u, m ≠ .turn u) : (h.step m).strand t = ⟨stack, some w⟩ := by
    rw [strandStill apart (.inr (by simp [waits])), waits]
  cases m with
  | turn u =>
    cases stepped : h.step? u with
    | none => exact .inl (by simp [step, stepped, waits])
    | some h' =>
      rw [turnStep stepped]
      by_cases own : t = u
      · subst own
        cases turned shielded stepped with
        | resumed before drained =>
          cases waits.symm.trans before
          exact .inr (.inl ⟨_, rfl, drained⟩)
        | acted busy acted => cases waits.symm.trans busy
        | begun idle found => cases waits.symm.trans idle
      · cases turned shielded stepped with
        | resumed before drained => exact .inl (by simp [own, waits])
        | begun idle found =>
          exact .inl (by rw [strandPushedOther own, (fetched found).1.strand, waits])
        | @acted b rest _ busy acted =>
          rcases actedOther own acted with same | ⟨e, last, replies, -⟩
          · exact .inl (same.trans waits)
          · refine .inr (.inr ⟨?_, u, b, rest, rfl, busy, by simp [last], replies⟩)
            have awaited := orderly.awaited (t := u) (by simp [busy]) replies
            simpa [waits] using awaited
  | grab i nested j => exact .inl (still (by simp))
  | program work => exact .inl (still (by simp))
  | mainLoop => exact .inl (still (by simp))
  | make title => exact .inl (still (by simp))

theorem answering (orderly : Orderly h) {u : ThreadRef} {b : Activity V} {rest : List (Activity V)}
    (busy : h.strand u = ⟨b :: rest, none⟩) (replies : b.finish = .reply t)
    (held : (∃ j ∈ h.backlog n, j.finish = .reply t) ∨ ∃ c ∈ running n h, c.finish = .reply t) :
    u = .serial n ∧ rest = [] ∧ ∀ j ∈ h.backlog n, j.finish ≠ .reply t := by
  have once := orderly.once t
  have counted {c : Activity V} (also : c.finish = .reply t) : (owed t).activity c = 1 :=
    if_pos also
  have queued {j : Item V} (also : j.finish = .reply t) : (owed t).item j = 1 := if_pos also
  have part : 1 ≤ (owed t).lane n h := by
    rcases held with ⟨j, waits, also⟩ | ⟨c, runs, also⟩
    · have item := totalWeightMem (owed t).item waits
      rw [queued also] at item
      exact Nat.le_trans item (Nat.le_add_left _ _)
    · have mem : c ∈ (h.strand (.serial n)).stack :=
        List.mem_of_getLast? (Option.mem_toList.mp runs)
      have activity := (owed t).activityLe mem
      rw [counted also] at activity
      exact Nat.le_trans activity (Nat.le_add_right _ _)
  have here : u = .serial n := by
    by_contra elsewhere
    have both := (owed t).laneApart (h := h) elsewhere
    have activity := (owed t).activityLe (s := h.strand u) (a := b) (by simp [busy])
    rw [counted replies] at activity
    omega
  subst here
  have whole := (owed t).laneLe (h := h) n
  simp only [Measure.lane, Measure.strand, busy, totalWeight, counted replies] at whole
  have others : ∀ j ∈ h.backlog n, j.finish ≠ .reply t := by
    intro j waits also
    have item := totalWeightMem (owed t).item waits
    rw [queued also] at item
    omega
  refine ⟨rfl, ?_, others⟩
  rcases held with ⟨j, waits, also⟩ | ⟨c, runs, also⟩
  · exact absurd also (others j waits)
  · cases rest with
    | nil => rfl
    | cons d ds =>
      have deeper : c ∈ d :: ds := by
        rw [running, busy, List.getLast?_cons_cons] at runs
        exact List.mem_of_getLast? (Option.mem_toList.mp runs)
      have activity := totalWeightMem (owed t).activity deeper
      rw [counted also] at activity
      omega

theorem reachedOrAhead {α : Type} {done ahead before after : List α} {x : α}
    (same : before ++ x :: after = done ++ ahead) : before ++ [x] <+: done ∨ x ∈ ahead := by
  rcases List.append_eq_append_iff.mp same with ⟨more, rfl, here⟩ | ⟨more, rfl, here⟩
  · cases more with
    | nil =>
      rw [List.nil_append] at here
      exact .inr (here ▸ List.mem_cons_self)
    | cons y more =>
      cases here
      exact .inl ⟨more, by simp⟩
  · exact .inr (by simp [here])

theorem answered (orderly : Orderly h) {done before after : List (Fate V)} {x : Fate V}
    (owes : x.finish = .reply t) (fates : before ++ x :: after =
      done ++ ((running n h).map Activity.fate ++ (h.backlog n).map Item.fate))
    {u : ThreadRef} {b : Activity V} {rest : List (Activity V)}
    (busy : h.strand u = ⟨b :: rest, none⟩) (last : b.ending?.isSome = true)
    (replies : b.finish = .reply t) :
    before ++ [x] <+: done ++ (ending n h (.turn u)).map Activity.fate := by
  -- what `t` waits for has run before, runs now, or is still in the queue
  rcases reachedOrAhead fates with reached | ahead
  · exact reached.trans (List.prefix_append _ _)
  have held :
      (∃ j ∈ h.backlog n, j.finish = .reply t) ∨ ∃ c ∈ running n h, c.finish = .reply t := by
    rcases List.mem_append.mp ahead with runs | waits
    · obtain ⟨c, mem, rfl⟩ := List.mem_map.mp runs
      exact .inr ⟨c, mem, owes⟩
    · obtain ⟨j, mem, rfl⟩ := List.mem_map.mp waits
      exact .inl ⟨j, mem, owes⟩
  obtain ⟨rfl, rfl, others⟩ := answering orderly busy replies held
  have ends : ending n h (.turn (.serial n)) = running n h := by
    rw [endingAlone busy, if_pos last, running, busy]
    rfl
  rw [ends]
  rw [← List.append_assoc] at fates
  rcases reachedOrAhead fates with reached | waits
  · exact reached
  · obtain ⟨j, mem, rfl⟩ := List.mem_map.mp waits
    exact absurd owes (others j mem)

theorem endedSnoc (moves : List (Move V)) (m : Move V) :
    (ended n h (moves ++ [m])).map Activity.fate =
      (ended n h moves).map Activity.fate ++ (ending n (h.run moves) m).map Activity.fate := by
  rw [← List.map_append]
  exact congrArg _ (seenSnoc step (ending n) h moves m)

variable {moves : List (Move V)}

theorem returnsServed (shielded : h₀.Shielded) (ledger : ∀ moves, Ledger n h₀ moves)
    (orderly : Orderly h₀) (faces : (h₀.run moves).Faces t a below (.call (.serial name) work rest))
    (found : (h₀.run moves).lane? name = some n) (opened : (h₀.run moves).opened n = true)
    (other : t ≠ .serial n) (after : List (Move V)) :
    (h₀.run (moves ++ .turn t :: after)).strand t = ⟨{ a with rest } :: below, some .result⟩ ∨
      (accepted n h₀ moves).map Item.fate ++
        [⟨some (.serial name), .reply t, work.outcome none⟩] <+:
        (ended n h₀ (moves ++ .turn t :: after)).map Activity.fate := by
  obtain ⟨asked, accepts⟩ := outsideCall (shieldedRun shielded moves) faces found opened other
  induction after using List.reverseRecOn with
  | nil =>
    refine .inl ?_
    rw [runAppend]
    exact asked
  | append_singleton after m ih =>
    have snoc : moves ++ .turn t :: (after ++ [m]) = (moves ++ .turn t :: after) ++ [m] := by simp
    have fates := (ledger (moves ++ .turn t :: after)).fates
    rw [acceptedAppend] at fates
    change (_ ++ (accepting n (h₀.run moves) (.turn t) ++ _)).map Item.fate = _ at fates
    rw [accepts, List.map_append] at fates
    rw [snoc]
    generalize moves ++ .turn t :: after = later at *
    rw [endedSnoc]
    have orderly := orderlyRun shielded orderly later
    rcases ih with waits | served
    · rcases waitingStep (shieldedRun shielded later) orderly waits m with same | ⟨k, no, -⟩ | ends
      · refine .inl ?_
        rw [runAppend]
        exact same
      · cases no
      · obtain ⟨-, u, b, deeper, rfl, busy, last, replies⟩ := ends
        exact .inr (answered orderly rfl fates busy last replies)
    · exact .inr (served.trans (List.prefix_append _ _))

theorem closedAccepts (shielded : h₀.Shielded)
    (faces : (h₀.run moves).Faces t a below (.close name rest))
    (found : (h₀.run moves).lane? name = some n)
    (closed : ((h₀.run moves).step (.turn t)).opened n = false) (after : List (Move V)) :
    accepted n h₀ (moves ++ .turn t :: after) = accepted n h₀ moves := by
  have silent : accepting n (h₀.run moves) (.turn t) = [] := by
    refine acceptingNothing fun b deeper busy => ?_
    cases faces.1.symm.trans busy
    rw [faces.2]
    rfl
  have has : n < ((h₀.run moves).step (.turn t)).lanes.length := by
    obtain ⟨l, lane⟩ := laneHas found
    exact Nat.lt_of_lt_of_le (laneFound lane).1
      (laneMove (n := n) (shieldedRun shielded moves) _).lanes
  rw [acceptedAppend]
  change _ ++ (accepting n (h₀.run moves) (.turn t) ++
    accepted n ((h₀.run moves).step (.turn t)) after) = _
  rw [silent, (shut (shieldedStep (shieldedRun shielded moves) _) has closed after).1]
  exact List.append_nil _

theorem endedStays {later : List (Move V)} {m : Move V} {fates : List (Fate V)}
    (ledger : Ledger n h₀ (later ++ [m]))
    (accepts : (accepted n h₀ (later ++ [m])).map Item.fate = fates)
    (served : (ended n h₀ later).map Activity.fate = fates) :
    (ended n h₀ (later ++ [m])).map Activity.fate = fates := by
  have ranFirst := ledger.ranFirst
  rw [accepts] at ranFirst
  refine ranFirst.eq_of_length_le ?_
  rw [← served, endedSnoc]
  simp

theorem closesServed (shielded : h₀.Shielded) (ledger : ∀ moves, Ledger n h₀ moves)
    (orderly : Orderly h₀) (faces : (h₀.run moves).Faces t a below (.close name rest))
    (found : (h₀.run moves).lane? name = some n) (opened : (h₀.run moves).opened n = true)
    (other : t ≠ .serial n) (after : List (Move V)) :
    (h₀.run (moves ++ .turn t :: after)).strand t =
        ⟨{ a with rest } :: below, some (.drained n)⟩ ∨
      (ended n h₀ (moves ++ .turn t :: after)).map Activity.fate =
        (accepted n h₀ moves).map Item.fate := by
  obtain ⟨asked, closed⟩ := closeTurn (shieldedRun shielded moves) faces found opened
  rw [if_neg other] at asked
  have accepts := closedAccepts shielded faces found closed
  induction after using List.reverseRecOn with
  | nil =>
    refine .inl ?_
    rw [runAppend]
    exact asked
  | append_singleton after m ih =>
    have more := accepts (after ++ [m])
    have snoc : moves ++ .turn t :: (after ++ [m]) = (moves ++ .turn t :: after) ++ [m] := by simp
    have same := accepts after
    rw [snoc] at more ⊢
    generalize moves ++ .turn t :: after = later at *
    have stays := endedStays (ledger (later ++ [m])) (congrArg (List.map Item.fate) more)
    rcases ih with waits | served
    · rcases waitingStep (shieldedRun shielded later) (orderlyRun shielded orderly later) waits m
        with kept | ⟨k, here, drained⟩ | ⟨no, -⟩
      · refine .inl ?_
        rw [runAppend]
        exact kept
      · cases here
        obtain ⟨idle, empty⟩ := drainedRests drained
        refine .inr (stays ?_)
        have fates := (ledger later).fates
        simpa [same, running, idle, empty] using fates.symm
      · cases no
    · exact .inr (stays served)

theorem survives (shielded : h.Shielded) {e : Ending V} (busy : h.strand (.serial n) = ⟨[a], none⟩)
    (last : a.ending? = some e) : (h.step (.turn (.serial n))).strand (.serial n) = .idle := by
  have stepped := busyStep shielded busy
  rw [turnStep stepped]
  have change := turnChange (turned shielded stepped)
  rw [busy] at change
  generalize (h.act (.serial n) a []).strand (.serial n) = s at change ⊢
  cases change with
  | ended _ => rfl
  | onward unfinished _ _ => cases unfinished.symm.trans last
  | pushed unfinished _ _ => cases unfinished.symm.trans last

theorem takesUp (shielded : h.Shielded) {i : Item V} {others : List (Item V)}
    (idle : h.strand (.serial n) = .idle) (waiting : h.backlog n = i :: others) :
    (h.step (.turn (.serial n))).strand (.serial n) = ⟨[i.begin], none⟩ ∧
      (h.step (.turn (.serial n))).backlog n = others := by
  cases lane : h.lanes[n]? with
  | none => simp [backlog, lane] at waiting
  | some l =>
    obtain ⟨has, backlog, -⟩ := laneFound lane
    rw [backlog] at waiting
    have after : h.step (.turn (.serial n)) =
        (h.setQueue n { l.queue with backlog := others }).push (.serial n) i := by
      simp [step, step?, shielded.live, idle, Strand.idle, fetch?, lane, SerialQueue.take?, waiting]
    have there : (h.setQueue n { l.queue with backlog := others }).Has (.serial n) :=
      hasSetQueue (t := .serial n) has n _
    rw [after, push, strandSetSelf there, strandSetQueue, idle, backlogSetStrand]
    exact ⟨rfl, (queueSetSelf has _).1⟩

theorem acceptingForeign (h : Hub V) (m : Move V) :
    ∀ i ∈ accepting n h m, i.finish ≠ .reply (.serial n) := by
  intro i mem
  obtain ⟨t, a, below, name, -, -, offer, found⟩ := acceptingOffer mem
  cases next : a.rest with
  | submit q fallible work rest =>
    rw [next] at offer
    cases offer
    exact finishOfUnawaited _ _ _
  | call q work rest =>
    by_cases current : h.isCurrent t q = true
    · simp [next, offer?, current] at offer
    · simp only [next, offer?, current] at offer
      cases offer
      rintro ⟨⟩
      simp [currentOwn found] at current
  | _ => simp [next, offer?] at offer

/-- How queue `n` serves, as it stands after some moves. Items are started in the order in which
they were accepted, each comes to its end before the next is started, and however it ends, its
thread takes up the next one. The turns of the thread come to an end, and then it has run all that
was accepted, unless it waits for others; it never waits for itself, nor for anybody if there is no
other serial queue and only such are called. Once closed, the queue accepts nothing more: it drops
what is submitted, and a call from another thread comes back without having run. A call from its own
thread runs on top of the caller, and its own thread closes it without waiting. A call or a closing
from another thread comes back only after all that was accepted before it has run. -/
structure Serves (n : Nat) (h₀ : Hub V) (moves : List (Move V)) : Prop where
  inOrder : accepted n h₀ moves = started n h₀ moves ++ (h₀.run moves).backlog n
  oneByOne : (started n h₀ moves).map Item.fate =
      (ended n h₀ moves ++ running n (h₀.run moves)).map Activity.fate ∧
    (running n (h₀.run moves)).length ≤ 1
  ranFirst : (ended n h₀ moves).map Activity.fate <+: (accepted n h₀ moves).map Item.fate
  survives : ∀ a e, (h₀.run moves).strand (.serial n) = ⟨[a], none⟩ → a.ending? = some e →
    ((h₀.run moves).step (.turn (.serial n))).strand (.serial n) = .idle
  takesUp : ∀ i others, (h₀.run moves).strand (.serial n) = .idle →
    (h₀.run moves).backlog n = i :: others →
      ((h₀.run moves).step (.turn (.serial n))).strand (.serial n) = ⟨[i.begin], none⟩ ∧
        ((h₀.run moves).step (.turn (.serial n))).backlog n = others
  goesOn : ∃ k, (h₀.run (moves ++ List.replicate k (.turn (.serial n)))).step? (.serial n) = none
  allRun : (h₀.run moves).step? (.serial n) = none →
    ((h₀.run moves).strand (.serial n)).wait = none →
      (ended n h₀ moves).map Activity.fate = (accepted n h₀ moves).map Item.fate
  neverItself : (∀ m, ((h₀.run moves).strand (.serial n)).wait = some (.drained m) → m ≠ n) ∧
    ∀ i ∈ accepted n h₀ moves, i.finish ≠ .reply (.serial n)
  aloneRuns : (h₀.run moves).lanes.length ≤ 1 →
    (∀ i ∈ accepted n h₀ moves, i.work.serialOnly = true) →
      ((h₀.run moves).strand (.serial n)).wait = none ∧
        ∃ k, (ended n h₀ (moves ++ List.replicate k (.turn (.serial n)))).map Activity.fate =
          (accepted n h₀ (moves ++ List.replicate k (.turn (.serial n)))).map Item.fate
  shut : n < (h₀.run moves).lanes.length → (h₀.run moves).opened n = false →
    ∀ after, accepted n h₀ (moves ++ after) = accepted n h₀ moves ∧
      (h₀.run (moves ++ after)).opened n = false
  drops : ∀ t a below name fallible work rest,
    (h₀.run moves).Faces t a below (.submit (.serial name) fallible work rest) →
    (h₀.run moves).lane? name = some n → (h₀.run moves).opened n = false →
      (h₀.run moves).step (.turn t) =
        ((h₀.run moves).setStrand t ⟨{ a with rest } :: below, none⟩).entry
        (.workDropped ((h₀.run moves).threadName (.serial n)))
  abandons : ∀ t a below name work rest,
    (h₀.run moves).Faces t a below (.call (.serial name) work rest) →
    (h₀.run moves).lane? name = some n → (h₀.run moves).opened n = false → t ≠ .serial n →
      (h₀.run moves).step (.turn t) =
        (((h₀.run moves).setStrand t ⟨{ a with rest } :: below, none⟩).entry
          (.workDropped ((h₀.run moves).threadName (.serial n)))).record a.place
            (.result (.failed (.abandoned "serial")))
  inside : ∀ a below name work rest,
    (h₀.run moves).Faces (.serial n) a below (.call (.serial name) work rest) →
    (h₀.run moves).lane? name = some n →
      (h₀.run moves).step (.turn (.serial n)) = (h₀.run moves).setStrand (.serial n)
        ⟨Item.begin ⟨some (.serial name), work, .inlined⟩ :: { a with rest } :: below, none⟩
  detaches : ∀ a below name rest, (h₀.run moves).Faces (.serial n) a below (.close name rest) →
    (h₀.run moves).lane? name = some n → (h₀.run moves).opened n = true →
      ((h₀.run moves).step (.turn (.serial n))).strand (.serial n) =
          ⟨{ a with rest } :: below, none⟩ ∧
        ((h₀.run moves).step (.turn (.serial n))).opened n = false
  returns : ∀ t a below name work rest,
    (h₀.run moves).Faces t a below (.call (.serial name) work rest) →
    (h₀.run moves).lane? name = some n → (h₀.run moves).opened n = true → t ≠ .serial n → ∀ after,
      (h₀.run (moves ++ .turn t :: after)).strand t = ⟨{ a with rest } :: below, some .result⟩ ∨
        (accepted n h₀ moves).map Item.fate ++
            [⟨some (.serial name), .reply t, work.outcome none⟩] <+:
          (ended n h₀ (moves ++ .turn t :: after)).map Activity.fate
  closes : ∀ t a below name rest, (h₀.run moves).Faces t a below (.close name rest) →
    (h₀.run moves).lane? name = some n → (h₀.run moves).opened n = true → t ≠ .serial n → ∀ after,
      (h₀.run (moves ++ .turn t :: after)).strand t =
          ⟨{ a with rest } :: below, some (.drained n)⟩ ∨
        (ended n h₀ (moves ++ .turn t :: after)).map Activity.fate =
          (accepted n h₀ moves).map Item.fate

theorem acceptedRunInOrder (trampoline : Trampoline) (handling : FailureHandling)
    (calm : trampoline = .pump ∨ handling.IsGentle) (callerIsMain : Bool)
    (options : DispatchOptions) (crew n : Nat) (moves : List (Move V)) :
    Serves n (blank trampoline handling callerIsMain options crew) moves := by
  have shielded : (blank trampoline handling callerIsMain options crew : Hub V).Shielded :=
    shieldedBlank calm ..
  have idle :
      (blank trampoline handling callerIsMain options crew : Hub V).strand (.serial n) = .idle :=
    strandBlank ..
  have orderly : Orderly (blank trampoline handling callerIsMain options crew : Hub V) :=
    orderlyBlank ..
  have ledger (moves : List (Move V)) :
      Ledger n (blank trampoline handling callerIsMain options crew) moves :=
    ledgerOf shielded rfl idle moves
  generalize (blank trampoline handling callerIsMain options crew : Hub V) = h₀ at *
  exact {
    inOrder := (ledger moves).order
    oneByOne := ⟨(ledger moves).course, runningLength ..⟩
    ranFirst := (ledger moves).ranFirst
    survives := fun _ _ => survives (shieldedRun shielded moves)
    takesUp := fun _ _ => takesUp (shieldedRun shielded moves)
    goesOn := by
      obtain ⟨k, stuck⟩ := goesOn (h₀.run moves) (.serial n)
      exact ⟨k, by rwa [runAppend]⟩
    allRun := fun stuck free => by
      obtain ⟨alone, empty⟩ := unbusy (shieldedRun shielded moves) stuck free
      exact (ledger moves).allRun alone empty
    neverItself := by
      refine ⟨fun m waits same => ?_, seenAll (fun _ _ => acceptingForeign _ _) h₀ moves⟩
      exact (orderlyRun shielded orderly moves).apart _ _ waits (by rw [same])
    aloneRuns := fun single plain =>
      ⟨(unhinderedRun shielded ledger idle single plain).free,
        aloneRuns shielded ledger idle single plain⟩
    shut := fun has closed after => by
      obtain ⟨none, still⟩ := shut (shieldedRun shielded moves) has closed after
      rw [acceptedAppend, none, List.append_nil, runAppend]
      exact ⟨rfl, still⟩
    drops := fun _ _ _ _ _ _ _ => lateSubmission (shieldedRun shielded moves)
    abandons := fun _ _ _ _ _ _ => lateCall (shieldedRun shielded moves)
    inside := fun _ _ _ _ _ => ownCall (shieldedRun shielded moves)
    detaches := fun _ _ _ _ faces found opened => by
      simpa using closeTurn (shieldedRun shielded moves) faces found opened
    returns := fun _ _ _ _ _ _ => returnsServed shielded ledger orderly
    closes := fun _ _ _ _ _ => closesServed shielded ledger orderly }

theorem acceptedRunThoughRaised :
    let start : Hub Nat := blank .pump .rethrow true .default 1
    let moves : List (Move Nat) := [.make "q",
      .program (.submit (.serial "q") false (.panic (.literal "lost"))
        (.submit (.serial "q") false (.note 1 .done) .done)),
      .turn .caller, .turn .caller, .turn (.serial 0), .turn (.serial 0), .mainLoop,
      .turn (.serial 0), .turn (.serial 0), .turn (.serial 0)]
    start.trampoline = .pump ∧ Serves 0 start moves ∧
      (start.run moves).failures = [.ofPanic (.literal "lost")] ∧
      (start.run moves).notesOf (some (.serial "q")) = [.value 1] :=
  ⟨rfl, acceptedRunInOrder .pump .rethrow (.inl rfl) true .default 1 0 _, by decide +kernel⟩

theorem raisedEndsQueue :
    let start : Hub Nat := blank .inline .rethrow true .default 1
    let moves : List (Move Nat) := [.make "q",
      .program (.submit (.serial "q") false (.panic (.literal "lost"))
        (.submit (.serial "q") false (.note 1 .done) .done)),
      .turn .caller, .turn .caller, .turn (.serial 0), .turn (.serial 0)]
    (accepted 0 start moves).length = 2 ∧ ¬ Serves 0 start moves ∧
      ∀ after, (ended 0 start (moves ++ after)).length = 1 ∧
        (start.run (moves ++ after)).backlog 0 = [] := by
  intro start moves
  have spent : Spent 0 (start.run moves) :=
    ⟨by decide +kernel, by decide +kernel, by decide +kernel, by decide +kernel⟩
  refine ⟨by decide +kernel, fun serves => ?_, fun after => ?_⟩
  · have rests : ((start.run moves).step? (.serial 0)).isNone = true := by decide +kernel
    have fates := congrArg List.length (serves.allRun (Option.isNone_iff_eq_none.mp rests)
      (by decide +kernel))
    revert fates
    simp only [List.length_map]
    decide +kernel
  · obtain ⟨last, -, -, ends⟩ := spentRun spent after
    have before : (ended 0 start moves).length = 1 := by decide +kernel
    rw [runAppend]
    refine ⟨?_, last.empty⟩
    rw [ended, seenAppend, List.length_append]
    exact congrArg₂ (· + ·) before (congrArg List.length ends)

/- An item that closes its queue, with another item behind it and one that comes too late. -/
example :
    let start : Hub Nat := blank .pump .record true .default 1
    let moves : List (Move Nat) := [.make "q",
      .program (.submit (.serial "q") false (.close "q" (.note 1 .done))
        (.submit (.serial "q") false (.note 2 .done)
          (.submit (.serial "q") false (.note 3 .done) .done))),
      .turn .caller, .turn .caller, .turn (.serial 0), .turn (.serial 0), .turn .caller]
      ++ List.replicate 5 (.turn (.serial 0))
    (start.run moves).opened 0 = false ∧
      (accepted 0 start moves).length = 2 ∧ (ended 0 start moves).length = 2 ∧
      (start.run moves).notesOf (some (.serial "q")) = [.value 1, .value 2] := by
  decide +kernel

end VideoPreview.Hub
