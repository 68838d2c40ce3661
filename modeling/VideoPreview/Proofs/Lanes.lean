import VideoPreview.Proofs.Waiting

/-! What a move does to a serial queue and to the items of its thread. A queue takes in at its end
what it accepts and gives away at its start what its thread begins, and a thread is done with one
item before it begins another. -/
namespace VideoPreview.Hub

variable {V : Type} {h h' : Hub V} {t : ThreadRef} {n : Nat}

theorem laneLike (titles : h'.lanes.map (·.title) = h.lanes.map (·.title)) (name : String) :
    h'.lane? name = h.lane? name := by
  have titled (g : Hub V) : g.lane? name =
      ((g.lanes.map (·.title)).zipIdx.reverse.find? fun l => l.1 == name).map Prod.snd := by
    simp only [lane?, List.findRev?_eq_find?_reverse, List.zipIdx_map, ← List.map_reverse,
      List.find?_map, Option.map_map]
    rfl
  rw [titled h', titled h, titles]

@[simp]
theorem laneSetStrand (s : Strand V) (name : String) :
    (h.setStrand t s).lane? name = h.lane? name := by
  cases t with
  | caller => rfl
  | background m => rfl
  | serial m =>
    refine laneLike (List.ext_getElem? fun i => ?_) name
    by_cases same : m = i <;> cases lane : h.lanes[i]? <;> simp [setStrand, same, lane]

@[simp]
theorem currentSetStrand (s : Strand V) (u : ThreadRef) (q : QueueRef) :
    (h.setStrand t s).isCurrent u q = h.isCurrent u q := by
  have caller : (h.setStrand t s).callerIsMain = h.callerIsMain := by cases t <;> rfl
  cases q with
  | main => simp only [isCurrent, caller]
  | background => rfl
  | serial name => simp [isCurrent]

theorem laneHas {name : String} (found : h.lane? name = some n) :
    ∃ l, h.lanes[n]? = some l := by
  simp only [lane?, List.findRev?_eq_find?_reverse, Option.map_eq_some_iff] at found
  obtain ⟨⟨l, i⟩, here, rfl⟩ := found
  exact ⟨l, List.mem_zipIdx_iff_getElem?.mp (List.mem_reverse.mp (List.mem_of_find?_eq_some here))⟩

theorem currentOwn {name : String} (found : h.lane? name = some n) :
    h.isCurrent t (.serial name) = decide (t = .serial n) := by
  simp [isCurrent, found]

structure LaneStep (n : Nat) (h h' : Hub V) (accepted started : List (Item V)) : Prop where
  backlog : h.backlog n ++ accepted = started ++ h'.backlog n
  opened : h'.opened n = true → h.opened n = true
  lanes : h'.lanes.length = h.lanes.length

theorem SameQueues.lane (same : SameQueues h h') : LaneStep n h h' [] [] :=
  ⟨by rw [same.backlog]; simp, same.opened n ▸ id, same.lanes⟩

theorem LaneStep.after {h₁ : Hub V} {accepted started : List (Item V)} (same : SameQueues h h₁)
    (lane : LaneStep n h₁ h' accepted started) : LaneStep n h h' accepted started := by
  refine ⟨?_, fun opened => ?_, lane.lanes.trans same.lanes⟩
  · rw [← same.backlog]
    exact lane.backlog
  · rw [← same.opened]
    exact lane.opened opened

theorem LaneStep.before {h₁ : Hub V} {accepted started : List (Item V)}
    (lane : LaneStep n h h₁ accepted started) (same : SameQueues h₁ h') :
    LaneStep n h h' accepted started := by
  refine ⟨?_, fun opened => ?_, same.lanes.trans lane.lanes⟩
  · rw [same.backlog]
    exact lane.backlog
  · rw [same.opened] at opened
    exact lane.opened opened

theorem queuesGiven (r : CallResult V) : SameQueues h (h.giveResult t r) := by
  unfold giveResult
  split
  · exact (queuesSetStrand t _).trans (SameThreads.queues ⟨rfl, rfl, rfl⟩)
  · exact ⟨fun _ => rfl, fun _ => rfl, rfl⟩

theorem queuesConcluded {finish : Finish} {e : Ending V} (concluded : Concluded h t e finish h') :
    SameQueues h h' := by
  cases concluded with
  | quiet none unasked unawaited => exact ⟨fun _ => rfl, fun _ => rfl, rfl⟩
  | surfaced some => exact (sameSurface _ _).queues
  | inlined => exact queuesGiven _
  | replied receiver => exact queuesGiven _

theorem laneQueued {q : QueueRef} {i : Item V} (admitted : Admitted h t i q (.queued h')) :
    LaneStep n h h' (entering n h q i) [] := by
  cases admitted with
  | posted pump => exact SameQueues.lane ⟨fun _ => rfl, fun _ => rfl, rfl⟩
  | nested own => exact SameQueues.lane ⟨fun _ => rfl, fun _ => rfl, rfl⟩
  | injected other => exact SameQueues.lane ⟨fun _ => rfl, fun _ => rfl, rfl⟩
  | @lined name m l found lane opened =>
    obtain ⟨has, backlog, isOpen⟩ := laneFound lane
    by_cases same : n = m
    · subst same
      obtain ⟨more, still⟩ := queueSetSelf has (l.queue.submit i)
      have enters : entering n h (.serial name) i = [i] := if_pos ⟨found, isOpen.trans opened⟩
      refine ⟨?_, fun _ => isOpen.trans opened, by simp [setQueue]⟩
      rw [more, enters, SerialQueue.submitBacklog opened, backlog]
      rfl
    · obtain ⟨kept, still⟩ := queueSetOther same (l.queue.submit i)
      have stays : entering n h (.serial name) i = [] :=
        if_neg fun here => same (Option.some.inj (here.1.symm.trans found))
      rw [stays]
      refine ⟨?_, fun opened => still ▸ opened, by simp [setQueue]⟩
      rw [kept]
      exact List.append_nil _

theorem laneDropped {q : QueueRef} {i : Item V} (admitted : Admitted h t i q (.dropped h')) :
    LaneStep n h h' (entering n h q i) [] := by
  cases admitted with
  | @late name m l found lane closed =>
    have stays : entering n h (.serial name) i = [] := by
      refine if_neg ?_
      rintro ⟨here, opened⟩
      cases found.symm.trans here
      rw [(laneFound lane).2.2, closed] at opened
      cases opened
    rw [stays]
    exact SameQueues.lane ⟨fun _ => rfl, fun _ => rfl, rfl⟩
  | @unknown name missing =>
    have stays : entering n h (.serial name) i = [] := by
      refine if_neg ?_
      rintro ⟨here, opened⟩
      cases lane : h.lanes[n]? with
      | none => simp [Hub.opened, lane] at opened
      | some l => exact missing n l here lane
    rw [stays]
    exact SameQueues.lane ⟨fun _ => rfl, fun _ => rfl, rfl⟩

theorem enteringImmediate {q : QueueRef} {i : Item V} (admitted : Admitted h t i q .immediate) :
    entering n h q i = [] := by
  cases admitted with
  | atOnce inline => rfl

theorem laneShut {g : Hub V} {m : Nat} {l : SerialLane V} (lane : g.lanes[m]? = some l) :
    LaneStep n g (g.setQueue m l.queue.close) [] [] := by
  obtain ⟨has, backlog, isOpen⟩ := laneFound lane
  by_cases same : n = m
  · subst same
    obtain ⟨kept, closed⟩ := queueSetSelf has l.queue.close
    refine ⟨?_, fun opened => ?_, by simp [setQueue]⟩
    · rw [kept, backlog]
      exact List.append_nil _
    · rw [closed] at opened
      cases opened
  · obtain ⟨kept, still⟩ := queueSetOther same l.queue.close
    refine ⟨?_, fun opened => still ▸ opened, by simp [setQueue]⟩
    rw [kept]
    exact List.append_nil _

theorem laneClosed {name : String} (closed : Closed h t name h') : LaneStep n h h' [] [] := by
  cases closed with
  | nothing unopened => exact SameQueues.lane ⟨fun _ => rfl, fun _ => rfl, rfl⟩
  | detached found lane opened own =>
    exact (laneShut lane).before (SameThreads.queues ⟨rfl, rfl, rfl⟩)
  | waits found lane opened other => exact (laneShut lane).before (queuesSetStrand t _)

/-! ### Turns and the queue -/

theorem enteringSetStrand (s : Strand V) (q : QueueRef) (i : Item V) :
    entering n (h.setStrand t s) q i = entering n h q i := by
  cases q with
  | main => rfl
  | background => rfl
  | serial name => simp [entering]

theorem acceptingBusy {a : Activity V} {below : List (Activity V)}
    (busy : h.strand t = ⟨a :: below, none⟩) {q : QueueRef} {i : Item V}
    (offer : h.offer? t a.rest = some (q, i)) : accepting n h (.turn t) = entering n h q i := by
  simp [accepting, busy, offer]

theorem acceptingNothing
    (nothing : ∀ a below, h.strand t = ⟨a :: below, none⟩ → h.offer? t a.rest = none) :
    accepting n h (.turn t) = [] := by
  rcases strand : h.strand t with ⟨stack, wait⟩
  cases stack with
  | nil => simp [accepting, strand]
  | cons a below =>
    cases wait with
    | some w => simp [accepting, strand]
    | none => simp [accepting, strand, nothing a below strand]

theorem acceptingOffer {m : Move V} {i : Item V} (mem : i ∈ accepting n h m) :
    ∃ t a below name, m = .turn t ∧ h.strand t = ⟨a :: below, none⟩ ∧
      h.offer? t a.rest = some (.serial name, i) ∧ h.lane? name = some n := by
  cases m with
  | turn t =>
    rcases busy : h.strand t with ⟨stack, wait⟩
    cases stack with
    | nil => simp [accepting, busy] at mem
    | cons a below =>
      cases wait with
      | some w => simp [accepting, busy] at mem
      | none =>
        cases offer : h.offer? t a.rest with
        | none => simp [accepting, busy, offer] at mem
        | some offered =>
          obtain ⟨q, j⟩ := offered
          rw [acceptingBusy busy offer] at mem
          cases q with
          | main => cases mem
          | background => cases mem
          | serial name =>
            by_cases here : h.lane? name = some n ∧ h.opened n = true
            · rw [entering, if_pos here] at mem
              cases List.mem_singleton.mp mem
              exact ⟨t, a, below, name, rfl, busy, offer, here.1⟩
            · rw [entering, if_neg here] at mem
              cases mem
  | _ => cases mem

theorem closedAccepting (closed : h.opened n = false) (m : Move V) : accepting n h m = [] := by
  unfold accepting entering
  split
  · split
    · split
      · split <;> simp [closed]
      · rfl
    · rfl
  · rfl

theorem startingBusy (busy : h.strand t ≠ .idle) : starting n h (.turn t) = [] := by
  cases t with
  | caller => rfl
  | background m => rfl
  | serial m =>
    rcases strand : h.strand (.serial m) with ⟨stack, wait⟩
    cases stack with
    | cons a below => simp [starting, strand]
    | nil =>
      cases wait with
      | some w => simp [starting, strand]
      | none => exact absurd strand busy

theorem offerEnding {a : Activity V} {e : Ending V} (last : a.ending? = some e) :
    h.offer? t a.rest = none := by
  unfold Activity.ending? at last
  cases rest : a.rest <;> simp [rest, offer?] at last ⊢

theorem offerQuiet {a : Activity V} {next : Work V × Option V}
    (quiet : a.rest.quietly? a.answer = some next) : h.offer? t a.rest = none := by
  cases rest : a.rest <;> simp [rest, offer?, Work.quietly?] at quiet ⊢

theorem laneActed {a : Activity V} {below : List (Activity V)}
    (busy : h.strand t = ⟨a :: below, none⟩) (acted : Acted h t a below h') :
    LaneStep n h h' (accepting n h (.turn t)) [] := by
  have silent (none : h.offer? t a.rest = none) : accepting n h (.turn t) = [] := by
    refine acceptingNothing fun b rest same => ?_
    cases busy.symm.trans same
    exact none
  have taken {q : QueueRef} {i : Item V} (offer : h.offer? t a.rest = some (q, i)) (s : Strand V) :
      accepting n h (.turn t) = entering n (h.setStrand t s) q i := by
    rw [acceptingBusy busy offer, enteringSetStrand]
  cases acted with
  | ended last concluded =>
    rw [silent (offerEnding last)]
    exact SameQueues.lane ((queuesSetStrand t _).trans (queuesConcluded concluded))
  | went next jotted =>
    rw [silent (offerQuiet next)]
    exact SameQueues.lane ((queuesSetStrand t _).trans jotted.same.queues)
  | @submitted q fallible work rest _ next submitted =>
    have offer : h.offer? t a.rest = some (q, ⟨some q, work, finishOf q fallible⟩) := by
      rw [next]
      rfl
    rw [taken offer ⟨{ a with rest } :: below, none⟩]
    refine LaneStep.after (queuesSetStrand t ⟨{ a with rest } :: below, none⟩) ?_
    cases submitted with
    | queued admitted => exact laneQueued admitted
    | dropped admitted => exact laneDropped admitted
    | immediate admitted =>
      rw [enteringImmediate admitted]
      exact SameQueues.lane (queuesSetStrand t _)
  | @called q work rest _ next called =>
    have current := currentSetStrand (h := h) (t := t) ⟨{ a with rest } :: below, none⟩ t q
    have offer (other : h.isCurrent t q = false) :
        h.offer? t a.rest = some (q, ⟨some q, work, .reply t⟩) := by
      simp [next, offer?, other]
    refine LaneStep.after (queuesSetStrand t ⟨{ a with rest } :: below, none⟩) ?_
    cases called with
    | own here =>
      rw [silent (by simp [next, offer?, ← current, here])]
      exact SameQueues.lane (queuesSetStrand t _)
    | waits other admitted =>
      rw [taken (offer (current ▸ other)) ⟨{ a with rest } :: below, none⟩]
      exact (laneQueued admitted).before (queuesSetStrand t _)
    | immediate other admitted =>
      rw [taken (offer (current ▸ other)) ⟨{ a with rest } :: below, none⟩,
        enteringImmediate admitted]
      exact SameQueues.lane (queuesSetStrand t _)
    | refused other admitted =>
      rw [taken (offer (current ▸ other)) ⟨{ a with rest } :: below, none⟩]
      exact (laneDropped admitted).before (queuesGiven _)
  | @closed name rest _ next closed =>
    rw [silent (by simp [next, offer?])]
    refine LaneStep.after (queuesSetStrand t ⟨{ a with rest } :: below, none⟩) ?_
    exact laneClosed closed

theorem acceptingIdle (idle : h.strand t = .idle) : accepting n h (.turn t) = [] :=
  acceptingNothing fun a below busy => by cases idle.symm.trans busy

theorem laneFetched {i : Item V} (idle : h.strand t = .idle) (fetched : Fetched h t i h') :
    LaneStep n h h' [] (starting n h (.turn t)) := by
  cases fetched with
  | nested waiting => exact SameQueues.lane ⟨fun _ => rfl, fun _ => rfl, rfl⟩
  | injected waiting => exact SameQueues.lane ⟨fun _ => rfl, fun _ => rfl, rfl⟩
  | @serial m l i rest lane waiting =>
    obtain ⟨has, backlog, isOpen⟩ := laneFound lane
    by_cases same : m = n
    · subst same
      obtain ⟨fewer, still⟩ := queueSetSelf has { l.queue with backlog := rest }
      have starts : starting m h (.turn (.serial m)) = [i] := by
        simp [starting, idle, Strand.idle, backlog, waiting]
      refine ⟨?_, fun opened => ?_, by simp [setQueue]⟩
      · rw [starts, fewer, backlog, waiting]
        exact List.append_nil _
      · rw [isOpen, ← opened, still]
        rfl
    · obtain ⟨kept, still⟩ := queueSetOther (Ne.symm same) { l.queue with backlog := rest }
      have nothing : starting n h (.turn (.serial m)) = [] := by
        simp [starting, idle, Strand.idle, same]
      rw [nothing]
      refine ⟨?_, fun opened => still ▸ opened, by simp [setQueue]⟩
      rw [kept]
      exact List.append_nil _

theorem laneTurn (turned : Turned h t h') :
    LaneStep n h h' (accepting n h (.turn t)) (starting n h (.turn t)) := by
  cases turned with
  | resumed waits drained =>
    have nothing : accepting n h (.turn t) = [] :=
      acceptingNothing fun a below busy => by cases waits.symm.trans busy
    rw [nothing, startingBusy (by simp [waits, Strand.idle])]
    exact SameQueues.lane ((queuesSetStrand t _).trans (sameStopped _).queues)
  | acted busy acted =>
    rw [startingBusy (by simp [busy, Strand.idle])]
    exact laneActed busy acted
  | begun idle found =>
    rw [acceptingIdle idle]
    exact (laneFetched idle (fetched found).1).before (queuesSetStrand t _)

theorem endingOther (other : t ≠ .serial n) : ending n h (.turn t) = [] := by
  cases t with
  | caller => rfl
  | background m => rfl
  | serial m =>
    have differs : m ≠ n := fun same => other (by rw [same])
    simp only [ending, differs, false_and, if_false]
    split <;> rfl

theorem startingOther (other : t ≠ .serial n) : starting n h (.turn t) = [] := by
  cases t with
  | caller => rfl
  | background m => rfl
  | serial m =>
    have differs : m ≠ n := fun same => other (by rw [same])
    simp only [starting, differs, if_false]
    split <;> rfl

theorem endingBelow {a b : Activity V} {below : List (Activity V)} {w : Option Wait}
    (busy : h.strand (.serial n) = ⟨a :: b :: below, w⟩) : ending n h (.turn (.serial n)) = [] := by
  simp [ending, busy]

theorem endingAlone {a : Activity V} (busy : h.strand (.serial n) = ⟨[a], none⟩) :
    ending n h (.turn (.serial n)) = if a.ending?.isSome = true then [a] else [] := by
  simp [ending, busy]

theorem courseChange (busy : h.strand (.serial n) ≠ .idle)
    (change : Change (h.strand (.serial n)) (h'.strand (.serial n))) :
    (running n h).map Activity.fate =
      (ending n h (.turn (.serial n)) ++ running n h').map Activity.fate := by
  unfold running
  generalize after : h'.strand (.serial n) = s' at change
  generalize before : h.strand (.serial n) = s at change busy
  cases change with
  | begun i => exact absurd rfl busy
  | @resumed stack m =>
    have nothing : ending n h (.turn (.serial n)) = [] := by simp [ending, before]
    rw [nothing]
    rfl
  | @ended a below e last =>
    cases below with
    | nil => simp [endingAlone before, last]
    | cons b below => simp [endingBelow before]
  | @onward a b below unfinished course wait =>
    cases below with
    | nil => simp [endingAlone before, unfinished, course]
    | cons c below => simp [endingBelow before]
  | @pushed a b below unfinished course i =>
    cases below with
    | nil => simp [endingAlone before, unfinished, course]
    | cons c below => simp [endingBelow before]

theorem courseTurn (turned : Turned h t h') :
    (running n h).map Activity.fate ++ (starting n h (.turn t)).map Item.fate =
      (ending n h (.turn t) ++ running n h').map Activity.fate := by
  by_cases own : t = .serial n
  · subst own
    by_cases idle : h.strand (.serial n) = .idle
    · cases turned with
      | resumed waits drained => cases idle.symm.trans waits
      | acted busy acted => cases idle.symm.trans busy
      | @begun i h₁ _ found =>
        obtain ⟨taken, has⟩ := fetched found
        have after : (h₁.push (.serial n) i).strand (.serial n) = ⟨[i.begin], none⟩ := by
          rw [push, strandSetSelf (taken.has has), taken.strand, idle]
          rfl
        have starts : starting n h (.turn (.serial n)) = [i] := by
          cases taken with
          | serial lane waiting =>
            simp [starting, idle, Strand.idle, (laneFound lane).2.1, waiting]
        simp [running, after, starts, idle, ending, Strand.idle, Item.fate]
    · rw [startingBusy idle, List.map_nil, List.append_nil]
      exact courseChange idle (turnChange turned)
  · have stack := (turnKept (Ne.symm own) turned).stack
    rw [startingOther own, endingOther own]
    simp [running, stack]

theorem strandStill {m : Move V} (still : ∀ t, m ≠ .turn t) {u : ThreadRef}
    (kept : (∃ n, u = .serial n) ∨ (h.strand u).wait ≠ none) :
    (h.step m).strand u = h.strand u := by
  have elsewhere {t : ThreadRef} (free : (h.strand t).wait = none) (spare : ∀ n, t ≠ .serial n) :
      u ≠ t := by
    rintro rfl
    rcases kept with ⟨n, same⟩ | waits
    · exact spare n same
    · exact waits free
  cases m with
  | turn t => exact absurd rfl (still t)
  | grab n nested i =>
    rcases grabbed h n nested i with same | ⟨item, h', taken, -, -, idle, same⟩
    · exact congrArg (strand · u) same
    · have other : u ≠ .background n := elsewhere (by rw [idle]; rfl) (by simp)
      change (h.grab n nested i).strand u = _
      rw [same, strandPushedOther other, taken.strand]
  | program work =>
    change (h.beginProgram work).strand u = _
    unfold beginProgram
    split
    case h_1 free =>
      have other : u ≠ .caller := elsewhere (by simp [strand, free]) (by simp)
      exact strandPushedOther other _
    case h_2 => rfl
  | mainLoop =>
    cases free : h.caller.wait with
    | some w => simp [step, free]
    | none =>
      have other : u ≠ .caller := elsewhere free (by simp)
      simp only [step, free, Option.isSome_none, Bool.false_eq_true, if_false]
      unfold takeEntry
      split
      · rfl
      · exact (sameHandle _).strand u
      · exact strandPushedOther other _
  | make title => exact strandMade (made h title) u

theorem queuesTaken : SameQueues h h.takeEntry := by
  unfold takeEntry
  cases h.pending with
  | nil => exact ⟨fun _ => rfl, fun _ => rfl, rfl⟩
  | cons e rest =>
    have fewer : SameQueues h { h with pending := rest } := ⟨fun _ => rfl, fun _ => rfl, rfl⟩
    cases e with
    | handle failure => exact fewer.trans (sameHandle _).queues
    | item i => exact fewer.trans (queuesSetStrand .caller _)

structure LaneMove (n : Nat) (h h' : Hub V) (accepted started : List (Item V)) : Prop where
  backlog : h.backlog n ++ accepted = started ++ h'.backlog n
  opened : n < h.lanes.length → h'.opened n = true → h.opened n = true
  lanes : h.lanes.length ≤ h'.lanes.length

theorem LaneStep.move {accepted started : List (Item V)} (lane : LaneStep n h h' accepted started) :
    LaneMove n h h' accepted started :=
  ⟨lane.backlog, fun _ => lane.opened, Nat.le_of_eq lane.lanes.symm⟩

theorem laneMade {title : String} (made : Made h title h') : LaneMove n h h' [] [] := by
  cases made with
  | unnamed => exact LaneStep.move (SameQueues.lane ⟨fun _ => rfl, fun _ => rfl, rfl⟩)
  | lane name =>
    refine ⟨?_, fun has opened => ?_, by simp [entry]⟩
    · by_cases old : n < h.lanes.length
      · simp [backlog, entry, List.getElem?_append_left old]
      · by_cases new : n = h.lanes.length
        · simp [backlog, entry, new, SerialQueue.start]
        · have before : h.lanes[n]? = none := List.getElem?_eq_none (by omega)
          have after : (h.lanes ++ [⟨title, .start name, .idle⟩])[n]? = none :=
            List.getElem?_eq_none (by rw [List.length_append, List.length_singleton]; omega)
          simp only [backlog, entry, before, after]
          rfl
    · simpa [Hub.opened, entry, List.getElem?_append_left has] using opened

theorem laneStill {m : Move V} (still : ∀ t, m ≠ .turn t) : LaneMove n h (h.step m) [] [] := by
  cases m with
  | turn t => exact absurd rfl (still t)
  | grab i nested j =>
    rcases grabbed h i nested j with same | ⟨item, h', taken, queues, -, -, same⟩
    · have nothing : h.step (.grab i nested j) = h := same
      rw [nothing]
      exact (SameQueues.lane ⟨fun _ => rfl, fun _ => rfl, rfl⟩).move
    · have pushed : h.step (.grab i nested j) = h'.push (.background i) item := same
      rw [pushed]
      exact (SameQueues.lane (queues.trans (queuesSetStrand _ _))).move
  | program work =>
    change LaneMove n h (h.beginProgram work) [] []
    unfold beginProgram
    split
    · exact (SameQueues.lane (queuesSetStrand .caller _)).move
    · exact (SameQueues.lane ⟨fun _ => rfl, fun _ => rfl, rfl⟩).move
  | mainLoop =>
    cases free : h.caller.wait with
    | some w =>
      have nothing : h.step .mainLoop = h := by simp [step, free]
      rw [nothing]
      exact (SameQueues.lane ⟨fun _ => rfl, fun _ => rfl, rfl⟩).move
    | none =>
      have taken : h.step .mainLoop = h.takeEntry := by simp [step, free]
      rw [taken]
      exact (SameQueues.lane queuesTaken).move
  | make title => exact laneMade (made h title)

theorem turnless (shielded : h.Shielded) (stuck : h.step? t = none) :
    accepting n h (.turn t) = [] ∧ starting n h (.turn t) = [] ∧ ending n h (.turn t) = [] := by
  have resting : ∀ a below, h.strand t ≠ ⟨a :: below, none⟩ := by
    intro a below busy
    rw [busyStep shielded busy] at stuck
    cases stuck
  refine ⟨acceptingNothing fun a below busy => absurd busy (resting a below), ?_, ?_⟩
  · by_cases own : t = .serial n
    · subst own
      by_cases idle : h.strand (.serial n) = .idle
      · have empty : h.fetch? (.serial n) = none := by
          simpa [step?, shielded.live, idle, Strand.idle] using stuck
        cases lane : h.lanes[n]? with
        | none => simp [starting, idle, Strand.idle, backlog, lane]
        | some l =>
          cases waiting : l.queue.backlog with
          | nil => simp [starting, idle, Strand.idle, backlog, lane, waiting]
          | cons i rest => simp [fetch?, lane, SerialQueue.take?, waiting] at empty
      · exact startingBusy idle
    · exact startingOther own
  · by_cases own : t = .serial n
    · subst own
      rcases strand : h.strand (.serial n) with ⟨stack, wait⟩
      cases stack with
      | nil => simp [ending, strand]
      | cons a below =>
        cases wait with
        | some w => cases below <;> simp [ending, strand]
        | none => exact absurd strand (resting a below)
    · exact endingOther own

theorem laneMove (shielded : h.Shielded) (m : Move V) :
    LaneMove n h (h.step m) (accepting n h m) (starting n h m) := by
  cases m with
  | turn t =>
    cases stepped : h.step? t with
    | some h' =>
      rw [turnStep stepped]
      exact (laneTurn (turned shielded stepped)).move
    | none =>
      obtain ⟨accepts, starts, -⟩ := turnless (n := n) shielded stepped
      rw [turnStuck stepped, accepts, starts]
      exact (SameQueues.lane ⟨fun _ => rfl, fun _ => rfl, rfl⟩).move
  | grab i nested j => exact laneStill (by simp)
  | program work => exact laneStill (by simp)
  | mainLoop => exact laneStill (by simp)
  | make title => exact laneStill (by simp)

theorem courseMove (n : Nat) (shielded : h.Shielded) (m : Move V) :
    (running n h).map Activity.fate ++ (starting n h m).map Item.fate =
      (ending n h m ++ running n (h.step m)).map Activity.fate := by
  have kept (still : ∀ t, m ≠ .turn t) : running n (h.step m) = running n h := by
    rw [running, strandStill still (.inl ⟨n, rfl⟩), running]
  cases m with
  | turn t =>
    cases stepped : h.step? t with
    | some h' =>
      rw [turnStep stepped]
      exact courseTurn (turned shielded stepped)
    | none =>
      obtain ⟨-, starts, ends⟩ := turnless (n := n) shielded stepped
      rw [turnStuck stepped, starts, ends]
      simp
  | grab i nested j => simp [kept, starting, ending]
  | program work => simp [kept, starting, ending]
  | mainLoop => simp [kept, starting, ending]
  | make title => simp [kept, starting, ending]

end VideoPreview.Hub
