import Mathlib.Data.List.Basic
import VideoPreview.Dispatch.Hub

/-! What a turn can do to a hub. A thread that takes a turn ends the item on top of it, goes on with
it, or has it submit, call or close something; each of these is looked at once, here. -/
namespace VideoPreview

def QueueRef.isSerial : QueueRef → Bool
  | serial _ => true
  | _ => false

def Work.outcome : Work V → Option V → Hub.Ending V
  | done, given => .done given
  | panic p, _ => .panicked p
  | fail r, _ => .failed r
  | answer v rest, _ => rest.outcome (some v)
  | note _ rest, given => rest.outcome given
  | noteThread rest, given => rest.outcome given
  | noteCurrent _ rest, given => rest.outcome given
  | noteQueue _ rest, given => rest.outcome given
  | tally rest, given => rest.outcome given
  | submit _ _ _ rest, given => rest.outcome given
  | call _ _ rest, given => rest.outcome given
  | close _ rest, given => rest.outcome given

theorem Work.weightPos (w : Work V) : 0 < w.weight := by
  cases w <;> exact Nat.succ_pos _

def Work.quietly? : Work V → Option V → Option (Work V × Option V)
  | answer v rest, _ => some (rest, some v)
  | note _ rest, given => some (rest, given)
  | noteThread rest, given => some (rest, given)
  | noteCurrent _ rest, given => some (rest, given)
  | noteQueue _ rest, given => some (rest, given)
  | tally rest, given => some (rest, given)
  | _, _ => none

theorem Work.quietCourse {w rest : Work V} {given answer : Option V}
    (next : w.quietly? given = some (rest, answer)) :
    rest.outcome answer = w.outcome given ∧ rest.weight < w.weight := by
  cases w <;> cases next <;> exact ⟨rfl, Nat.lt_succ_self _⟩

def Work.serialOnly : Work V → Bool
  | done | panic _ | fail _ => true
  | answer _ rest | note _ rest | noteThread rest | noteCurrent _ rest => rest.serialOnly
  | noteQueue _ rest | tally rest | close _ rest => rest.serialOnly
  | submit _ _ item rest => item.serialOnly && rest.serialOnly
  | call q item rest => q.isSerial && item.serialOnly && rest.serialOnly

theorem Work.quietPlain {w rest : Work V} {given answer : Option V}
    (next : w.quietly? given = some (rest, answer)) : rest.serialOnly = w.serialOnly := by
  cases w <;> cases next <;> rfl

structure Fate (V : Type) where
  place : Option QueueRef
  finish : Finish
  ending : Hub.Ending V

def Activity.fate (a : Activity V) : Fate V := ⟨a.place, a.finish, a.rest.outcome a.answer⟩

def Item.fate (i : Item V) : Fate V := i.begin.fate

def Activity.ending? (a : Activity V) : Option (Hub.Ending V) :=
  match a.rest with
  | .done => some (.done a.answer)
  | .panic p => some (.panicked p)
  | .fail r => some (.failed r)
  | _ => none

namespace Hub

variable {V : Type} {h : Hub V} {t : ThreadRef}

def Has (h : Hub V) : ThreadRef → Prop
  | .caller => True
  | .background n => n < h.background.length
  | .serial n => n < h.lanes.length

structure Shielded (h : Hub V) : Prop where
  calm : h.trampoline = .pump ∨ h.handling.IsGentle
  live : h.aborted = false

theorem Shielded.thrown (shielded : h.Shielded) (a : Activity V) : h.thrown? a = none := by
  unfold thrown?
  rcases shielded.calm with pump | gentle
  · simp [pump]
  · have calm (failure : Failure) : h.raised? failure = none := gentle _ failure
    cases h.trampoline <;> simp [calm]

structure Mode where
  trampoline : Trampoline
  handling : FailureHandling
  aborted : Bool

def mode (h : Hub V) : Mode := ⟨h.trampoline, h.handling, h.aborted⟩

theorem Shielded.like {h' : Hub V} (shielded : h.Shielded) (same : h'.mode = h.mode) :
    h'.Shielded := by
  obtain ⟨trampoline, handling, aborted⟩ := Mode.mk.inj same
  exact ⟨trampoline ▸ handling ▸ shielded.calm, aborted ▸ shielded.live⟩

@[simp]
theorem modeSetStrand (t : ThreadRef) (s : Strand V) : (h.setStrand t s).mode = h.mode := by
  cases t <;> rfl

@[simp]
theorem modeSetQueue (n : Nat) (q : SerialQueue (Item V)) : (h.setQueue n q).mode = h.mode := rfl

@[simp]
theorem modeEntry (e : LogEntry) : (h.entry e).mode = h.mode := rfl

@[simp]
theorem modeRecord (place : Option QueueRef) (n : Note V) : (h.record place n).mode = h.mode := rfl

@[simp]
theorem modePush (i : Item V) : (h.push t i).mode = h.mode := modeSetStrand t _

@[simp]
theorem modeHandle (failure : Failure) : (h.handle failure).mode = h.mode := by
  unfold handle
  split <;> rfl

@[simp]
theorem modeSurface (label : String) (failure : Failure) :
    (h.surface label failure).mode = h.mode := by
  simp only [surface]
  split
  · rfl
  · simp

@[simp]
theorem modeGiven (r : CallResult V) : (h.giveResult t r).mode = h.mode := by
  unfold giveResult
  split <;> simp

theorem strandAbsent (absent : ¬ h.Has t) : h.strand t = .idle := by
  cases t with
  | caller => exact absurd trivial absent
  | background n =>
    have none : h.background[n]? = none := List.getElem?_eq_none (Nat.le_of_not_lt absent)
    simp [strand, none]
  | serial n =>
    have none : h.lanes[n]? = none := List.getElem?_eq_none (Nat.le_of_not_lt absent)
    simp [strand, none]

theorem hasOfStack {a : Activity V} {below : List (Activity V)} {wait : Option Wait}
    (busy : h.strand t = ⟨a :: below, wait⟩) : h.Has t := by
  by_contra absent
  rw [strandAbsent absent] at busy
  cases busy

@[simp]
theorem strandSetSelf (has : h.Has t) (s : Strand V) : (h.setStrand t s).strand t = s := by
  cases t with
  | caller => rfl
  | background n =>
    change n < h.background.length at has
    simp [strand, setStrand, has]
  | serial n =>
    change n < h.lanes.length at has
    simp [strand, setStrand, has]

@[simp]
theorem strandSetOther {u : ThreadRef} (other : u ≠ t) (s : Strand V) :
    (h.setStrand t s).strand u = h.strand u := by
  cases t with
  | caller => cases u <;> first | rfl | exact absurd rfl other
  | background n =>
    cases u with
    | background m =>
      have differ : n ≠ m := fun same => other (by rw [same])
      simp [strand, setStrand, List.getElem?_set_ne differ]
    | caller => rfl
    | serial m => rfl
  | serial n =>
    cases u with
    | serial m =>
      have differ : n ≠ m := fun same => other (by rw [same])
      simp [strand, setStrand, differ]
    | caller => rfl
    | background m => rfl

@[simp]
theorem setStrandTwice (s s' : Strand V) : (h.setStrand t s).setStrand t s' = h.setStrand t s' := by
  cases t with
  | caller => rfl
  | background m => simp [setStrand]
  | serial m => simp only [setStrand, List.modify_modify_eq]; rfl

theorem setStrandSame {s : Strand V} (same : h.strand t = s) : h.setStrand t s = h := by
  cases t with
  | caller =>
    cases same
    rfl
  | background m =>
    by_cases has : m < h.background.length
    · have found : h.background[m] = s := by simpa [strand, has] using same
      simp [setStrand, ← found]
    · simp [setStrand, List.set_eq_of_length_le (Nat.le_of_not_lt has)]
  | serial m =>
    have kept : h.lanes.modify m (fun l => { l with strand := s }) = h.lanes := by
      refine List.ext_getElem? fun i => ?_
      by_cases here : m = i
      · subst here
        cases lane : h.lanes[m]? with
        | none => simp [lane]
        | some l =>
          have found : l.strand = s := by simpa [strand, lane] using same
          simp [lane, ← found]
      · simp [here]
    simp [setStrand, kept]

theorem hasLike {h' : Hub V} (has : h.Has t)
    (crew : h'.background.length = h.background.length)
    (lanes : h'.lanes.length = h.lanes.length) : h'.Has t := by
  cases t with
  | caller => trivial
  | background n => exact Nat.lt_of_lt_of_eq has crew.symm
  | serial n => exact Nat.lt_of_lt_of_eq has lanes.symm

theorem hasSetQueue (has : h.Has t) (n : Nat) (q : SerialQueue (Item V)) :
    (h.setQueue n q).Has t :=
  hasLike has rfl (by simp [setQueue])

theorem hasSet {u : ThreadRef} (has : h.Has u) (s : Strand V) : (h.setStrand t s).Has u := by
  cases t with
  | caller => exact hasLike has rfl rfl
  | background n => exact hasLike has (by simp [setStrand]) rfl
  | serial n => exact hasLike has rfl (by simp [setStrand])

structure SameThreads (h h' : Hub V) : Prop where
  caller : h'.caller = h.caller
  background : h'.background = h.background
  lanes : h'.lanes = h.lanes

theorem SameThreads.strand {h' : Hub V} (same : SameThreads h h') (t : ThreadRef) :
    h'.strand t = h.strand t := by
  cases t <;> simp [Hub.strand, same.caller, same.background, same.lanes]

/-! ### Serial queues -/

def backlog (h : Hub V) (n : Nat) : List (Item V) :=
  (h.lanes[n]?.map (·.queue.backlog)).getD []

def opened (h : Hub V) (n : Nat) : Bool := (h.lanes[n]?.map (·.queue.accepts)).getD false

structure SameQueues (h h' : Hub V) : Prop where
  backlog : ∀ n, h'.backlog n = h.backlog n
  opened : ∀ n, h'.opened n = h.opened n
  lanes : h'.lanes.length = h.lanes.length

theorem SameQueues.trans {h₁ h₂ : Hub V} (first : SameQueues h h₁) (second : SameQueues h₁ h₂) :
    SameQueues h h₂ :=
  ⟨fun n => (second.backlog n).trans (first.backlog n),
    fun n => (second.opened n).trans (first.opened n), second.lanes.trans first.lanes⟩

theorem SameThreads.queues {h' : Hub V} (same : SameThreads h h') : SameQueues h h' :=
  ⟨fun n => by simp [backlog, same.lanes], fun n => by simp [opened, same.lanes],
    by rw [same.lanes]⟩

theorem queuesSetStrand (t : ThreadRef) (s : Strand V) : SameQueues h (h.setStrand t s) := by
  cases t with
  | caller => exact ⟨fun _ => rfl, fun _ => rfl, rfl⟩
  | background m => exact ⟨fun _ => rfl, fun _ => rfl, rfl⟩
  | serial m =>
    refine ⟨fun n => ?_, fun n => ?_, by simp [setStrand]⟩
    · by_cases same : m = n <;> cases lane : h.lanes[n]? <;>
        simp [backlog, setStrand, same, lane]
    · by_cases same : m = n <;> cases lane : h.lanes[n]? <;>
        simp [opened, setStrand, same, lane]

@[simp]
theorem backlogSetStrand (t : ThreadRef) (s : Strand V) (n : Nat) :
    (h.setStrand t s).backlog n = h.backlog n := (queuesSetStrand t s).backlog n

@[simp]
theorem openedSetStrand (t : ThreadRef) (s : Strand V) (n : Nat) :
    (h.setStrand t s).opened n = h.opened n := (queuesSetStrand t s).opened n

@[simp]
theorem lanesSetStrand (t : ThreadRef) (s : Strand V) :
    (h.setStrand t s).lanes.length = h.lanes.length := (queuesSetStrand t s).lanes

@[simp]
theorem strandSetQueue (n : Nat) (q : SerialQueue (Item V)) (t : ThreadRef) :
    (h.setQueue n q).strand t = h.strand t := by
  cases t with
  | caller => rfl
  | background m => rfl
  | serial m =>
    by_cases same : n = m <;> cases lane : h.lanes[m]? <;>
      simp [strand, setQueue, same, lane]

theorem queueSetSelf {n : Nat} (has : n < h.lanes.length) (q : SerialQueue (Item V)) :
    (h.setQueue n q).backlog n = q.backlog ∧ (h.setQueue n q).opened n = q.accepts := by
  simp [backlog, opened, setQueue, has]

theorem queueSetOther {m n : Nat} (other : n ≠ m) (q : SerialQueue (Item V)) :
    (h.setQueue m q).backlog n = h.backlog n ∧ (h.setQueue m q).opened n = h.opened n := by
  simp [backlog, opened, setQueue, Ne.symm other]

theorem laneFound {n : Nat} {l : SerialLane V} (lane : h.lanes[n]? = some l) :
    n < h.lanes.length ∧ h.backlog n = l.queue.backlog ∧ h.opened n = l.queue.accepts := by
  obtain ⟨has, -⟩ := List.getElem?_eq_some_iff.mp lane
  exact ⟨has, by simp [backlog, lane], by simp [opened, lane]⟩

inductive Admitted (h : Hub V) (t : ThreadRef) (i : Item V) : QueueRef → Acceptance V → Prop where
  | posted (pump : h.trampoline = .pump) :
      Admitted h t i .main (.queued { h with pending := h.pending ++ [.item i] })
  | atOnce (inline : h.trampoline = .inline) : Admitted h t i .main .immediate
  | nested (own : t.isBackground = true) :
      Admitted h t i .background (.queued { h with nested := i :: h.nested })
  | injected (other : t.isBackground = false) :
      Admitted h t i .background (.queued { h with injected := h.injected ++ [i] })
  | lined {name : String} {n : Nat} {l : SerialLane V} (found : h.lane? name = some n)
      (lane : h.lanes[n]? = some l) (opened : l.queue.accepts = true) :
      Admitted h t i (.serial name) (.queued (h.setQueue n (l.queue.submit i)))
  | late {name : String} {n : Nat} {l : SerialLane V} (found : h.lane? name = some n)
      (lane : h.lanes[n]? = some l) (closed : l.queue.accepts = false) :
      Admitted h t i (.serial name) (.dropped (h.entry (.workDropped l.queue.name)))
  | unknown {name : String} (missing : ∀ n l, h.lane? name = some n → h.lanes[n]? ≠ some l) :
      Admitted h t i (.serial name) (.dropped h)

theorem admitted (h : Hub V) (t : ThreadRef) (q : QueueRef) (i : Item V) :
    Admitted h t i q (h.accept t q i) := by
  cases q with
  | main =>
    cases mode : h.trampoline with
    | pump => simpa [accept, mode] using Admitted.posted mode
    | inline => simpa [accept, mode] using Admitted.atOnce mode
  | background =>
    cases own : t.isBackground with
    | true => simpa [accept, own] using Admitted.nested own
    | false => simpa [accept, own] using Admitted.injected own
  | serial name =>
    cases found : h.lane? name with
    | none => simpa [accept, found] using Admitted.unknown (by simp [found])
    | some n =>
      cases lane : h.lanes[n]? with
      | none =>
        have missing : ∀ m l, h.lane? name = some m → h.lanes[m]? ≠ some l := by
          intro m l same
          cases found.symm.trans same
          simp [lane]
        simpa [accept, found, lane] using Admitted.unknown missing
      | some l =>
        cases opened : l.queue.accepts with
        | true => simpa [accept, found, lane, opened] using Admitted.lined found lane opened
        | false => simpa [accept, found, lane, opened] using Admitted.late found lane opened

theorem Admitted.has {i : Item V} {q : QueueRef} {h' : Hub V} (has : h.Has t)
    (admitted : Admitted h t i q (.queued h')) : h'.Has t := by
  cases admitted with
  | posted pump => exact hasLike has rfl rfl
  | nested own => exact hasLike has rfl rfl
  | injected other => exact hasLike has rfl rfl
  | lined found lane opened => exact hasSetQueue has _ _

theorem Admitted.strand {i : Item V} {q : QueueRef} {h' : Hub V}
    (admitted : Admitted h t i q (.queued h')) (u : ThreadRef) : h'.strand u = h.strand u := by
  cases admitted with
  | posted pump => exact SameThreads.strand ⟨rfl, rfl, rfl⟩ u
  | nested own => exact SameThreads.strand ⟨rfl, rfl, rfl⟩ u
  | injected other => exact SameThreads.strand ⟨rfl, rfl, rfl⟩ u
  | lined found lane opened => exact strandSetQueue _ _ u

theorem Admitted.strandDropped {i : Item V} {q : QueueRef} {h' : Hub V}
    (admitted : Admitted h t i q (.dropped h')) (u : ThreadRef) : h'.strand u = h.strand u := by
  cases admitted with
  | late found lane closed => exact SameThreads.strand ⟨rfl, rfl, rfl⟩ u
  | unknown missing => rfl

theorem Admitted.mode {i : Item V} {q : QueueRef} {h' : Hub V}
    (admitted : Admitted h t i q (.queued h')) : h'.mode = h.mode := by
  cases admitted <;> rfl

theorem Admitted.modeDropped {i : Item V} {q : QueueRef} {h' : Hub V}
    (admitted : Admitted h t i q (.dropped h')) : h'.mode = h.mode := by
  cases admitted <;> rfl

inductive Submitted (h : Hub V) (t : ThreadRef) (q : QueueRef) (i : Item V) : Hub V → Prop where
  | queued {h' : Hub V} (admitted : Admitted h t i q (.queued h')) : Submitted h t q i h'
  | immediate (admitted : Admitted h t i q .immediate) : Submitted h t q i (h.push t i)
  | dropped {h' : Hub V} (admitted : Admitted h t i q (.dropped h')) : Submitted h t q i h'

theorem submitted (h : Hub V) (t : ThreadRef) (q : QueueRef) (fallible : Bool) (work : Work V) :
    Submitted h t q ⟨some q, work, finishOf q fallible⟩ (h.submit t q fallible work) := by
  have admitted := admitted h t q ⟨some q, work, finishOf q fallible⟩
  unfold submit
  cases c : h.accept t q ⟨some q, work, finishOf q fallible⟩ with
  | queued h' => simpa only [c] using Submitted.queued (c ▸ admitted)
  | immediate => simpa only [c] using Submitted.immediate (c ▸ admitted)
  | dropped h' => simpa only [c] using Submitted.dropped (c ▸ admitted)

inductive Called (h : Hub V) (t : ThreadRef) (q : QueueRef) (work : Work V) : Hub V → Prop where
  | own (current : h.isCurrent t q = true) : Called h t q work (h.push t ⟨some q, work, .inlined⟩)
  | waits {h' : Hub V} (other : h.isCurrent t q = false)
      (admitted : Admitted h t ⟨some q, work, .reply t⟩ q (.queued h')) :
      Called h t q work (h'.setStrand t ⟨(h'.strand t).stack, some .result⟩)
  | immediate (other : h.isCurrent t q = false)
      (admitted : Admitted h t ⟨some q, work, .reply t⟩ q .immediate) :
      Called h t q work (h.push t ⟨some q, work, .inlined⟩)
  | refused {h' : Hub V} (other : h.isCurrent t q = false)
      (admitted : Admitted h t ⟨some q, work, .reply t⟩ q (.dropped h')) :
      Called h t q work (h'.giveResult t (.failed (.abandoned (label q))))

theorem called (h : Hub V) (t : ThreadRef) (q : QueueRef) (work : Work V) :
    Called h t q work (h.call t q work) := by
  have admitted := admitted h t q ⟨some q, work, .reply t⟩
  unfold call
  cases current : h.isCurrent t q with
  | true => simpa using Called.own current
  | false =>
    cases c : h.accept t q ⟨some q, work, .reply t⟩ with
    | queued h' => simpa [c] using Called.waits current (c ▸ admitted)
    | immediate => simpa [c] using Called.immediate current (c ▸ admitted)
    | dropped h' => simpa [c] using Called.refused current (c ▸ admitted)

inductive Closed (h : Hub V) (t : ThreadRef) (name : String) : Hub V → Prop where
  | nothing (unopened : ∀ n, h.lane? name = some n → h.opened n = false) : Closed h t name h
  | detached {n : Nat} {l : SerialLane V} (found : h.lane? name = some n)
      (lane : h.lanes[n]? = some l) (opened : l.queue.isOpen = true) (own : t = .serial n) :
      Closed h t name ((h.setQueue n l.queue.close).entry (.queueDetached l.queue.name))
  | waits {n : Nat} {l : SerialLane V} (found : h.lane? name = some n)
      (lane : h.lanes[n]? = some l) (opened : l.queue.isOpen = true) (other : t ≠ .serial n) :
      Closed h t name
        ((h.setQueue n l.queue.close).setStrand t ⟨(h.strand t).stack, some (.drained n)⟩)

theorem closed (h : Hub V) (t : ThreadRef) (name : String) :
    Closed h t name (h.close t name) := by
  unfold close
  cases found : h.lane? name with
  | none => exact .nothing fun n same => by cases found.symm.trans same
  | some n =>
    cases lane : h.lanes[n]? with
    | none =>
      have nothing : ∀ m, h.lane? name = some m → h.opened m = false := by
        intro m same
        cases found.symm.trans same
        simp [Hub.opened, lane]
      simpa [lane] using Closed.nothing nothing
    | some l =>
      cases opened : l.queue.isOpen with
      | false =>
        have nothing : ∀ m, h.lane? name = some m → h.opened m = false := by
          intro m same
          cases found.symm.trans same
          simp [Hub.opened, SerialQueue.accepts, lane, opened]
        simpa [lane, opened] using Closed.nothing nothing
      | true =>
        by_cases own : t = .serial n
        · simpa [lane, opened, own] using Closed.detached found lane opened own
        · have waits := Closed.waits (t := t) found lane opened own
          rw [← strandSetQueue n l.queue.close t] at waits
          simpa [lane, opened, own] using waits

/-! ### The end of an item -/

def failureOf : Finish → Ending V → Option (String × Failure)
  | .asynchronous label, e => (e.failure? false).map (label, ·)
  | .fallible label, e => (e.failure? true).map (label, ·)
  | _, _ => none

inductive Concluded (h : Hub V) (t : ThreadRef) (e : Ending V) : Finish → Hub V → Prop where
  | quiet {finish : Finish} (none : failureOf finish e = none) (unasked : finish ≠ .inlined)
      (unawaited : ∀ u, finish ≠ .reply u) : Concluded h t e finish h
  | surfaced {finish : Finish} {label : String} {failure : Failure}
      (some : failureOf finish e = some (label, failure)) :
      Concluded h t e finish (h.surface label failure)
  | inlined : Concluded h t e .inlined (h.giveResult t e.result)
  | replied (receiver : ThreadRef) :
      Concluded h t e (.reply receiver) (h.giveResult receiver e.result)

theorem concluded (h : Hub V) (t : ThreadRef) (finish : Finish) (e : Ending V) :
    Concluded h t e finish (h.conclude t finish e) := by
  cases finish with
  | asynchronous label =>
    cases failure : e.failure? false with
    | none =>
      have none : failureOf (.asynchronous label) e = none := by simp [failureOf, failure]
      simpa [conclude, failure] using Concluded.quiet (h := h) (t := t) none (by simp) (by simp)
    | some f =>
      have some : failureOf (.asynchronous label) e = some (label, f) := by
        simp [failureOf, failure]
      simpa [conclude, failure] using Concluded.surfaced (h := h) (t := t) some
  | fallible label =>
    cases failure : e.failure? true with
    | none =>
      have none : failureOf (.fallible label) e = none := by simp [failureOf, failure]
      simpa [conclude, failure] using Concluded.quiet (h := h) (t := t) none (by simp) (by simp)
    | some f =>
      have some : failureOf (.fallible label) e = some (label, f) := by simp [failureOf, failure]
      simpa [conclude, failure] using Concluded.surfaced (h := h) (t := t) some
  | inlined => exact .inlined
  | reply receiver => exact .replied receiver
  | own => exact .quiet rfl (by simp) (by simp)

theorem Submitted.mode {q : QueueRef} {i : Item V} {h' : Hub V} (submitted : Submitted h t q i h') :
    h'.mode = h.mode := by
  cases submitted with
  | queued admitted => exact admitted.mode
  | immediate admitted => simp
  | dropped admitted => exact admitted.modeDropped

theorem Called.mode {q : QueueRef} {work : Work V} {h' : Hub V} (called : Called h t q work h') :
    h'.mode = h.mode := by
  cases called with
  | own current => simp
  | immediate other admitted => simp
  | waits other admitted => simp [admitted.mode]
  | refused other admitted => simp [admitted.modeDropped]

theorem Closed.mode {name : String} {h' : Hub V} (closed : Closed h t name h') :
    h'.mode = h.mode := by
  cases closed <;> simp

theorem Concluded.mode {e : Ending V} {finish : Finish} {h' : Hub V}
    (concluded : Concluded h t e finish h') : h'.mode = h.mode := by
  cases concluded <;> simp

inductive Jotted (h : Hub V) : Hub V → Prop where
  | intro (notes : List (Option QueueRef × Note V)) (tally : Nat) :
      Jotted h { h with notes := h.notes ++ notes, tally }

theorem jottedNothing (h : Hub V) (tally : Nat) : Jotted h { h with tally } := by
  have jotted := Jotted.intro (h := h) [] tally
  rwa [List.append_nil] at jotted

inductive Acted (h : Hub V) (t : ThreadRef) (a : Activity V) (below : List (Activity V)) :
    Hub V → Prop where
  | ended {e : Ending V} {h' : Hub V} (last : a.ending? = some e)
      (concluded : Concluded (h.setStrand t ⟨below, none⟩) t e a.finish h') : Acted h t a below h'
  | went {rest : Work V} {answer : Option V} {h' : Hub V}
      (next : a.rest.quietly? a.answer = some (rest, answer))
      (jotted : Jotted (h.setStrand t ⟨{ a with rest, answer } :: below, none⟩) h') :
      Acted h t a below h'
  | submitted {q : QueueRef} {fallible : Bool} {work rest : Work V} {h' : Hub V}
      (next : a.rest = .submit q fallible work rest)
      (submitted : Submitted (h.setStrand t ⟨{ a with rest } :: below, none⟩) t q
        ⟨some q, work, finishOf q fallible⟩ h') : Acted h t a below h'
  | called {q : QueueRef} {work rest : Work V} {h' : Hub V} (next : a.rest = .call q work rest)
      (called : Called (h.setStrand t ⟨{ a with rest } :: below, none⟩) t q work h') :
      Acted h t a below h'
  | closed {name : String} {rest : Work V} {h' : Hub V} (next : a.rest = .close name rest)
      (closed : Closed (h.setStrand t ⟨{ a with rest } :: below, none⟩) t name h') :
      Acted h t a below h'

theorem acted (h : Hub V) (t : ThreadRef) (a : Activity V) (below : List (Activity V)) :
    Acted h t a below (h.act t a below) := by
  obtain ⟨place, work, answer, finish⟩ := a
  cases work with
  | done => exact .ended (e := .done answer) rfl (concluded ..)
  | panic p => exact .ended (e := .panicked p) rfl (concluded ..)
  | fail r => exact .ended (e := .failed r) rfl (concluded ..)
  | submit q fallible work rest => exact .submitted rfl (submitted ..)
  | call q work rest => exact .called rfl (called ..)
  | close name rest => exact .closed rfl (closed ..)
  | note v rest => exact .went rfl (.intro [(place, .value v)] _)
  | answer v rest => exact .went rfl (jottedNothing _ _)
  | noteThread rest => exact .went rfl (.intro [(place, .thread _)] _)
  | noteCurrent q rest => exact .went rfl (.intro [(place, .current _)] _)
  | noteQueue name rest => exact .went rfl (.intro [(place, .queue _ _)] _)
  | tally rest => exact .went rfl (jottedNothing _ (h.tally + 1))

theorem failingActs {a : Activity V} {failure : Failure} (fails : a.failure? = some failure)
    (below : List (Activity V)) :
    a.rest.weight = 3 ∧ ∃ label,
      h.act t a below = (h.setStrand t ⟨below, none⟩).surface label failure := by
  obtain ⟨place, rest, answer, finish⟩ := a
  cases finish <;> cases rest <;> cases fails <;> exact ⟨rfl, _, rfl⟩

theorem thrownFails {a : Activity V} {p : Payload} (threw : h.thrown? a = some p) :
    h.trampoline = .inline ∧ ∃ failure, a.failure? = some failure ∧ h.raised? failure = some p := by
  unfold thrown? at threw
  cases mode : h.trampoline with
  | pump => simp [mode] at threw
  | inline =>
    simp only [mode, Option.bind_eq_some_iff] at threw
    exact ⟨rfl, threw⟩

theorem Acted.mode {a : Activity V} {below : List (Activity V)} {h' : Hub V}
    (acted : Acted h t a below h') : h'.mode = h.mode := by
  cases acted with
  | ended last concluded => simp [concluded.mode]
  | went next jotted =>
    cases jotted
    exact modeSetStrand t _
  | submitted next submitted => simp [submitted.mode]
  | called next called => simp [called.mode]
  | closed next closed => simp [closed.mode]

end Hub
end VideoPreview
