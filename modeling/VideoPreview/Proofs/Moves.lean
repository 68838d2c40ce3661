import Mathlib.Data.List.Induction
import VideoPreview.Proofs.Run
import VideoPreview.Proofs.Threads

/-! Runs of a hub. Threads take turns in any order, an idle background thread may take up any item
that waits for one, and the caller begins programs, runs the main loop and makes serial queues
whenever nothing keeps it. The functions that take all turns in one fixed order only go through such
runs. -/
namespace VideoPreview

namespace Hub

variable {V : Type} {h : Hub V} {t : ThreadRef}

inductive Move (V : Type) where
  | turn (t : ThreadRef)
  | grab (thread : Nat) (nested : Bool) (item : Nat)
  | program (work : Work V)
  | mainLoop
  | make (title : String)

def grab (h : Hub V) (n : Nat) (nested : Bool) (i : Nat) : Hub V :=
  match h.background[n]?, (if nested then h.nested else h.injected)[i]? with
  | some ⟨[], none⟩, some item =>
    let h :=
      if nested then { h with nested := h.nested.eraseIdx i }
      else { h with injected := h.injected.eraseIdx i }
    h.push (.background n) item
  | _, _ => h

def beginProgram (h : Hub V) (work : Work V) : Hub V :=
  match h.caller with
  | ⟨[], none⟩ => h.push .caller ⟨none, work, .own⟩
  | _ => h

def takeEntry (h : Hub V) : Hub V :=
  match h.pending with
  | [] => h
  | .handle failure :: rest => { h with pending := rest }.handle failure
  | .item i :: rest => { h with pending := rest }.push .caller i

def step (h : Hub V) : Move V → Hub V
  | .turn t => (h.step? t).getD h
  | .grab n nested i => h.grab n nested i
  | .program work => h.beginProgram work
  | .mainLoop => if h.caller.wait.isSome then h else h.takeEntry
  | .make title => (h.makeSerial title).2

def run (h : Hub V) (moves : List (Move V)) : Hub V := play step h moves

theorem runAppend (before after : List (Move V)) :
    h.run (before ++ after) = (h.run before).run after := playAppend step h before after

theorem turnStep {h' : Hub V} (stepped : h.step? t = some h') : h.step (.turn t) = h' := by
  simp [step, stepped]

theorem turnStuck (stuck : h.step? t = none) : h.step (.turn t) = h := by simp [step, stuck]

def offer? (h : Hub V) (t : ThreadRef) : Work V → Option (QueueRef × Item V)
  | .submit q fallible work _ => some (q, ⟨some q, work, finishOf q fallible⟩)
  | .call q work _ => if h.isCurrent t q then none else some (q, ⟨some q, work, .reply t⟩)
  | _ => none

def entering (n : Nat) (h : Hub V) (q : QueueRef) (i : Item V) : List (Item V) :=
  match q with
  | .serial name => if h.lane? name = some n ∧ h.opened n = true then [i] else []
  | _ => []

def accepting (n : Nat) (h : Hub V) : Move V → List (Item V)
  | .turn t =>
    match h.strand t with
    | ⟨a :: _, none⟩ =>
      match h.offer? t a.rest with
      | some (q, i) => entering n h q i
      | none => []
    | _ => []
  | _ => []

def starting (n : Nat) (h : Hub V) : Move V → List (Item V)
  | .turn (.serial m) =>
    match h.strand (.serial m) with
    | ⟨[], none⟩ => if m = n then (h.backlog n).head?.toList else []
    | _ => []
  | _ => []

def ending (n : Nat) (h : Hub V) : Move V → List (Activity V)
  | .turn (.serial m) =>
    match h.strand (.serial m) with
    | ⟨[a], none⟩ => if m = n ∧ a.ending?.isSome = true then [a] else []
    | _ => []
  | _ => []

def running (n : Nat) (h : Hub V) : List (Activity V) :=
  (h.strand (.serial n)).stack.getLast?.toList

def accepted (n : Nat) (h : Hub V) (moves : List (Move V)) : List (Item V) :=
  seen step (accepting n) h moves

def started (n : Nat) (h : Hub V) (moves : List (Move V)) : List (Item V) :=
  seen step (starting n) h moves

def ended (n : Nat) (h : Hub V) (moves : List (Move V)) : List (Activity V) :=
  seen step (ending n) h moves

inductive Turned (h : Hub V) (t : ThreadRef) : Hub V → Prop where
  | resumed {stack : List (Activity V)} {n : Nat}
      (waits : h.strand t = ⟨stack, some (.drained n)⟩) (drained : h.isDrained n = true) :
      Turned h t ((h.setStrand t ⟨stack, none⟩).noteStopped n)
  | acted {a : Activity V} {below : List (Activity V)} {h' : Hub V}
      (busy : h.strand t = ⟨a :: below, none⟩) (acted : Acted h t a below h') : Turned h t h'
  | begun {i : Item V} {h' : Hub V} (idle : h.strand t = .idle)
      (fetched : h.fetch? t = some (i, h')) : Turned h t (h'.push t i)

inductive Threw (h : Hub V) (t : ThreadRef) : Hub V → Prop where
  | intro {a : Activity V} {below : List (Activity V)} {p : Payload}
      (busy : h.strand t = ⟨a :: below, none⟩) (threw : h.thrown? a = some p) :
      Threw h t ((h.act t a below).unwind t p)

theorem turns {h' : Hub V} (stepped : h.step? t = some h') : Turned h t h' ∨ Threw h t h' := by
  unfold step? at stepped
  cases live : h.aborted with
  | true => simp [live] at stepped
  | false =>
    rcases strand : h.strand t with ⟨stack, wait⟩
    simp only [live, Bool.false_eq_true, if_false, strand] at stepped
    cases wait with
    | some w =>
      cases w with
      | result => cases stepped
      | drained n =>
        by_cases drained : h.isDrained n = true
        · simp only [drained, if_true] at stepped
          cases stepped
          exact .inl (.resumed strand drained)
        · simp only [drained] at stepped
          cases stepped
    | none =>
      cases stack with
      | nil =>
        obtain ⟨⟨i, fetched⟩, found, rfl⟩ := Option.map_eq_some_iff.mp stepped
        exact .inl (.begun strand found)
      | cons a below =>
        cases threw : h.thrown? a with
        | none =>
          simp only [threw] at stepped
          cases stepped
          exact .inl (.acted strand (acted h t a below))
        | some p =>
          simp only [threw] at stepped
          cases stepped
          exact .inr (.intro strand threw)

theorem turned {h' : Hub V} (shielded : h.Shielded) (stepped : h.step? t = some h') :
    Turned h t h' := by
  rcases turns stepped with turned | ⟨busy, threw⟩
  · exact turned
  · rw [shielded.thrown] at threw
    cases threw

theorem busyStep (shielded : h.Shielded) {a : Activity V} {below : List (Activity V)}
    (busy : h.strand t = ⟨a :: below, none⟩) : h.step? t = some (h.act t a below) := by
  simp [step?, busy, shielded.live, shielded.thrown]

inductive Fetched (h : Hub V) : ThreadRef → Item V → Hub V → Prop where
  | nested {n : Nat} {i : Item V} {rest : List (Item V)} (waiting : h.nested = i :: rest) :
      Fetched h (.background n) i { h with nested := rest }
  | injected {n : Nat} {i : Item V} {rest : List (Item V)} (waiting : h.injected = i :: rest) :
      Fetched h (.background n) i { h with injected := rest }
  | serial {n : Nat} {l : SerialLane V} {i : Item V} {rest : List (Item V)}
      (lane : h.lanes[n]? = some l) (waiting : l.queue.backlog = i :: rest) :
      Fetched h (.serial n) i (h.setQueue n { l.queue with backlog := rest })

theorem fetched {i : Item V} {h' : Hub V} (found : h.fetch? t = some (i, h')) :
    Fetched h t i h' ∧ h.Has t := by
  cases t with
  | caller => cases found
  | background n =>
    unfold fetch? at found
    by_cases has : n < h.background.length
    · simp only [has, if_true] at found
      refine ⟨?_, has⟩
      cases nested : h.nested with
      | cons j rest =>
        simp only [nested] at found
        cases found
        exact .nested nested
      | nil =>
        cases injected : h.injected with
        | cons j rest =>
          simp only [nested, injected] at found
          cases found
          simpa [nested] using Fetched.injected (n := n) injected
        | nil =>
          simp only [nested, injected] at found
          cases found
    · simp only [has, if_false] at found
      cases found
  | serial n =>
    cases lane : h.lanes[n]? with
    | none => simp [fetch?, lane] at found
    | some l =>
      cases waiting : l.queue.backlog with
      | nil => simp [fetch?, lane, SerialQueue.take?, waiting] at found
      | cons j rest =>
        simp only [fetch?, lane, SerialQueue.take?, waiting, Option.bind_eq_bind,
          Option.bind_some, Option.some.injEq, Prod.mk.injEq] at found
        obtain ⟨rfl, rfl⟩ := found
        exact ⟨.serial lane waiting, (laneFound lane).1⟩

inductive Made (h : Hub V) (title : String) : Hub V → Prop where
  | unnamed : Made h title { h with queuesAsked := h.queuesAsked + 1 }
  | lane (name : String) :
      Made h title (entry { h with
        queuesAsked := h.queuesAsked + 1
        lanes := h.lanes ++ [⟨title, .start name, .idle⟩] } (.queueStarted name))

theorem made (h : Hub V) (title : String) : Made h title (h.makeSerial title).2 := by
  unfold makeSerial
  cases fault : SerialQueue.nameFault? (h.options.queueName h.queuesAsked) with
  | some p => simpa [fault] using Made.unnamed (h := h)
  | none => simpa [fault] using Made.lane (h := h) (h.options.queueName h.queuesAsked)

theorem Fetched.has {u : ThreadRef} {i : Item V} {h' : Hub V} (fetched : Fetched h t i h')
    (has : h.Has u) : h'.Has u := by
  cases fetched with
  | nested waiting => exact hasLike has rfl rfl
  | injected waiting => exact hasLike has rfl rfl
  | serial lane waiting => exact hasSetQueue has _ _

theorem Fetched.strand {i : Item V} {h' : Hub V} (fetched : Fetched h t i h') (u : ThreadRef) :
    h'.strand u = h.strand u := by
  cases fetched with
  | nested waiting => exact SameThreads.strand ⟨rfl, rfl, rfl⟩ u
  | injected waiting => exact SameThreads.strand ⟨rfl, rfl, rfl⟩ u
  | serial lane waiting => exact strandSetQueue _ _ u

@[simp]
theorem modeStopped (n : Nat) : (h.noteStopped n).mode = h.mode := by
  simp only [noteStopped]
  split <;> simp

theorem Fetched.mode {i : Item V} {h' : Hub V} (fetched : Fetched h t i h') : h'.mode = h.mode := by
  cases fetched <;> rfl

theorem Turned.mode {h' : Hub V} (turned : Turned h t h') : h'.mode = h.mode := by
  cases turned with
  | resumed waits drained => simp
  | acted busy acted => exact acted.mode
  | begun idle found => simp [(fetched found).1.mode]

theorem modeTaken (h : Hub V) : h.takeEntry.mode = h.mode := by
  unfold takeEntry
  split
  · rfl
  · exact modeHandle _
  · exact modePush _

theorem modeGrabbed (h : Hub V) (n : Nat) (nested : Bool) (i : Nat) :
    (h.grab n nested i).mode = h.mode := by
  unfold grab
  split
  · cases nested <;> exact modePush _
  · rfl

theorem modeBegun (h : Hub V) (work : Work V) : (h.beginProgram work).mode = h.mode := by
  unfold beginProgram
  split <;> simp

theorem Made.mode {title : String} {h' : Hub V} (made : Made h title h') : h'.mode = h.mode := by
  cases made <;> rfl

theorem shieldedStep (shielded : h.Shielded) (m : Move V) : (h.step m).Shielded := by
  refine shielded.like ?_
  cases m with
  | turn t =>
    cases stepped : h.step? t with
    | none => rw [turnStuck stepped]
    | some h' => rw [turnStep stepped, (turned shielded stepped).mode]
  | grab n nested i => exact modeGrabbed h n nested i
  | program work => exact modeBegun h work
  | mainLoop =>
    change (if h.caller.wait.isSome then h else h.takeEntry).mode = h.mode
    split
    · rfl
    · exact modeTaken h
  | make title => exact (made h title).mode

theorem shieldedRun (shielded : h.Shielded) (moves : List (Move V)) : (h.run moves).Shielded := by
  induction moves generalizing h with
  | nil => exact shielded
  | cons m rest ih => exact ih (shieldedStep shielded m)

theorem shieldedBlank {trampoline : Trampoline} {handling : FailureHandling}
    (calm : trampoline = .pump ∨ handling.IsGentle) (callerIsMain : Bool)
    (options : DispatchOptions) (crew : Nat) :
    (blank trampoline handling callerIsMain options crew : Hub V).Shielded := ⟨calm, rfl⟩

end Hub
end VideoPreview
