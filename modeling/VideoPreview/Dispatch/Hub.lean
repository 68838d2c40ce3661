import VideoPreview.Dispatch.Context
import VideoPreview.Dispatch.MainLoop
import VideoPreview.Dispatch.Work

/-!
Queues and threads together. The main queue's items run on the thread of the caller, the background
queue has some threads, and every serial queue has its own. Threads take turns in any order, one
step at a time; a failure of asynchronous work is handed to the handler through the main queue. No
item's panic goes further than the item, but the handler's own does: through the main loop, or where
there is none through the thread whose item failed.
-/
namespace VideoPreview

inductive ThreadRef where
  | caller
  | background (n : Nat)
  | serial (n : Nat)
  deriving DecidableEq, Repr

def ThreadRef.isBackground : ThreadRef → Bool
  | background _ => true
  | _ => false

/-- What follows when an item ends: a failure, if it panicked or, where it is fallible, had an
error; a result for the item below it or for a thread that waits; or nothing, if it is no queue's
item but the caller's own program. -/
inductive Finish where
  | asynchronous (label : String)
  | fallible (label : String)
  | inlined
  | reply (receiver : ThreadRef)
  | own
  deriving DecidableEq, Repr

structure Item (V : Type) where
  place : Option QueueRef
  work : Work V
  finish : Finish
  deriving DecidableEq, Repr

structure Activity (V : Type) where
  place : Option QueueRef
  rest : Work V
  answer : Option V
  finish : Finish
  deriving DecidableEq, Repr

def Item.begin (i : Item V) : Activity V := ⟨i.place, i.work, none, i.finish⟩

def Item.receiver? (i : Item V) : Option ThreadRef :=
  match i.finish with
  | .reply receiver => some receiver
  | _ => none

def Activity.failure? (a : Activity V) : Option Failure :=
  match a.finish, a.rest with
  | .asynchronous _, .panic p => some (.ofPanic p)
  | .fallible _, .panic p => some (.ofPanic p)
  | .fallible _, .fail r => some (.failed r)
  | _, _ => none

inductive Wait where
  | result
  | drained (n : Nat)
  deriving DecidableEq, Repr

structure Strand (V : Type) where
  stack : List (Activity V)
  wait : Option Wait
  deriving DecidableEq, Repr

def Strand.idle : Strand V := ⟨[], none⟩

structure SerialLane (V : Type) where
  title : String
  queue : SerialQueue (Item V)
  strand : Strand V

inductive MainEntry (V : Type) where
  | item (i : Item V)
  | handle (failure : Failure)
  deriving DecidableEq, Repr

structure Hub (V : Type) where
  trampoline : Trampoline
  handling : FailureHandling
  options : DispatchOptions
  callerIsMain : Bool
  caller : Strand V
  background : List (Strand V)
  aborted : Bool
  /-- Submitted from background threads themselves, the latest first; `injected` come from other
  threads, the oldest first. -/
  nested : List (Item V)
  injected : List (Item V)
  lanes : List (SerialLane V)
  queuesAsked : Nat
  pending : List (MainEntry V)
  tally : Nat
  notes : List (Option QueueRef × Note V)
  failures : List Failure
  log : List LogEntry

namespace Hub

variable {V : Type}

def blank (trampoline : Trampoline) (handling : FailureHandling) (callerIsMain : Bool)
    (options : DispatchOptions) (crew : Nat) : Hub V where
  trampoline
  handling
  options
  callerIsMain
  caller := .idle
  background := List.replicate crew .idle
  aborted := false
  nested := []
  injected := []
  lanes := []
  queuesAsked := 0
  pending := []
  tally := 0
  notes := []
  failures := []
  log := [options.readyEntry]

def start (trampoline : Trampoline) (handling : FailureHandling) (callerIsMain : Bool)
    (options : DispatchOptions) : Except DispatchError (Hub V) :=
  match options.fault? with
  | some e => .error e
  | none => .ok (blank trampoline handling callerIsMain options options.crew)

def lane? (h : Hub V) (name : String) : Option Nat :=
  (h.lanes.zipIdx.findRev? fun l => l.1.title == name).map Prod.snd

def strand (h : Hub V) : ThreadRef → Strand V
  | .caller => h.caller
  | .background n => h.background[n]?.getD .idle
  | .serial n => (h.lanes[n]?.map (·.strand)).getD .idle

def setStrand (h : Hub V) (t : ThreadRef) (s : Strand V) : Hub V :=
  match t with
  | .caller => { h with caller := s }
  | .background n => { h with background := h.background.set n s }
  | .serial n => { h with lanes := h.lanes.modify n fun l => { l with strand := s } }

def setQueue (h : Hub V) (n : Nat) (q : SerialQueue (Item V)) : Hub V :=
  { h with lanes := h.lanes.modify n fun l => { l with queue := q } }

def isCurrent (h : Hub V) (t : ThreadRef) : QueueRef → Bool
  | .main => h.callerIsMain && t = .caller
  | .background => t.isBackground
  | .serial name =>
    match h.lane? name with
    | some n => t = .serial n
    | none => false

def threadName (h : Hub V) : ThreadRef → String
  | .caller => "main"
  | .background n => s!"background-{n}"
  | .serial n => (h.lanes[n]?.map (·.queue.name)).getD ""

def label : QueueRef → String
  | .main => "main"
  | .background => "background"
  | .serial _ => "serial"

def isServed (h : Hub V) (n : Nat) : Bool := h.lanes[n]?.all (·.queue.isServed)

def isDrained (h : Hub V) (n : Nat) : Bool :=
  match h.lanes[n]? with
  | some l => l.queue.backlog.isEmpty && l.strand.stack.isEmpty
  | none => true

def record (h : Hub V) (place : Option QueueRef) (n : Note V) : Hub V :=
  { h with notes := h.notes ++ [(place, n)] }

def entry (h : Hub V) (e : LogEntry) : Hub V := { h with log := h.log ++ [e] }

def handle (h : Hub V) (failure : Failure) : Hub V :=
  match h.handling with
  | .log => h.entry (.unhandled failure.message)
  | _ => { h with failures := h.failures ++ [failure] }

def raised? (h : Hub V) (failure : Failure) : Option Payload :=
  h.handling.thrown? h.failures failure

def surface (h : Hub V) (label : String) (failure : Failure) : Hub V :=
  let h := h.entry (.surfacing label failure.message)
  match h.trampoline with
  | .pump => { h with pending := h.pending ++ [.handle failure] }
  | .inline => h.handle failure

/-! ### Submitting -/

inductive Acceptance (V : Type) where
  | queued (h : Hub V)
  | immediate
  | dropped (h : Hub V)

def accept (h : Hub V) (t : ThreadRef) (q : QueueRef) (i : Item V) : Acceptance V :=
  match q with
  | .main =>
    match h.trampoline with
    | .pump => .queued { h with pending := h.pending ++ [.item i] }
    | .inline => .immediate
  | .background =>
    if t.isBackground then .queued { h with nested := i :: h.nested }
    else .queued { h with injected := h.injected ++ [i] }
  | .serial name =>
    match h.lane? name with
    | none => .dropped h
    | some n =>
      match h.lanes[n]? with
      | none => .dropped h
      | some l =>
        if l.queue.accepts then .queued (h.setQueue n (l.queue.submit i))
        else .dropped (h.entry (.workDropped l.queue.name))

def push (h : Hub V) (t : ThreadRef) (i : Item V) : Hub V :=
  h.setStrand t { h.strand t with stack := i.begin :: (h.strand t).stack }

def giveResult (h : Hub V) (t : ThreadRef) (r : CallResult V) : Hub V :=
  match (h.strand t).stack with
  | a :: rest => (h.setStrand t ⟨a :: rest, none⟩).record a.place (.result r)
  | [] => h

def finishOf (q : QueueRef) (fallible : Bool) : Finish :=
  if fallible then .fallible (label q) else .asynchronous (label q)

def submit (h : Hub V) (t : ThreadRef) (q : QueueRef) (fallible : Bool) (work : Work V) : Hub V :=
  let i : Item V := ⟨some q, work, finishOf q fallible⟩
  match h.accept t q i with
  | .queued h => h
  | .immediate => h.push t i
  | .dropped h => h

def call (h : Hub V) (t : ThreadRef) (q : QueueRef) (work : Work V) : Hub V :=
  if h.isCurrent t q then h.push t ⟨some q, work, .inlined⟩
  else
    match h.accept t q ⟨some q, work, .reply t⟩ with
    | .queued h => h.setStrand t { h.strand t with wait := some .result }
    | .immediate => h.push t ⟨some q, work, .inlined⟩
    | .dropped h => h.giveResult t (.failed (.abandoned (label q)))

def close (h : Hub V) (t : ThreadRef) (name : String) : Hub V :=
  match h.lane? name with
  | none => h
  | some n =>
    match h.lanes[n]? with
    | none => h
    | some l =>
      if l.queue.isOpen then
        let h := h.setQueue n l.queue.close
        if t = .serial n then h.entry (.queueDetached l.queue.name)
        else h.setStrand t { h.strand t with wait := some (.drained n) }
      else h

inductive Ending (V : Type) where
  | done (answer : Option V)
  | failed (r : Report)
  | panicked (p : Payload)

def Ending.result : Ending V → CallResult V
  | done answer => .returned answer
  | failed r => .reported r
  | panicked p => .failed (.ofPanic p)

def Ending.failure? (fallible : Bool) : Ending V → Option Failure
  | done _ => none
  | failed r => if fallible then some (.failed r) else none
  | panicked p => some (.ofPanic p)

def conclude (h : Hub V) (t : ThreadRef) (finish : Finish) (e : Ending V) : Hub V :=
  match finish with
  | .asynchronous label =>
    match e.failure? false with
    | some failure => h.surface label failure
    | none => h
  | .fallible label =>
    match e.failure? true with
    | some failure => h.surface label failure
    | none => h
  | .inlined => h.giveResult t e.result
  | .reply receiver => h.giveResult receiver e.result
  | .own => h

def act (h : Hub V) (t : ThreadRef) (a : Activity V) (below : List (Activity V)) : Hub V :=
  let onward rest := h.setStrand t ⟨{ a with rest } :: below, none⟩
  let popped := h.setStrand t ⟨below, none⟩
  match a.rest with
  | .done => popped.conclude t a.finish (.done a.answer)
  | .panic p => popped.conclude t a.finish (.panicked p)
  | .fail r => popped.conclude t a.finish (.failed r)
  | .note v rest => (onward rest).record a.place (.value v)
  | .answer v rest => h.setStrand t ⟨{ a with rest, answer := some v } :: below, none⟩
  | .noteThread rest => (onward rest).record a.place (.thread (h.threadName t))
  | .noteCurrent q rest => (onward rest).record a.place (.current (h.isCurrent t q))
  | .noteQueue name rest =>
    let queue := ((h.lane? name).bind fun n => h.lanes[n]?).map (·.queue.name)
    (onward rest).record a.place (.queue (queue.getD "") (h.isCurrent t (.serial name)))
  | .tally rest => { onward rest with tally := h.tally + 1 }
  | .submit q fallible work rest => (onward rest).submit t q fallible work
  | .call q work rest => (onward rest).call t q work
  | .close name rest => (onward rest).close t name

def fetch? (h : Hub V) : ThreadRef → Option (Item V × Hub V)
  | .caller => none
  | .background n =>
    if n < h.background.length then
      match h.nested, h.injected with
      | i :: rest, _ => some (i, { h with nested := rest })
      | [], i :: rest => some (i, { h with injected := rest })
      | [], [] => none
    else none
  | .serial n => do
    let l ← h.lanes[n]?
    let (i, queue) ← l.queue.take?
    some (i, h.setQueue n queue)

def noteStopped (h : Hub V) (n : Nat) : Hub V :=
  let name := h.threadName (.serial n)
  let h := if h.isServed n then h else h.entry (.workerPanicked name)
  h.entry (.queueStopped name)

def thrown? (h : Hub V) (a : Activity V) : Option Payload :=
  match h.trampoline with
  | .pump => none
  | .inline => a.failure?.bind h.raised?

def desert (h : Hub V) (n : Nat) : Hub V :=
  match h.lanes[n]? with
  | none => h
  | some l =>
    (l.queue.backlog.filterMap Item.receiver?).foldl
      (fun h t => h.giveResult t (.failed (.abandoned (label (.serial l.title)))))
      (h.setQueue n l.queue.desert)

/-- A panic of the handler. The item that called upon it from below panics as well; where there is
none, the thread ends: a queue is deserted, and a background thread takes everything with it. -/
def unwind (h : Hub V) (t : ThreadRef) (p : Payload) : Hub V :=
  match h.strand t, t with
  | ⟨a :: below, wait⟩, _ => h.setStrand t ⟨{ a with rest := .panic p } :: below, wait⟩
  | ⟨[], _⟩, .caller => h
  | ⟨[], _⟩, .background _ => { h with aborted := true }
  | ⟨[], _⟩, .serial n => h.desert n

def step? (h : Hub V) (t : ThreadRef) : Option (Hub V) :=
  if h.aborted then none
  else
    match h.strand t with
    | ⟨_, some .result⟩ => none
    | ⟨stack, some (.drained n)⟩ =>
      if h.isDrained n then some ((h.setStrand t ⟨stack, none⟩).noteStopped n) else none
    | ⟨a :: below, none⟩ =>
      match h.thrown? a with
      | none => some (h.act t a below)
      | some p => some ((h.act t a below).unwind t p)
    | ⟨[], none⟩ => (h.fetch? t).map fun (i, h) => h.push t i

/-! ### Running -/

def threads (h : Hub V) : List ThreadRef :=
  .caller :: (List.range h.background.length).map .background
    ++ (List.range h.lanes.length).map .serial

def next? (h : Hub V) : Option (Hub V) := h.threads.findSome? h.step?

def Item.weight (i : Item V) : Nat := i.work.weight + 1

def Strand.weight (s : Strand V) : Nat :=
  totalWeight (fun a => a.rest.weight) s.stack + if s.wait.isSome then 1 else 0

def MainEntry.weight : MainEntry V → Nat
  | .item i => i.work.weight + 1
  | .handle _ => 1

def weight (h : Hub V) : Nat :=
  totalWeight Strand.weight (h.caller :: h.background ++ h.lanes.map (·.strand))
    + totalWeight Item.weight (h.nested ++ h.injected ++ h.lanes.flatMap (·.queue.backlog))
    + totalWeight MainEntry.weight h.pending

def advance : Nat → Hub V → Hub V
  | 0, h => h
  | n + 1, h =>
    match h.next? with
    | some h' => advance n h'
    | none => h

def settle (h : Hub V) : Hub V := advance h.weight h

def perform (h : Hub V) (program : Work V) : Hub V :=
  (h.push .caller ⟨none, program, .own⟩).settle

def notesOf (h : Hub V) (place : Option QueueRef) : List (Note V) :=
  h.notes.filterMap fun n => if n.1 = place then some n.2 else none

def notedQueues (h : Hub V) : List QueueRef := (h.notes.filterMap Prod.fst).eraseDups

def isOpen (h : Hub V) (name : String) : Bool :=
  ((h.lane? name).bind fun n => h.lanes[n]?).any fun l => l.queue.isOpen

def closeInside (h : Hub V) (name : String) (farewell : V) : Hub V :=
  if h.isOpen name then h.perform (.closeFromInside name farewell) else h

def ask (h : Hub V) (q : QueueRef) (work : Work V) : Option (CallResult V) × Hub V :=
  let h := h.perform (.call q work .done)
  ((h.notesOf none).findSome? fun
      | .result r => some r
      | _ => none,
    { h with notes := h.notes.filter fun n => n.1.isSome })

def advanceCaller : Nat → Hub V → Hub V
  | 0, h => h
  | n + 1, h =>
    if h.caller.stack.isEmpty then h
    else
      match h.next? with
      | some h' => advanceCaller n h'
      | none => h

def runEntry (h : Hub V) : MainEntry V → Option Payload × Hub V
  | .handle failure => (h.raised? failure, h.handle failure)
  | .item i =>
    let h := h.push .caller i
    (none, advanceCaller h.weight h)

def drainUntil (done : Hub V → Bool) : Nat → Nat → Hub V → Except Payload Nat × Hub V
  | 0, ran, h => (.ok ran, h)
  | fuel + 1, ran, h =>
    if done h || h.caller.wait.isSome then (.ok ran, h)
    else
      match h.pending with
      | [] => (.ok ran, h)
      | e :: rest =>
        match runEntry { h with pending := rest } e with
        | (some p, h) => (.error p, h)
        | (none, h) => drainUntil done fuel (ran + 1) h

def pump (h : Hub V) : Except Payload Nat × Hub V :=
  let (ran, h) := drainUntil (fun _ => false) h.weight 0 h
  (ran, h.settle)

def pumpUntil (h : Hub V) (more : Nat) : Except Payload Bool × Hub V :=
  let target := h.tally + more
  let (ran, h) := drainUntil (fun h => target ≤ h.tally) h.weight 0 h
  (ran.map fun _ => target ≤ h.tally, h.settle)

def exhaustRounds : Nat → Hub V → Hub V
  | 0, h => h
  | n + 1, h => if h.pending.isEmpty then h else exhaustRounds n h.pump.2

def exhaust (h : Hub V) : Hub V := exhaustRounds h.weight h

def makeSerial (h : Hub V) (title : String) : Except Payload String × Hub V :=
  let name := h.options.queueName h.queuesAsked
  let h := { h with queuesAsked := h.queuesAsked + 1 }
  match SerialQueue.nameFault? name with
  | some p => (.error p, h)
  | none =>
    let lane : SerialLane V := ⟨title, .start name, .idle⟩
    (.ok name, { h with lanes := h.lanes ++ [lane] }.entry (.queueStarted name))

def diagnostic (h : Hub V) (q : QueueRef) : String :=
  let queue := "Queue \x7b label: " ++ Text.quoted (label q) ++ " \x7d"
  let lane := match q with
    | .serial name => (h.lane? name).bind fun n => h.lanes[n]?
    | _ => none
  match lane.filter (·.queue.isOpen) with
  | some l => queue ++ " SerialQueue \x7b name: " ++ Text.quoted l.queue.name ++ " \x7d"
  | none => queue

end Hub
end VideoPreview
