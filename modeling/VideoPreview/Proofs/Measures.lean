import VideoPreview.Proofs.Moves

/-! Sums over everything that runs or waits in a hub, and what a turn does to them. The weight is
such a sum and falls with every turn, so that no threads can go on forever by themselves. -/
namespace VideoPreview

section
variable {ι κ : Type}

@[simp] theorem totalWeightMap (f : κ → Nat) (g : ι → κ) (l : List ι) :
    totalWeight f (l.map g) = totalWeight (fun x => f (g x)) l := by
  induction l with
  | nil => rfl
  | cons x rest ih => simp [ih]

@[simp] theorem totalWeightFlatMap (f : κ → Nat) (g : ι → List κ) (l : List ι) :
    totalWeight f (l.flatMap g) = totalWeight (fun x => totalWeight f (g x)) l := by
  induction l with
  | nil => rfl
  | cons x rest ih => simp [ih]

theorem totalWeightModify (f : ι → Nat) (g : ι → ι) {l : List ι} {n : Nat} {x : ι}
    (at' : l[n]? = some x) :
    totalWeight f (l.modify n g) + f x = totalWeight f l + f (g x) := by
  induction l generalizing n with
  | nil => cases at'
  | cons y rest ih =>
    cases n with
    | zero =>
      cases at'
      simp only [List.modify_zero_cons, totalWeight]
      omega
    | succ n =>
      have below := ih at'
      simp only [List.modify_succ_cons, totalWeight]
      omega

theorem totalWeightSet (f : ι → Nat) (y : ι) {l : List ι} {n : Nat} {x : ι}
    (at' : l[n]? = some x) : totalWeight f (l.set n y) + f x = totalWeight f l + f y := by
  rw [List.set_eq_modify]
  exact totalWeightModify f (fun _ => y) at'

theorem totalWeightErase (f : ι → Nat) {l : List ι} {n : Nat} {x : ι} (at' : l[n]? = some x) :
    totalWeight f (l.eraseIdx n) + f x = totalWeight f l := by
  induction l generalizing n with
  | nil => cases at'
  | cons y rest ih =>
    cases n with
    | zero =>
      cases at'
      simp only [List.eraseIdx_cons_zero, totalWeight]
      omega
    | succ n =>
      have below := ih at'
      simp only [List.eraseIdx_cons_succ, totalWeight]
      omega

theorem totalWeightMem (f : ι → Nat) {l : List ι} {x : ι} (mem : x ∈ l) :
    f x ≤ totalWeight f l := by
  obtain ⟨n, at'⟩ := List.mem_iff_getElem?.mp mem
  have total := totalWeightErase f at'
  omega

end

/-- What counts for a sum: the items that run, the threads that wait, the items that wait, and the
failures on their way. -/
structure Measure (V : Type) where
  activity : Activity V → Nat
  wait : Wait → Nat
  item : Item V → Nat
  failure : Nat

namespace Measure

open Hub

variable {V : Type} (m : Measure V) {h : Hub V} {t : ThreadRef}

def waiting (w : Option Wait) : Nat := (w.map m.wait).getD 0

def strand (s : Strand V) : Nat := totalWeight m.activity s.stack + m.waiting s.wait

def entry : MainEntry V → Nat
  | .item i => m.item i
  | .handle _ => m.failure

def hub (h : Hub V) : Nat :=
  totalWeight m.strand (h.caller :: h.background ++ h.lanes.map (·.strand))
    + totalWeight m.item (h.nested ++ h.injected ++ h.lanes.flatMap (·.queue.backlog))
    + totalWeight m.entry h.pending

theorem hubParts (h : Hub V) : m.hub h =
    m.strand h.caller + totalWeight m.strand h.background
      + totalWeight (fun l => m.strand l.strand) h.lanes
      + (totalWeight m.item h.nested + totalWeight m.item h.injected
        + totalWeight (fun l => totalWeight m.item l.queue.backlog) h.lanes)
      + totalWeight m.entry h.pending := by
  simp [hub]
  omega

theorem setStrandTotal (has : h.Has t) (s : Strand V) :
    m.hub (h.setStrand t s) + m.strand (h.strand t) = m.hub h + m.strand s := by
  cases t with
  | caller =>
    simp only [hubParts, Hub.setStrand, Hub.strand]
    omega
  | background n =>
    have found : h.background[n]? = some h.background[n] := List.getElem?_eq_getElem has
    have changed := totalWeightSet m.strand s found
    simp only [hubParts, Hub.setStrand, Hub.strand, found, Option.getD_some]
    omega
  | serial n =>
    have found : h.lanes[n]? = some h.lanes[n] := List.getElem?_eq_getElem has
    have strands := totalWeightModify (fun l => m.strand l.strand)
      (fun l => { l with strand := s }) found
    have backlogs := totalWeightModify (fun l => totalWeight m.item l.queue.backlog)
      (fun l => { l with strand := s }) found
    simp only [hubParts, Hub.setStrand, Hub.strand, found, Option.map_some, Option.getD_some]
    simp only at strands backlogs
    omega

theorem setQueueTotal {n : Nat} {l : SerialLane V} (lane : h.lanes[n]? = some l)
    (q : SerialQueue (Item V)) :
    m.hub (h.setQueue n q) + totalWeight m.item l.queue.backlog =
      m.hub h + totalWeight m.item q.backlog := by
  have strands := totalWeightModify (fun l => m.strand l.strand)
    (fun l => { l with queue := q }) lane
  have backlogs := totalWeightModify (fun l => totalWeight m.item l.queue.backlog)
    (fun l => { l with queue := q }) lane
  simp only [hubParts, Hub.setQueue]
  simp only at strands backlogs
  omega

theorem strandLe (t : ThreadRef) : m.strand (h.strand t) ≤ m.hub h := by
  have nothing : m.strand Strand.idle = 0 := rfl
  by_cases has : h.Has t
  · have emptied := m.setStrandTotal has .idle
    omega
  · rw [strandAbsent has, nothing]
    exact Nat.zero_le _

theorem activityLe {s : Strand V} {a : Activity V} (mem : a ∈ s.stack) :
    m.activity a ≤ m.strand s :=
  Nat.le_trans (totalWeightMem m.activity mem) (Nat.le_add_right _ _)

def lane (n : Nat) (h : Hub V) : Nat :=
  m.strand (h.strand (.serial n)) + totalWeight m.item (h.backlog n)

theorem laneLe (n : Nat) : m.lane n h ≤ m.hub h := by
  cases lane : h.lanes[n]? with
  | none =>
    simp [Measure.lane, Hub.strand, backlog, lane, strand, waiting, Strand.idle]
  | some l =>
    have mem := List.mem_of_getElem? lane
    have strands := totalWeightMem (fun l => m.strand l.strand) mem
    have backlogs := totalWeightMem (fun l => totalWeight m.item l.queue.backlog) mem
    simp only [Measure.lane, Hub.strand, backlog, lane, Option.map_some, Option.getD_some, hubParts]
    omega

theorem laneApart {n : Nat} (apart : t ≠ .serial n) :
    m.strand (h.strand t) + m.lane n h ≤ m.hub h := by
  by_cases has : h.Has t
  · have emptied := m.setStrandTotal has .idle
    have rest := m.laneLe (h := h.setStrand t .idle) n
    have same : m.lane n (h.setStrand t .idle) = m.lane n h := by
      rw [Measure.lane, strandSetOther (Ne.symm apart), backlogSetStrand, Measure.lane]
    have nothing : m.strand Strand.idle = 0 := rfl
    omega
  · have nothing : m.strand Strand.idle = 0 := rfl
    rw [strandAbsent has, nothing, Nat.zero_add]
    exact m.laneLe n

theorem jottedTotal {h' : Hub V} (jotted : Jotted h h') : m.hub h' = m.hub h := by
  cases jotted
  rfl

theorem pushTotal (has : h.Has t) (i : Item V) :
    m.hub (h.push t i) = m.hub h + m.activity i.begin := by
  have changed := m.setStrandTotal has
    { h.strand t with stack := i.begin :: (h.strand t).stack }
  simp only [strand, totalWeight] at changed
  simp only [Hub.push]
  omega

theorem giveResultTotal {a : Activity V} {below : List (Activity V)} {w : Option Wait}
    (busy : h.strand t = ⟨a :: below, w⟩) (r : CallResult V) :
    m.hub (h.giveResult t r) + m.waiting w = m.hub h := by
  have changed := m.setStrandTotal (hasOfStack busy) ⟨a :: below, none⟩
  have same : m.hub (h.giveResult t r) = m.hub (h.setStrand t ⟨a :: below, none⟩) := by
    simp only [giveResult, busy]
    rfl
  simp only [busy, strand, waiting] at changed
  simp only [same, waiting]
  simp only [Option.map_none, Option.getD_none] at changed
  omega

theorem surfaceTotal (label : String) (failure : Failure) :
    m.hub (h.surface label failure) =
      m.hub h + if h.trampoline = .pump then m.failure else 0 := by
  unfold surface
  cases mode : h.trampoline with
  | pump => simp [mode, Hub.entry, hub, entry, Nat.add_assoc]
  | inline => cases handling : h.handling <;> simp [mode, Hub.entry, handle, handling, hub]

theorem queuedTotal {q : QueueRef} {i : Item V} {h' : Hub V}
    (admitted : Admitted h t i q (.queued h')) : m.hub h' = m.hub h + m.item i := by
  cases admitted with
  | posted pump =>
    simp only [hub, totalWeightAppend, totalWeight, entry]
    omega
  | nested own =>
    simp only [hub, totalWeightAppend, totalWeight, List.cons_append]
    omega
  | injected other =>
    simp only [hub, totalWeightAppend, totalWeight]
    omega
  | @lined name n l found lane opened =>
    have changed := m.setQueueTotal lane (l.queue.submit i)
    rw [SerialQueue.submitBacklog opened, totalWeightAppend] at changed
    simp only [totalWeight] at changed
    omega

theorem droppedTotal {q : QueueRef} {i : Item V} {h' : Hub V}
    (admitted : Admitted h t i q (.dropped h')) : m.hub h' = m.hub h := by
  cases admitted <;> rfl

theorem fetchedTotal {i : Item V} {h' : Hub V} (fetched : Fetched h t i h') :
    m.hub h' + m.item i = m.hub h := by
  cases fetched with
  | nested waiting =>
    simp only [hub, waiting, totalWeightAppend, totalWeight, List.cons_append]
    omega
  | injected waiting =>
    simp only [hub, waiting, totalWeightAppend, totalWeight]
    omega
  | @serial n l i rest lane waiting =>
    have changed := m.setQueueTotal lane ⟨l.queue.name, rest, l.queue.isOpen, l.queue.isServed⟩
    rw [waiting] at changed
    simp only [totalWeight] at changed
    change
      m.hub (h.setQueue n ⟨l.queue.name, rest, l.queue.isOpen, l.queue.isServed⟩) + m.item i = _
    omega

theorem waitTotal (has : h.Has t) (w : Wait) :
    m.hub (h.setStrand t ⟨(h.strand t).stack, some w⟩) + m.waiting (h.strand t).wait =
      m.hub h + m.wait w := by
  have changed := m.setStrandTotal has ⟨(h.strand t).stack, some w⟩
  simp only [strand] at changed
  simp only [waiting, Option.map_some, Option.getD_some] at changed ⊢
  omega

theorem giveResultLe (r : CallResult V) : m.hub (h.giveResult t r) ≤ m.hub h := by
  rcases busy : h.strand t with ⟨stack, wait⟩
  cases stack with
  | nil => simp [giveResult, busy]
  | cons a below =>
    have given := m.giveResultTotal busy r
    omega

theorem surfaceLe (label : String) (failure : Failure) :
    m.hub (h.surface label failure) ≤ m.hub h + m.failure := by
  rw [surfaceTotal]
  split <;> omega

theorem concludedLe {finish : Finish} {e : Ending V} {h' : Hub V}
    (concluded : Concluded h t e finish h') : m.hub h' ≤ m.hub h + m.failure := by
  cases concluded with
  | quiet none unasked unawaited => exact Nat.le_add_right _ _
  | surfaced some => exact m.surfaceLe _ _
  | inlined => exact Nat.le_trans (m.giveResultLe _) (Nat.le_add_right _ _)
  | replied receiver => exact Nat.le_trans (m.giveResultLe _) (Nat.le_add_right _ _)

theorem concludedDoneLe {finish : Finish} {answer : Option V} {h' : Hub V}
    (concluded : Concluded h t (.done answer) finish h') : m.hub h' ≤ m.hub h := by
  cases concluded with
  | quiet none unasked unawaited => exact Nat.le_refl _
  | surfaced some => cases finish <;> cases some
  | inlined => exact m.giveResultLe _
  | replied receiver => exact m.giveResultLe _

theorem submittedLe {q : QueueRef} {i : Item V} {h' : Hub V} (has : h.Has t)
    (submitted : Submitted h t q i h') {k : Nat} (item : m.item i ≤ k)
    (activity : m.activity i.begin ≤ k) : m.hub h' ≤ m.hub h + k := by
  cases submitted with
  | queued admitted =>
    have total := m.queuedTotal admitted
    omega
  | immediate admitted =>
    have total := m.pushTotal has i
    omega
  | dropped admitted =>
    have total := m.droppedTotal admitted
    omega

theorem calledLe {q : QueueRef} {work : Work V} {h' : Hub V} (has : h.Has t)
    (called : Called h t q work h') {k : Nat}
    (item : m.item ⟨some q, work, .reply t⟩ + m.wait .result ≤ k)
    (activity : m.activity (Item.begin ⟨some q, work, .inlined⟩) ≤ k) :
    m.hub h' ≤ m.hub h + k := by
  have pushed := m.pushTotal has ⟨some q, work, .inlined⟩
  cases called with
  | own current => omega
  | waits other admitted =>
    have total := m.queuedTotal admitted
    have waits := m.waitTotal (admitted.has has) .result
    omega
  | immediate other admitted => omega
  | @refused h' other admitted =>
    have total := m.droppedTotal admitted
    have given := m.giveResultLe (h := h') (t := t) (.failed (.abandoned (label q)))
    omega

theorem closedLe {name : String} {h' : Hub V} (has : h.Has t) (closed : Closed h t name h')
    {k : Nat} (wait : ∀ n, m.wait (.drained n) ≤ k) : m.hub h' ≤ m.hub h + k := by
  cases closed with
  | nothing unopened => exact Nat.le_add_right _ _
  | @detached n l found lane opened own =>
    have shut := m.setQueueTotal lane l.queue.close
    change m.hub (h.setQueue n l.queue.close) ≤ m.hub h + k
    change _ + totalWeight m.item l.queue.backlog = _ + totalWeight m.item l.queue.backlog at shut
    omega
  | @waits n l found lane opened other =>
    have shut := m.setQueueTotal lane l.queue.close
    change _ + totalWeight m.item l.queue.backlog = _ + totalWeight m.item l.queue.backlog at shut
    have waits := m.waitTotal (hasSetQueue has n l.queue.close) (.drained n)
    rw [strandSetQueue] at waits
    have bound := wait n
    omega

theorem stoppedTotal (n : Nat) : m.hub (h.noteStopped n) = m.hub h := by
  simp only [noteStopped]
  split <;> rfl

theorem desertLe (n : Nat) : m.hub (h.desert n) ≤ m.hub h := by
  have told (ts : List ThreadRef) (r : CallResult V) (g : Hub V) :
      m.hub (ts.foldl (fun g t => g.giveResult t r) g) ≤ m.hub g := by
    induction ts generalizing g with
    | nil => exact Nat.le_refl _
    | cons t rest ih => exact Nat.le_trans (ih _) (m.giveResultLe r)
  unfold desert
  cases lane : h.lanes[n]? with
  | none => exact Nat.le_refl _
  | some l =>
    have emptied := m.setQueueTotal lane l.queue.desert
    refine Nat.le_trans (told _ _ _) ?_
    simp only [SerialQueue.desert, totalWeight] at emptied ⊢
    omega

structure Calm : Prop where
  wait : ∀ w, m.wait w = 0
  failure : m.failure = 0

variable {m}

theorem Calm.waiting (calm : m.Calm) (w : Option Wait) : m.waiting w = 0 := by
  cases w with
  | none => rfl
  | some w => exact calm.wait w

theorem Calm.setStrand (calm : m.Calm) {a : Activity V} {below : List (Activity V)}
    {w : Option Wait} (busy : h.strand t = ⟨a :: below, w⟩) (stack : List (Activity V))
    (wait : Option Wait) :
    m.hub (h.setStrand t ⟨stack, wait⟩) + (m.activity a + totalWeight m.activity below) =
      m.hub h + totalWeight m.activity stack := by
  have changed := m.setStrandTotal (hasOfStack busy) ⟨stack, wait⟩
  simpa only [busy, strand, calm.waiting, Nat.add_zero, totalWeight] using changed

theorem Calm.given (calm : m.Calm) (r : CallResult V) : m.hub (h.giveResult t r) = m.hub h := by
  rcases busy : h.strand t with ⟨stack, w⟩
  cases stack with
  | nil => simp [giveResult, busy]
  | cons a below =>
    have given := m.giveResultTotal busy r
    rwa [calm.waiting, Nat.add_zero] at given

theorem Calm.concluded (calm : m.Calm) {finish : Finish} {e : Ending V} {h' : Hub V}
    (concluded : Concluded h t e finish h') : m.hub h' = m.hub h := by
  cases concluded with
  | quiet none unasked unawaited => rfl
  | surfaced some => simp [surfaceTotal, calm.failure]
  | inlined => exact calm.given _
  | replied receiver => exact calm.given _

theorem Calm.setWait (calm : m.Calm) (has : h.Has t) (w : Wait) :
    m.hub (h.setStrand t ⟨(h.strand t).stack, some w⟩) = m.hub h := by
  have total := m.waitTotal has w
  rwa [calm.waiting, calm.wait, Nat.add_zero, Nat.add_zero] at total

theorem Calm.closed (calm : m.Calm) {name : String} {h' : Hub V} (has : h.Has t)
    (closed : Closed h t name h') : m.hub h' = m.hub h := by
  cases closed with
  | nothing unopened => rfl
  | @detached n l found lane opened own =>
    have shut := m.setQueueTotal lane l.queue.close
    exact Nat.add_right_cancel shut
  | @waits n l found lane opened other =>
    have shut := m.setQueueTotal lane l.queue.close
    have waits := calm.setWait (hasSetQueue has n l.queue.close) (.drained n)
    rw [strandSetQueue] at waits
    exact waits.trans (Nat.add_right_cancel shut)

end Measure

namespace Hub

variable {V : Type} {h h' : Hub V} {t : ThreadRef}

def weightMeasure : Measure V := ⟨fun a => a.rest.weight, fun _ => 1, Item.weight, 1⟩

theorem weightMeasured (h : Hub V) : h.weight = weightMeasure.hub h := by
  have strands : (Strand.weight : Strand V → Nat) = weightMeasure.strand := by
    funext s
    obtain ⟨stack, wait⟩ := s
    cases wait <;> rfl
  have entries : (MainEntry.weight : MainEntry V → Nat) = weightMeasure.entry := by
    funext e
    cases e <;> rfl
  simp only [weight, strands, entries]
  rfl

theorem concludedLess {a : Activity V} {e : Ending V} (last : a.ending? = some e)
    (concluded : Concluded h t e a.finish h') :
    weightMeasure.hub h' < weightMeasure.hub h + a.rest.weight := by
  have failing := weightMeasure.concludedLe concluded
  unfold Activity.ending? at last
  cases rest : a.rest with
  | done =>
    rw [rest] at last
    cases last
    exact Nat.lt_of_le_of_lt (weightMeasure.concludedDoneLe concluded) (Nat.lt_succ_self _)
  | panic p =>
    simp only [weightMeasure, Work.weight] at *
    omega
  | fail r =>
    simp only [weightMeasure, Work.weight] at *
    omega
  | _ => simp [rest] at last

theorem actedLess {a : Activity V} {below : List (Activity V)}
    (busy : h.strand t = ⟨a :: below, none⟩) (acted : Acted h t a below h') :
    h'.weight < h.weight := by
  have has := hasOfStack busy
  have still (s : Strand V) : (h.setStrand t s).Has t := hasSet has s
  have onto (s : Strand V) := weightMeasure.setStrandTotal has s
  simp only [busy, Measure.strand, totalWeight] at onto
  simp only [weightMeasured]
  cases acted with
  | ended last concluded =>
    have popped := onto ⟨below, none⟩
    have less := concludedLess last concluded
    simp only [weightMeasure] at *
    omega
  | @went rest answer _ next jotted =>
    have less := (Work.quietCourse next).2
    have replaced := onto ⟨{ a with rest, answer } :: below, none⟩
    have same := weightMeasure.jottedTotal jotted
    simp only [weightMeasure, totalWeight] at *
    omega
  | @submitted q fallible work rest _ next submitted =>
    have replaced := onto ⟨{ a with rest } :: below, none⟩
    have more := weightMeasure.submittedLe (still _) submitted (k := work.weight + 1)
      (Nat.le_refl _) (Nat.le_succ _)
    have heavy : a.rest.weight = work.weight + rest.weight + 2 := by
      rw [next]
      rfl
    simp only [weightMeasure, totalWeight] at *
    omega
  | @called q work rest _ next called =>
    have replaced := onto ⟨{ a with rest } :: below, none⟩
    have more := weightMeasure.calledLe (still _) called (k := work.weight + 2) (Nat.le_refl _)
      (Nat.le_add_right _ _)
    have heavy : a.rest.weight = work.weight + rest.weight + 3 := by
      rw [next]
      rfl
    simp only [weightMeasure, totalWeight] at *
    omega
  | @closed name rest _ next closed =>
    have replaced := onto ⟨{ a with rest } :: below, none⟩
    have more := weightMeasure.closedLe (still _) closed (k := 1) (fun _ => Nat.le_refl _)
    have heavy : a.rest.weight = rest.weight + 2 := by
      rw [next]
      rfl
    simp only [weightMeasure, totalWeight] at *
    omega

theorem unwindLe (p : Payload) : (h.unwind t p).weight ≤ h.weight + 2 := by
  simp only [weightMeasured]
  unfold unwind
  split
  case h_1 a below wait busy =>
    have replaced := weightMeasure.setStrandTotal (hasOfStack busy)
      ⟨{ a with rest := .panic p } :: below, wait⟩
    have positive := Work.weightPos a.rest
    have panics : (Work.panic p : Work V).weight = 3 := rfl
    simp only [busy, Measure.strand, totalWeight, weightMeasure, panics] at replaced ⊢
    omega
  case h_2 => exact Nat.le_add_right _ _
  case h_3 => exact Nat.le_add_right _ _
  case h_4 n idle => exact Nat.le_trans (weightMeasure.desertLe n) (Nat.le_add_right _ _)

theorem threwLess (threw : Threw h t h') : h'.weight < h.weight := by
  obtain ⟨busy, threw⟩ := threw
  obtain ⟨inline, failure, fails, -⟩ := thrownFails threw
  rename_i a below p
  obtain ⟨heavy, label, acts⟩ := failingActs (h := h) (t := t) fails below
  have popped := weightMeasure.setStrandTotal (hasOfStack busy) ⟨below, none⟩
  have surfaced := weightMeasure.surfaceTotal (h := h.setStrand t ⟨below, none⟩) label failure
  have mode : (h.setStrand t ⟨below, none⟩).trampoline = .inline := by cases t <;> exact inline
  have unwound := unwindLe (h := h.act t a below) (t := t) p
  rw [acts] at unwound ⊢
  rw [mode, if_neg (by simp)] at surfaced
  simp only [weightMeasured, busy, Measure.strand, totalWeight, weightMeasure, heavy] at *
  omega

theorem turnedLess (turned : Turned h t h') : h'.weight < h.weight := by
  cases turned with
  | @resumed stack n waits drained =>
    have has : h.Has t := by
      by_contra absent
      rw [strandAbsent absent] at waits
      cases waits
    have onto := weightMeasure.setStrandTotal has ⟨stack, none⟩
    simp only [waits, Measure.strand] at onto
    simp only [weightMeasured, Measure.stoppedTotal]
    simp only [weightMeasure, Measure.waiting, Option.map_some, Option.map_none,
      Option.getD_some, Option.getD_none] at *
    omega
  | acted busy acted => exact actedLess busy acted
  | @begun i h' idle found =>
    obtain ⟨taken, has⟩ := fetched found
    have fewer := weightMeasure.fetchedTotal taken
    have pushed := weightMeasure.pushTotal (taken.has has) i
    simp only [weightMeasured]
    simp only [weightMeasure, Item.weight, Item.begin] at *
    omega

theorem stepLess (stepped : h.step? t = some h') : h'.weight < h.weight :=
  (turns stepped).elim turnedLess threwLess

end Hub
end VideoPreview
