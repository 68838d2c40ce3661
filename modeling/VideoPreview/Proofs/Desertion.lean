import VideoPreview.Proofs.Lanes

/-! The end of a serial queue. Once it accepts nothing and nothing of it waits or runs, that stays
so, whatever else goes on. Where a panic of the handler gets through its thread, it comes to this at
once: what waited there is lost. -/
namespace VideoPreview.Hub

variable {V : Type} {h h' : Hub V} {t : ThreadRef} {n : Nat}

structure Spent (n : Nat) (h : Hub V) : Prop where
  has : n < h.lanes.length
  closed : h.opened n = false
  empty : h.backlog n = []
  idle : h.strand (.serial n) = .idle

namespace Spent

variable (spent : Spent n h)
include spent

theorem starts (m : Move V) : starting n h m = [] := by
  unfold starting
  split
  · split
    · simp [spent.empty]
    · rfl
  · rfl

theorem ends (m : Move V) : ending n h m = [] := by
  unfold ending
  split
  case h_1 m =>
    by_cases own : m = n
    · subst own
      simp [spent.idle, Strand.idle]
    · simp only [own, false_and, if_false]
      split <;> rfl
  case h_2 => rfl

theorem moved {accepted started : List (Item V)} (lane : LaneMove n h h' accepted started)
    (none : accepted = []) (idle : h'.strand (.serial n) = .idle) : Spent n h' := by
  have backlog := lane.backlog
  rw [spent.empty, none] at backlog
  refine ⟨Nat.lt_of_lt_of_le spent.has lane.lanes, ?_,
    (List.append_eq_nil_iff.mp backlog.symm).2, idle⟩
  by_contra opened
  have before := lane.opened spent.has (by simpa using opened)
  rw [spent.closed] at before
  cases before

theorem kept (same : SameQueues h h') (idle : h'.strand (.serial n) = .idle) : Spent n h' :=
  spent.moved (SameQueues.lane same).move rfl idle

theorem turned (turned : Turned h t h') : Spent n h' := by
  refine spent.moved (laneTurn turned).move (closedAccepting spent.closed _) ?_
  by_cases own : t = .serial n
  · subst own
    cases turned with
    | resumed waits drained => cases spent.idle.symm.trans waits
    | acted busy acted => cases spent.idle.symm.trans busy
    | begun idle found =>
      cases (fetched found).1 with
      | serial lane waiting =>
        have empty := spent.empty
        rw [(laneFound lane).2.1, waiting] at empty
        cases empty
  · have kept := turnKept (Ne.symm own) turned
    rw [spent.idle] at kept
    generalize h'.strand (.serial n) = s at kept ⊢
    cases kept <;> rfl

end Spent

theorem queuesTold (ts : List ThreadRef) (r : CallResult V) (h : Hub V) :
    SameQueues h (ts.foldl (fun h t => h.giveResult t r) h) := by
  induction ts generalizing h with
  | nil => exact ⟨fun _ => rfl, fun _ => rfl, rfl⟩
  | cons t rest ih => exact (queuesGiven r).trans (ih _)

theorem idleTold (ts : List ThreadRef) (r : CallResult V) {u : ThreadRef}
    (idle : h.strand u = .idle) :
    (ts.foldl (fun h t => h.giveResult t r) h).strand u = .idle := by
  induction ts generalizing h with
  | nil => exact idle
  | cons t rest ih =>
    refine ih ?_
    have kept := keptGiven (h := h) (t := t) r u
    rw [idle] at kept
    generalize (h.giveResult t r).strand u = s at kept ⊢
    cases kept <;> rfl

theorem spentDesert (has : n < h.lanes.length) (idle : h.strand (.serial n) = .idle) :
    Spent n (h.desert n) := by
  have lane : h.lanes[n]? = some h.lanes[n] := List.getElem?_eq_getElem has
  obtain ⟨empty, closed⟩ := queueSetSelf has h.lanes[n].queue.desert
  have refuses : h.lanes[n].queue.desert.accepts = false := Bool.and_false _
  simp only [desert, lane]
  have emptied : Spent n (h.setQueue n h.lanes[n].queue.desert) :=
    ⟨by simpa [setQueue] using has, closed.trans refuses, empty, (strandSetQueue ..).trans idle⟩
  exact emptied.kept (queuesTold _ _ _) (idleTold _ _ emptied.idle)

theorem Spent.desertOther (spent : Spent n h) {m : Nat} (other : n ≠ m) : Spent n (h.desert m) := by
  unfold desert
  cases lane : h.lanes[m]? with
  | none => exact spent
  | some l =>
    obtain ⟨empty, closed⟩ := queueSetOther (h := h) other l.queue.desert
    have still : Spent n (h.setQueue m l.queue.desert) :=
      ⟨by simpa [setQueue] using spent.has, closed.trans spent.closed, empty.trans spent.empty,
        (strandSetQueue ..).trans spent.idle⟩
    exact still.kept (queuesTold _ _ _) (idleTold _ _ still.idle)

theorem Spent.unwound (spent : Spent n h) (other : t ≠ .serial n) (p : Payload) :
    Spent n (h.unwind t p) := by
  unfold unwind
  split
  · exact spent.kept (queuesSetStrand _ _) ((strandSetOther (Ne.symm other) _).trans spent.idle)
  · exact spent
  · exact spent.kept ⟨fun _ => rfl, fun _ => rfl, rfl⟩ spent.idle
  · exact spent.desertOther fun same => other (by rw [same])

theorem spentStep (spent : Spent n h) (m : Move V) : Spent n (h.step m) := by
  have still (apart : ∀ t, m ≠ .turn t) : Spent n (h.step m) :=
    spent.moved (laneStill apart) rfl ((strandStill apart (.inl ⟨n, rfl⟩)).trans spent.idle)
  cases m with
  | turn t =>
    cases stepped : h.step? t with
    | none => rwa [turnStuck stepped]
    | some h' =>
      rw [turnStep stepped]
      rcases turns stepped with turned | @⟨a, below, p, busy, threw⟩
      · exact spent.turned turned
      · refine (spent.turned (.acted busy (acted h t a below))).unwound ?_ p
        rintro rfl
        cases spent.idle.symm.trans busy
  | grab i nested j => exact still (by simp)
  | program work => exact still (by simp)
  | mainLoop => exact still (by simp)
  | make title => exact still (by simp)

theorem spentRun (spent : Spent n h) (moves : List (Move V)) :
    Spent n (h.run moves) ∧ accepted n h moves = [] ∧ started n h moves = [] ∧
      ended n h moves = [] := by
  induction moves generalizing h with
  | nil => exact ⟨spent, rfl, rfl, rfl⟩
  | cons m rest ih =>
    obtain ⟨last, accepts, starts, ends⟩ := ih (spentStep spent m)
    refine ⟨last, ?_, ?_, ?_⟩
    · change accepting n h m ++ accepted n (h.step m) rest = []
      rw [closedAccepting spent.closed, accepts, List.nil_append]
    · change starting n h m ++ started n (h.step m) rest = []
      rw [spent.starts, starts, List.nil_append]
    · change ending n h m ++ ended n (h.step m) rest = []
      rw [spent.ends, ends, List.nil_append]

theorem handlerEndsThread {a : Activity V} {p : Payload} (live : h.aborted = false)
    (busy : h.strand (.serial n) = ⟨[a], none⟩) (threw : h.thrown? a = some p) :
    Spent n (h.step (.turn (.serial n))) := by
  obtain ⟨-, failure, fails, -⟩ := thrownFails threw
  obtain ⟨-, label, acts⟩ := failingActs (h := h) (t := .serial n) fails []
  have stepped : h.step? (.serial n) = some ((h.act (.serial n) a []).unwind (.serial n) p) := by
    simp [step?, live, busy, threw]
  have same := sameSurface (h := h.setStrand (.serial n) ⟨[], none⟩) label failure
  have idle : (h.act (.serial n) a []).strand (.serial n) = .idle := by
    rw [acts]
    exact (same.strand _).trans (strandSetSelf (hasOfStack busy) _)
  have has : n < (h.act (.serial n) a []).lanes.length := by
    rw [acts, same.queues.lanes, lanesSetStrand]
    exact hasOfStack busy
  rw [turnStep stepped]
  have ends :
      (h.act (.serial n) a []).unwind (.serial n) p = (h.act (.serial n) a []).desert n := by
    simp [unwind, idle, Strand.idle]
  exact ends ▸ spentDesert has idle

end VideoPreview.Hub
