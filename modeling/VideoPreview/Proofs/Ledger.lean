import VideoPreview.Proofs.Lanes

/-! The ledger of a serial queue. Over any run, what it has accepted is what its thread has started,
in that order, followed by what still waits; every started item comes to the end that its work leads
to before the next one is started. -/
namespace VideoPreview.Hub

variable {V : Type} {h h' h₀ : Hub V} {t : ThreadRef} {n : Nat}

theorem LaneMove.trans {h₁ : Hub V} {accepted started accepted' started' : List (Item V)}
    (first : LaneMove n h h₁ accepted started) (second : LaneMove n h₁ h' accepted' started') :
    LaneMove n h h' (accepted ++ accepted') (started ++ started') := by
  refine ⟨?_, fun has opened => ?_, Nat.le_trans first.lanes second.lanes⟩
  · rw [← List.append_assoc, first.backlog, List.append_assoc, second.backlog, List.append_assoc]
  · exact first.opened has (second.opened (Nat.lt_of_lt_of_le has first.lanes) opened)

theorem laneRun (n : Nat) (shielded : h.Shielded) (moves : List (Move V)) :
    LaneMove n h (h.run moves) (accepted n h moves) (started n h moves) := by
  induction moves generalizing h with
  | nil => exact (SameQueues.lane ⟨fun _ => rfl, fun _ => rfl, rfl⟩).move
  | cons m rest ih => exact (laneMove shielded m).trans (ih (shieldedStep shielded m))

theorem courseRun (n : Nat) (shielded : h.Shielded) (moves : List (Move V)) :
    (running n h).map Activity.fate ++ (started n h moves).map Item.fate =
      (ended n h moves ++ running n (h.run moves)).map Activity.fate := by
  induction moves generalizing h with
  | nil => simp [started, ended, seen, run, play]
  | cons m rest ih =>
    have first := courseMove n shielded m
    have later := ih (shieldedStep shielded m)
    simp only [List.map_append] at first later
    change (running n h).map Activity.fate ++
        (starting n h m ++ started n (h.step m) rest).map Item.fate =
      ((ending n h m ++ ended n (h.step m) rest) ++
        running n ((h.step m).run rest)).map Activity.fate
    simp only [List.map_append]
    rw [← List.append_assoc, first, List.append_assoc, later, List.append_assoc]

theorem acceptedAppend (before after : List (Move V)) :
    accepted n h (before ++ after) = accepted n h before ++ accepted n (h.run before) after :=
  seenAppend step (accepting n) h before after

theorem runningLength (n : Nat) (h : Hub V) : (running n h).length ≤ 1 := by
  unfold running
  cases (h.strand (.serial n)).stack.getLast? <;> simp

structure Ledger (n : Nat) (h₀ : Hub V) (moves : List (Move V)) : Prop where
  order : accepted n h₀ moves = started n h₀ moves ++ (h₀.run moves).backlog n
  course : (started n h₀ moves).map Item.fate =
    (ended n h₀ moves ++ running n (h₀.run moves)).map Activity.fate

theorem ledgerOf (shielded : h₀.Shielded) (empty : h₀.backlog n = [])
    (idle : h₀.strand (.serial n) = .idle) (moves : List (Move V)) : Ledger n h₀ moves := by
  have order := (laneRun n shielded moves).backlog
  have course := courseRun n shielded moves
  rw [empty] at order
  rw [running, idle] at course
  exact ⟨order, course⟩

namespace Ledger

variable {moves : List (Move V)} (ledger : Ledger n h₀ moves)
include ledger

theorem fates : (accepted n h₀ moves).map Item.fate =
    (ended n h₀ moves).map Activity.fate ++ ((running n (h₀.run moves)).map Activity.fate ++
      ((h₀.run moves).backlog n).map Item.fate) := by
  rw [ledger.order, List.map_append, ledger.course, List.map_append, List.append_assoc]

theorem ranFirst :
    (ended n h₀ moves).map Activity.fate <+: (accepted n h₀ moves).map Item.fate :=
  ⟨_, ledger.fates.symm⟩

theorem allRun (alone : (h₀.run moves).strand (.serial n) = .idle)
    (empty : (h₀.run moves).backlog n = []) :
    (ended n h₀ moves).map Activity.fate = (accepted n h₀ moves).map Item.fate := by
  have fates := ledger.fates
  rw [running, alone, empty] at fates
  simpa [Strand.idle] using fates.symm

end Ledger

theorem unbusy (shielded : h.Shielded) (stuck : h.step? (.serial n) = none)
    (free : (h.strand (.serial n)).wait = none) :
    h.strand (.serial n) = .idle ∧ h.backlog n = [] := by
  rcases strand : h.strand (.serial n) with ⟨stack, wait⟩
  rw [strand] at free
  cases free
  cases stack with
  | cons a below =>
    rw [busyStep shielded strand] at stuck
    cases stuck
  | nil =>
    refine ⟨rfl, ?_⟩
    cases lane : h.lanes[n]? with
    | none => simp [backlog, lane]
    | some l =>
      cases waiting : l.queue.backlog with
      | nil => simp [backlog, lane, waiting]
      | cons i rest =>
        simp [step?, shielded.live, strand, fetch?, lane, SerialQueue.take?, waiting] at stuck

theorem drainedRests (drained : h.isDrained n = true) :
    (h.strand (.serial n)).stack = [] ∧ h.backlog n = [] := by
  unfold isDrained at drained
  cases lane : h.lanes[n]? with
  | none => simp [strand, backlog, lane, Strand.idle]
  | some l => simpa [lane, strand, backlog, and_comm] using drained

theorem goesOn (h : Hub V) (t : ThreadRef) :
    ∃ k, (h.run (List.replicate k (.turn t))).step? t = none := by
  -- on the weight, which falls with every turn
  induction weight : h.weight using Nat.strongRecOn generalizing h with
  | ind w ih =>
    cases stepped : h.step? t with
    | none => exact ⟨0, stepped⟩
    | some h' =>
      obtain ⟨k, stuck⟩ := ih h'.weight (weight ▸ stepLess stepped) h' rfl
      refine ⟨k + 1, ?_⟩
      change ((h.step (.turn t)).run (List.replicate k (.turn t))).step? t = none
      rwa [turnStep stepped]

theorem shut (shielded : h.Shielded) (has : n < h.lanes.length) (closed : h.opened n = false)
    (moves : List (Move V)) :
    accepted n h moves = [] ∧ (h.run moves).opened n = false := by
  induction moves generalizing h with
  | nil => exact ⟨rfl, closed⟩
  | cons m rest ih =>
    have lane := laneMove (n := n) shielded m
    have still : (h.step m).opened n = false := by
      by_contra opened
      rw [lane.opened has (by simpa using opened)] at closed
      cases closed
    obtain ⟨none, shut⟩ :=
      ih (shieldedStep shielded m) (Nat.lt_of_lt_of_le has lane.lanes) still
    refine ⟨?_, shut⟩
    change accepting n h m ++ accepted n (h.step m) rest = []
    rw [closedAccepting closed, none]
    rfl

end VideoPreview.Hub
