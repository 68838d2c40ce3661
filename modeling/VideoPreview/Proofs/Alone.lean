import VideoPreview.Proofs.Ledger

/-! A serial queue by itself. Where there is no other serial queue, a thread whose items call nobody
but serial queues never waits, so that it runs all that its queue accepts. -/
namespace VideoPreview.Hub

variable {V : Type} {h h' h₀ : Hub V} {t : ThreadRef} {n : Nat} {moves : List (Move V)}

structure Unhindered (n : Nat) (h : Hub V) : Prop where
  free : (h.strand (.serial n)).wait = none
  plain : ∀ a ∈ (h.strand (.serial n)).stack, a.rest.serialOnly = true

theorem soleLane (single : h.lanes.length ≤ 1) {m : Nat} (first : n < h.lanes.length)
    (second : m < h.lanes.length) : n = m := by omega

theorem unhinderedOf {stack : List (Activity V)} (same : h.strand (.serial n) = ⟨stack, none⟩)
    (plain : ∀ a ∈ stack, a.rest.serialOnly = true) : Unhindered n h :=
  ⟨by rw [same], by rwa [same]⟩

section
variable {a : Activity V} {below : List (Activity V)}

theorem unhinderedCalled {q : QueueRef} {work : Work V} (single : h.lanes.length ≤ 1)
    (has : n < h.lanes.length) (strand : h.strand (.serial n) = ⟨a :: below, none⟩)
    (plain : ∀ b ∈ a :: below, b.rest.serialOnly = true) (serial : q.isSerial = true)
    (inner : work.serialOnly = true) (called : Called h (.serial n) q work h') :
    Unhindered n h' := by
  cases called with
  | own current =>
    refine unhinderedOf (strandPushed strand ⟨some q, work, .inlined⟩) ?_
    simpa [Item.begin, inner] using plain
  | immediate other admitted =>
    refine unhinderedOf (strandPushed strand ⟨some q, work, .inlined⟩) ?_
    simpa [Item.begin, inner] using plain
  | refused other admitted =>
    exact unhinderedOf (strandGiven ((admitted.strandDropped (.serial n)).trans strand)
      (.failed (.abandoned (label q)))) plain
  | waits other admitted =>
    cases q with
    | main => cases serial
    | background => cases serial
    | serial name =>
      cases admitted with
      | lined found lane opened =>
        cases soleLane single has (laneFound lane).1
        simp [currentOwn found] at other

theorem unhinderedClosed {name : String} (single : h.lanes.length ≤ 1) (has : n < h.lanes.length)
    (strand : h.strand (.serial n) = ⟨a :: below, none⟩)
    (plain : ∀ b ∈ a :: below, b.rest.serialOnly = true) (closed : Closed h (.serial n) name h') :
    Unhindered n h' := by
  cases closed with
  | nothing unopened => exact unhinderedOf strand plain
  | detached found lane opened own =>
    exact unhinderedOf ((strandEntry ..).trans ((strandSetQueue ..).trans strand)) plain
  | waits found lane opened apart =>
    exact absurd (congrArg _ (soleLane single has (laneFound lane).1)) apart

theorem unhinderedActed (single : h.lanes.length ≤ 1) (unhindered : Unhindered n h)
    (busy : h.strand (.serial n) = ⟨a :: below, none⟩) (acted : Acted h (.serial n) a below h') :
    Unhindered n h' := by
  have has := hasOfStack busy
  have set (s : Strand V) : (h.setStrand (.serial n) s).strand (.serial n) = s :=
    strandSetSelf has s
  obtain ⟨top, plain⟩ : a.rest.serialOnly = true ∧ ∀ b ∈ below, b.rest.serialOnly = true := by
    simpa [busy] using unhindered.plain
  have single (s : Strand V) : (h.setStrand (.serial n) s).lanes.length ≤ 1 := by
    simpa using single
  cases acted with
  | ended last concluded =>
    have same := strandConcluded (by rw [set]) concluded
    exact unhinderedOf (same.trans (set _)) plain
  | went next jotted =>
    refine unhinderedOf ((jotted.same.strand (.serial n)).trans (set _)) ?_
    simpa [Work.quietPlain next, top] using plain
  | submitted next submitted =>
    rw [next, Work.serialOnly, Bool.and_eq_true] at top
    rcases strandSubmitted (set _) submitted with same | same
    · exact unhinderedOf same (by simpa [top.2] using plain)
    · exact unhinderedOf same (by simpa [Item.begin, top.1, top.2] using plain)
  | called next called =>
    rw [next, Work.serialOnly, Bool.and_eq_true, Bool.and_eq_true] at top
    obtain ⟨⟨serial, inner⟩, outer⟩ := top
    exact unhinderedCalled (single _) (hasSet has _) (set _) (by simpa [outer] using plain) serial
      inner called
  | closed next closed =>
    rw [next, Work.serialOnly] at top
    exact unhinderedClosed (single _) (hasSet has _) (set _) (by simpa [top] using plain) closed

end

theorem unhinderedMove (shielded : h.Shielded) (single : h.lanes.length ≤ 1)
    (unhindered : Unhindered n h) (waiting : ∀ i ∈ h.backlog n, i.work.serialOnly = true)
    (m : Move V) :
    Unhindered n (h.step m) := by
  have still (apart : ∀ t, m ≠ .turn t) : Unhindered n (h.step m) := by
    have same := strandStill (h := h) apart (.inl ⟨n, rfl⟩)
    exact ⟨same ▸ unhindered.free, same ▸ unhindered.plain⟩
  cases m with
  | turn t =>
    cases stepped : h.step? t with
    | none => simpa [step, stepped] using unhindered
    | some h' =>
      rw [turnStep stepped]
      by_cases own : t = .serial n
      · subst own
        cases turned shielded stepped with
        | resumed waits drained =>
          have free := unhindered.free
          rw [waits] at free
          cases free
        | acted busy acted => exact unhinderedActed single unhindered busy acted
        | @begun i h₁ idle found =>
          obtain ⟨taken, has⟩ := fetched found
          have same : (h₁.push (.serial n) i).strand (.serial n) = ⟨[i.begin], none⟩ := by
            rw [push, strandSetSelf (taken.has has), taken.strand, idle]
            rfl
          refine unhinderedOf same ?_
          cases taken with
          | serial lane here =>
            have mem : i ∈ h.backlog n := by simp [(laneFound lane).2.1, here]
            simpa [Item.begin] using waiting i mem
      · have kept := turnKept (Ne.symm own) (turned shielded stepped)
        refine ⟨?_, kept.stack ▸ unhindered.plain⟩
        by_contra waits
        obtain ⟨w, waits⟩ := Option.ne_none_iff_exists'.mp waits
        cases unhindered.free.symm.trans (keptWaits kept waits)
  | grab i nested j => exact still (by simp)
  | program work => exact still (by simp)
  | mainLoop => exact still (by simp)
  | make title => exact still (by simp)

theorem acceptingOwn (unhindered : Unhindered n h) {i : Item V}
    (mem : i ∈ accepting n h (.turn (.serial n))) : i.work.serialOnly = true := by
  obtain ⟨t, a, below, name, same, busy, offer, -⟩ := acceptingOffer mem
  cases same
  have plain : a.rest.serialOnly = true := unhindered.plain a (by simp [busy])
  cases next : a.rest with
  | submit q fallible work rest =>
    rw [next, Work.serialOnly, Bool.and_eq_true] at plain
    rw [next] at offer
    cases offer
    exact plain.1
  | call q work rest =>
    rw [next, Work.serialOnly, Bool.and_eq_true, Bool.and_eq_true] at plain
    by_cases current : h.isCurrent (.serial n) q = true
    · simp [next, offer?, current] at offer
    · simp only [next, offer?, current] at offer
      cases offer
      exact plain.1.2
  | _ => simp [next, offer?] at offer

theorem unhinderedRun (shielded : h₀.Shielded) (ledger : ∀ moves, Ledger n h₀ moves)
    (idle : h₀.strand (.serial n) = .idle) (single : (h₀.run moves).lanes.length ≤ 1)
    (plain : ∀ i ∈ accepted n h₀ moves, i.work.serialOnly = true) :
    Unhindered n (h₀.run moves) := by
  induction moves using List.reverseRecOn with
  | nil =>
    change Unhindered n h₀
    exact ⟨by rw [idle]; rfl, by simp [idle, Strand.idle]⟩
  | append_singleton before m ih =>
    rw [acceptedAppend] at plain
    rw [runAppend] at single ⊢
    have single : (h₀.run before).lanes.length ≤ 1 :=
      Nat.le_trans (laneMove (n := n) (shieldedRun shielded before) m).lanes single
    have plain : ∀ i ∈ accepted n h₀ before, i.work.serialOnly = true :=
      fun i mem => plain i (List.mem_append_left _ mem)
    refine unhinderedMove (shieldedRun shielded before) single (ih single plain)
      (fun i mem => plain i ?_) m
    rw [(ledger before).order]
    exact List.mem_append_right _ mem

theorem ownTurns (h : Hub V) (k : Nat) :
    h.run (List.replicate (k + 1) (.turn t)) =
      (h.run (List.replicate k (.turn t))).step (.turn t) := by
  rw [List.replicate_succ', runAppend]
  rfl

theorem lanesTurn (shielded : h.Shielded) (t : ThreadRef) :
    (h.step (.turn t)).lanes.length = h.lanes.length := by
  cases stepped : h.step? t with
  | none => rw [turnStuck stepped]
  | some h' =>
    rw [turnStep stepped]
    exact (laneTurn (n := 0) (turned shielded stepped)).lanes

theorem aloneRuns (shielded : h₀.Shielded) (ledger : ∀ moves, Ledger n h₀ moves)
    (idle : h₀.strand (.serial n) = .idle) (single : (h₀.run moves).lanes.length ≤ 1)
    (plain : ∀ i ∈ accepted n h₀ moves, i.work.serialOnly = true) :
    ∃ k, (ended n h₀ (moves ++ List.replicate k (.turn (.serial n)))).map Activity.fate =
      (accepted n h₀ (moves ++ List.replicate k (.turn (.serial n)))).map Item.fate := by
  have few (k : Nat) :
      (h₀.run (moves ++ List.replicate k (.turn (.serial n)))).lanes.length ≤ 1 := by
    induction k with
    | zero => simpa using single
    | succ k ih =>
      rw [runAppend, ownTurns, ← runAppend]
      exact Nat.le_trans (Nat.le_of_eq (lanesTurn (shieldedRun shielded _) _)) ih
  have plainly (k : Nat) : ∀ i ∈ accepted n h₀ (moves ++ List.replicate k (.turn (.serial n))),
      i.work.serialOnly = true := by
    induction k with
    | zero => simpa using plain
    | succ k ih =>
      intro i mem
      rw [List.replicate_succ', ← List.append_assoc, acceptedAppend] at mem
      rcases List.mem_append.mp mem with before | now
      · exact ih i before
      · refine acceptingOwn (unhinderedRun shielded ledger idle (few k) ih) ?_
        simpa [accepted, seen] using now
  obtain ⟨k, stuck⟩ := goesOn (h₀.run moves) (.serial n)
  rw [← runAppend] at stuck
  obtain ⟨alone, empty⟩ := unbusy (shieldedRun shielded _) stuck
    (unhinderedRun shielded ledger idle (few k) (plainly k)).free
  exact ⟨k, (ledger _).allRun alone empty⟩

end VideoPreview.Hub
