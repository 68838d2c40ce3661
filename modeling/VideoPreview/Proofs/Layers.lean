import VideoPreview.Subtitle

/-! What is drawn at a time. The visible lines of the script are there as often as they are written,
lower layers first, and on each layer as they follow one another in the script. Only one list is
arranged like this, so the order of lines on different layers and lines that are not visible make no
difference. -/
namespace VideoPreview.Script

structure Arranged (script : Script) (t : Int64) (drawn : List SubtitleLine) : Prop where
  counts : ∀ line, drawn.count line =
    if line.comment = false ∧ line.start ≤ t ∧ t < line.stop then script.count line else 0
  layers : drawn.Pairwise fun a b => a.layer ≤ b.layer
  order : ∀ n, drawn.filter (·.layer = n) = script.filter fun l => l.visibleAt t && l.layer = n

inductive Pads (t : Int64) : Script → Script → Prop where
  | nil : Pads t [] []
  | line (l : SubtitleLine) {script longer} (rest : Pads t script longer) :
      Pads t (l :: script) (l :: longer)
  | hidden {l : SubtitleLine} (unseen : l.visibleAt t = false) {script longer}
      (rest : Pads t script longer) : Pads t script (l :: longer)

variable {t : Int64}

theorem visibleIff {line : SubtitleLine} : line.visibleAt t = true ↔
    line.comment = false ∧ line.start ≤ t ∧ t < line.stop := by
  simp [SubtitleLine.visibleAt, and_assoc]

theorem visibleCounts (script : Script) (t : Int64) (line : SubtitleLine) :
    (script.visibleAt t).count line = if line.visibleAt t = true then script.count line else 0 := by
  rw [visibleAt, (List.mergeSort_perm _ _).count_eq]
  split
  · rename_i seen
    exact List.count_filter seen
  · rename_i unseen
    exact List.count_eq_zero.mpr fun member => unseen (List.mem_filter.mp member).2

theorem layersTransitive (a b c : SubtitleLine) (first : decide (a.layer ≤ b.layer) = true)
    (second : decide (b.layer ≤ c.layer) = true) : decide (a.layer ≤ c.layer) = true := by
  rw [decide_eq_true_eq] at *
  exact Int32.le_trans first second

theorem layersTotal (a b : SubtitleLine) :
    (decide (a.layer ≤ b.layer) || decide (b.layer ≤ a.layer)) = true := by
  simpa using Int32.le_total a.layer b.layer

theorem visibleLayers (script : Script) (t : Int64) :
    (script.visibleAt t).Pairwise fun a b => a.layer ≤ b.layer := by
  have sorted := List.pairwise_mergeSort layersTransitive layersTotal
    (script.filter (·.visibleAt t))
  exact sorted.imp of_decide_eq_true

theorem visibleOrder (script : Script) (t : Int64) (n : Int32) :
    (script.visibleAt t).filter (·.layer = n) =
      script.filter fun l => l.visibleAt t && l.layer = n := by
  have seen : (script.filter fun l => l.visibleAt t && l.layer = n) =
      (script.filter (·.visibleAt t)).filter (·.layer = n) := by
    simp [List.filter_filter, Bool.and_comm]
  rw [seen, visibleAt]
  generalize script.filter (·.visibleAt t) = lines
  have level : (lines.filter (·.layer = n)).Pairwise
      fun a b => decide (a.layer ≤ b.layer) = true := by
    refine List.pairwise_of_forall_mem_list fun a left b right => ?_
    rw [of_decide_eq_true (List.mem_filter.mp left).2,
      of_decide_eq_true (List.mem_filter.mp right).2]
    simp
  have part := (List.sublist_mergeSort layersTransitive layersTotal level
    List.filter_sublist).filter (·.layer = n)
  simp only [List.filter_filter, Bool.and_self] at part
  exact (part.eq_of_length ((List.mergeSort_perm lines _).filter _).length_eq.symm).symm

theorem lowestFirst {a b : SubtitleLine} {lines : List SubtitleLine}
    (sorted : (a :: lines).Pairwise fun a b => a.layer ≤ b.layer) (member : b ∈ a :: lines) :
    a.layer ≤ b.layer := by
  rcases List.mem_cons.mp member with rfl | later
  · exact Int32.le_refl _
  · exact List.rel_of_pairwise_cons sorted later

theorem layersShare {xs ys : List SubtitleLine}
    (same : ∀ n, xs.filter (·.layer = n) = ys.filter (·.layer = n)) (l : SubtitleLine) :
    l ∈ xs ↔ l ∈ ys := by
  have onLayer := congrArg (l ∈ ·) (same l.layer)
  simpa using onLayer

theorem layersDetermine {xs ys : List SubtitleLine}
    (sorted : xs.Pairwise fun a b => a.layer ≤ b.layer)
    (sorted' : ys.Pairwise fun a b => a.layer ≤ b.layer)
    (same : ∀ n, xs.filter (·.layer = n) = ys.filter (·.layer = n)) : xs = ys := by
  induction xs generalizing ys with
  | nil =>
    cases ys with
    | nil => rfl
    | cons b ys => simpa using layersShare same b
  | cons a xs ih =>
    cases ys with
    | nil => simpa using layersShare same a
    | cons b ys =>
      have level : a.layer = b.layer :=
        Int32.le_antisymm (lowestFirst sorted ((layersShare same b).mpr List.mem_cons_self))
          (lowestFirst sorted' ((layersShare same a).mp List.mem_cons_self))
      have first := same a.layer
      simp only [level, List.filter_cons, decide_true, if_true, List.cons.injEq] at first
      obtain ⟨rfl, -⟩ := first
      refine congrArg _ (ih sorted.of_cons sorted'.of_cons fun n => ?_)
      have rest := same n
      simp only [List.filter_cons] at rest
      split at rest
      · exact (List.cons.inj rest).2
      · exact rest

theorem visibleSame {script other : Script}
    (same : ∀ n, (script.filter fun l => l.visibleAt t && l.layer = n) =
      other.filter fun l => l.visibleAt t && l.layer = n) :
    script.visibleAt t = other.visibleAt t :=
  layersDetermine (visibleLayers script t) (visibleLayers other t) fun n => by
    rw [visibleOrder, visibleOrder, same n]

theorem swappedVisible (before after : Script) {a b : SubtitleLine} (apart : a.layer ≠ b.layer) :
    Script.visibleAt (before ++ a :: b :: after) t =
      Script.visibleAt (before ++ b :: a :: after) t := by
  refine visibleSame fun n => ?_
  by_cases left : a.layer = n
  · have right : b.layer ≠ n := fun right => apart (left.trans right.symm)
    simp [List.filter_append, List.filter_cons, right]
  · simp [List.filter_append, List.filter_cons, left]

theorem paddedVisible {script longer : Script} (pads : Pads t script longer) :
    longer.visibleAt t = script.visibleAt t := by
  have seen : longer.filter (·.visibleAt t) = script.filter (·.visibleAt t) := by
    induction pads with
    | nil => rfl
    | line l rest ih => simp [List.filter_cons, ih]
    | hidden unseen rest ih => simp [unseen, ih]
  rw [visibleAt, seen, visibleAt]

theorem visibleArranged (script : Script) (t : Int64) : Arranged script t (script.visibleAt t) := by
  refine ⟨fun line => ?_, visibleLayers script t, visibleOrder script t⟩
  rw [visibleCounts]
  simp only [visibleIff]

theorem visibleLinesArranged (t : Int64) :
    (∀ script drawn, Arranged script t drawn ↔ drawn = script.visibleAt t) ∧
      (∀ (before after : Script) (a b : SubtitleLine), a.layer ≠ b.layer →
        Script.visibleAt (before ++ a :: b :: after) t =
          Script.visibleAt (before ++ b :: a :: after) t) ∧
      ∀ script longer, Pads t script longer → longer.visibleAt t = script.visibleAt t := by
  refine ⟨fun script drawn => ⟨fun arranged => ?_, fun same => same ▸ visibleArranged script t⟩,
    fun before after a b => swappedVisible before after, fun script longer => paddedVisible⟩
  refine layersDetermine arranged.layers (visibleLayers script t) fun n => ?_
  rw [arranged.order, visibleOrder]

theorem visibleLinesArrangedTwice :
    let upper : SubtitleLine := ⟨0, 100, 1, "Sign", "above", false⟩
    let lower : SubtitleLine := .dialogue 0 100 "below"
    let never : SubtitleLine := .dialogue 100 0 "never"
    upper.layer ≠ lower.layer ∧ Pads 50 [upper, lower, upper] [never, upper, lower, never, upper] ∧
      Script.visibleAt [never, upper, lower, never, upper] 50 = [lower, upper, upper] ∧
      Arranged [lower, upper, upper] 50 [lower, upper, upper] := by
  intro upper lower never
  have apart : upper.layer ≠ lower.layer := by decide
  have pads : Pads 50 [upper, lower, upper] [never, upper, lower, never, upper] :=
    .hidden (by decide) (.line upper (.line lower (.hidden (by decide) (.line upper .nil))))
  have shown : Script.visibleAt [lower, upper, upper] 50 = [lower, upper, upper] :=
    List.mergeSort_of_pairwise (by decide)
  obtain ⟨arranged, swapped, padded⟩ := visibleLinesArranged 50
  refine ⟨apart, pads, ?_, (arranged _ _).mpr shown.symm⟩
  calc Script.visibleAt [never, upper, lower, never, upper] 50
      = Script.visibleAt [upper, lower, upper] 50 := padded _ _ pads
    _ = Script.visibleAt [lower, upper, upper] 50 := swapped [] [upper] upper lower apart
    _ = [lower, upper, upper] := shown

end VideoPreview.Script
