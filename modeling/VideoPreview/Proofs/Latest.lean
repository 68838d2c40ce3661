import Mathlib.Data.List.Induction
import VideoPreview.Proofs.Run
import VideoPreview.Viewer

/-! The frame of the highest version wins, whatever the order in which frames arrive. Which frame
that is, is said without the gate: a frame leads if all before it were older and none after it is
newer. -/
namespace VideoPreview

abbrev Shown := Frame × Version

def Shown.Leads (x : Shown) (offered : List Shown) : Prop :=
  ∃ before after, offered = before ++ x :: after ∧
    (∀ y ∈ before, y.2.number < x.2.number) ∧ ∀ y ∈ after, y.2.number ≤ x.2.number

def Version.peaks (vs : List Version) : List Version :=
  seen (fun before v => before ++ [v])
    (fun before v => if ∀ u ∈ before, u.number < v.number then [v] else []) [] vs

theorem Version.peaksSnoc (vs : List Version) (v : Version) :
    peaks (vs ++ [v]) = peaks vs ++ if ∀ u ∈ vs, u.number < v.number then [v] else [] := by
  simp only [peaks, seenSnoc, playCollect, List.nil_append]

namespace Shown

variable {x y : Shown} {offered : List Shown}

theorem Leads.member (leads : x.Leads offered) : x ∈ offered := by
  obtain ⟨before, after, rfl, -, -⟩ := leads
  exact List.mem_append_right before (List.mem_cons_self ..)

theorem Leads.highest (leads : x.Leads offered) : ∀ y ∈ offered, y.2.number ≤ x.2.number := by
  obtain ⟨before, after, rfl, older, notNewer⟩ := leads
  intro y member
  rcases List.mem_append.mp member with earlier | later
  · exact UInt64.le_of_lt (older y earlier)
  · rcases List.mem_cons.mp later with rfl | later
    · exact UInt64.le_refl _
    · exact notNewer y later

theorem Leads.last (older : ∀ y ∈ offered, y.2.number < x.2.number) : x.Leads (offered ++ [x]) :=
  ⟨offered, [], rfl, older, fun _ member => nomatch member⟩

theorem Leads.stays (leads : x.Leads offered) (notNewer : y.2.number ≤ x.2.number) :
    x.Leads (offered ++ [y]) := by
  obtain ⟨before, after, rfl, older, later⟩ := leads
  refine ⟨before, after ++ [y], by simp, older, ?_⟩
  intro z member
  rcases List.mem_append.mp member with inside | last
  · exact later z inside
  · rw [List.mem_singleton.mp last]
    exact notNewer

theorem leadsDistinct (distinct : (offered.map Prod.snd).Nodup) (member : x ∈ offered)
    (highest : ∀ y ∈ offered, y.2.number ≤ x.2.number) : x.Leads offered := by
  obtain ⟨before, after, rfl⟩ := List.append_of_mem member
  refine ⟨before, after, rfl, ?_, fun y later => highest y (by simp [later])⟩
  intro y earlier
  refine UInt64.lt_of_le_of_ne (highest y (by simp [earlier])) ?_
  intro same
  simp only [List.map_append, List.map_cons] at distinct
  refine (List.nodup_append.mp distinct).2.2 y.2 (List.mem_map_of_mem earlier) x.2
    (List.mem_cons_self ..) ?_
  exact congrArg Version.mk same

end Shown

namespace VersionGate

theorem staleSpec (g : VersionGate) (v : Version) :
    g.isStale v = true ↔ ∃ top, g.highest = some top ∧ v.number ≤ top.number := by
  cases h : g.highest with
  | none => simp [isStale, h]
  | some top =>
    simp only [isStale, h, decide_eq_true_eq, Option.some.injEq, exists_eq_left']
    rfl

theorem passStale (g : VersionGate) (v u : Version) :
    (g.pass v).isStale u = true ↔ g.isStale u = true ∨ u.number ≤ v.number := by
  unfold pass
  split
  case isTrue stale =>
    have same : ({ g with rejected := g.rejected + 1 } : VersionGate).isStale u = g.isStale u := rfl
    rw [same]
    refine ⟨.inl, ?_⟩
    rintro (already | below)
    · exact already
    · obtain ⟨top, held, above⟩ := (staleSpec g v).mp stale
      exact (staleSpec g u).mpr ⟨top, held, UInt64.le_trans below above⟩
  case isFalse fresh =>
    refine ⟨?_, ?_⟩
    · intro now
      obtain ⟨top, held, below⟩ := (staleSpec _ u).mp now
      cases held
      exact .inr below
    rintro (already | below)
    · obtain ⟨top, held, above⟩ := (staleSpec g u).mp already
      have older : top.number < v.number := by
        refine UInt64.not_le.mp fun newer => fresh ?_
        exact (staleSpec g v).mpr ⟨top, held, newer⟩
      exact (staleSpec _ u).mpr ⟨v, rfl, UInt64.le_trans above (UInt64.le_of_lt older)⟩
    · exact (staleSpec _ u).mpr ⟨v, rfl, below⟩

end VersionGate

namespace Display

def offerAll (offered : List Shown) : Display := offered.foldl (fun d x => d.offer x.1 x.2) .blank

theorem offerAllSnoc (offered : List Shown) (x : Shown) :
    offerAll (offered ++ [x]) = (offerAll offered).offer x.1 x.2 := by
  simp [offerAll]

theorem stale (offered : List Shown) (v : Version) :
    (offerAll offered).gate.isStale v = true ↔ ∃ x ∈ offered, v.number ≤ x.2.number := by
  induction offered using List.reverseRecOn with
  | nil => simp [offerAll, blank, VersionGate.initial, VersionGate.isStale]
  | append_singleton offered x ih =>
    rw [offerAllSnoc]
    refine (VersionGate.passStale _ _ _).trans ?_
    simp [ih, or_and_right, exists_or]

theorem accepted (offered : List Shown) (v : Version) :
    (offerAll offered).accepts v = true ↔ ∀ x ∈ offered, x.2.number < v.number := by
  rw [accepts, Bool.not_eq_true', Bool.eq_false_iff, Ne, stale]
  simp

theorem shownNow (offered : List Shown) (x : Shown) :
    (offerAll (offered ++ [x])).current =
      if ∀ y ∈ offered, y.2.number < x.2.number then some x else (offerAll offered).current := by
  rw [offerAllSnoc, offer]
  simp only [← accepted]

theorem shownLeads {offered : List Shown} {x : Shown}
    (shown : (offerAll offered).current = some x) :
    x.Leads offered := by
  induction offered using List.reverseRecOn with
  | nil => cases shown
  | append_singleton offered y ih =>
    rw [shownNow] at shown
    split at shown
    case isTrue older =>
      cases shown
      exact .last older
    case isFalse overtaken =>
      have leads := ih shown
      refine leads.stays (UInt64.not_lt.mp fun newer => overtaken ?_)
      intro z member
      exact UInt64.lt_of_le_of_lt (leads.highest z member) newer

theorem leadsShown {offered : List Shown} {x : Shown} (leads : x.Leads offered) :
    (offerAll offered).current = some x := by
  obtain ⟨before, after, rfl, older, notNewer⟩ := leads
  induction after using List.reverseRecOn with
  | nil => rw [shownNow, if_pos older]
  | append_singleton after y ih =>
    have again := ih fun z member => notNewer z (List.mem_append_left _ member)
    have overtaken : ¬ ∀ z ∈ before ++ x :: after, z.2.number < y.2.number := by
      intro newer
      have above := newer x (by simp)
      exact UInt64.not_le.mpr above (notNewer y (by simp))
    have split : before ++ x :: (after ++ [y]) = (before ++ x :: after) ++ [y] := by simp
    rw [split, shownNow, if_neg overtaken, again]

theorem shownIff (offered : List Shown) (x : Shown) :
    (offerAll offered).current = some x ↔ x.Leads offered := ⟨shownLeads, leadsShown⟩

theorem shownNone (offered : List Shown) : (offerAll offered).current = none ↔ offered = [] := by
  induction offered using List.reverseRecOn with
  | nil => exact ⟨fun _ => rfl, fun _ => rfl⟩
  | append_singleton offered x ih =>
    rw [shownNow]
    split
    case isTrue => simp
    case isFalse overtaken =>
      rw [ih]
      refine ⟨fun none => absurd ?_ overtaken, fun none => by simp at none⟩
      simp [none]

theorem discardedCount (offered : List Shown) :
    (offerAll offered).discarded + (Version.peaks (offered.map Prod.snd)).length =
      offered.length := by
  induction offered using List.reverseRecOn with
  | nil => rfl
  | append_singleton offered x ih =>
    have taken := accepted offered x.2
    rw [accepts, Bool.not_eq_true'] at taken
    rw [List.map_append, List.map_singleton, Version.peaksSnoc, offerAllSnoc]
    simp only [List.forall_mem_map, ← taken, List.length_append, List.length_singleton, ← ih]
    unfold offer discarded VersionGate.pass
    cases (offerAll offered).gate.isStale x.2 <;> simp <;> omega

end Display

namespace Recorder

def receiveAll (events : List Event) : Recorder := events.foldl receive .empty

theorem receiveAllSnoc (events : List Event) (e : Event) :
    receiveAll (events ++ [e]) = (receiveAll events).receive e := by
  simp [receiveAll]

theorem eventsKept (events : List Event) : (receiveAll events).events = events := by
  induction events using List.reverseRecOn with
  | nil => rfl
  | append_singleton events e ih =>
    rw [receiveAllSnoc]
    exact congrArg (· ++ [e]) ih

theorem framesSnoc (events : List Event) (e : Event) :
    (receiveAll (events ++ [e])).frames = (receiveAll events).frames ++
      match e with
      | .frameReady f v => [(f, v)]
      | _ => [] := by
  simp only [frames, eventsKept, List.filterMap_append]
  cases e <;> rfl

theorem displayOffered (events : List Event) :
    (receiveAll events).display = .offerAll (receiveAll events).frames := by
  induction events using List.reverseRecOn with
  | nil => rfl
  | append_singleton events e ih =>
    rw [framesSnoc, receiveAllSnoc]
    cases e with
    | frameReady f v =>
      rw [Display.offerAllSnoc, ← ih]
      rfl
    | decodeError e => exact ih.trans (by rw [List.append_nil])
    | renderError e => exact ih.trans (by rw [List.append_nil])

theorem framesAmong (events : List Event) :
    (receiveAll events).frames.map (fun x => Event.frameReady x.1 x.2) =
      events.filter (·.frame?.isSome) := by
  rw [frames, eventsKept]
  induction events with
  | nil => rfl
  | cons e rest ih => cases e <;> simp [Event.frame?, ih]

theorem errorsAmong (events : List Event) :
    (receiveAll events).errors.map some =
      (events.filter (·.frame?.isNone)).map Event.error? := by
  rw [errors, eventsKept]
  induction events with
  | nil => rfl
  | cons e rest ih =>
    cases e with
    | frameReady f v => exact ih
    | decodeError e => exact congrArg (some e :: ·) ih
    | renderError e => exact congrArg (some e :: ·) ih

structure Records (heard : List Event) (r : Recorder) : Prop where
  accepts : ∀ v, r.display.accepts v = true ↔ ∀ x ∈ r.frames, x.2.number < v.number
  fresh : ∀ v, r.display.gate.isStale v = false ↔ ∀ x ∈ r.frames, x.2.number < v.number
  offered : ∀ f v, (r.receive (.frameReady f v)).latest =
    if r.display.accepts v then some (f, v) else r.latest
  latest : ∀ x, r.latest = some x ↔ Shown.Leads x r.frames
  nothing : r.latest = none ↔ r.frames = []
  neverOlder : ∀ e x, r.latest = some x → ∃ y, (r.receive e).latest = some y ∧
    x.2.number ≤ y.2.number ∧ (y.2 = x.2 → y = x)
  discarded : r.discarded + (Version.peaks (r.frames.map Prod.snd)).length = r.frames.length
  errorsIgnored : ∀ e, e.frame? = none →
    (r.receive e).latest = r.latest ∧ (r.receive e).discarded = r.discarded
  events : r.events = heard
  frames : r.frames.map (fun x => Event.frameReady x.1 x.2) = heard.filter (·.frame?.isSome)
  errors : r.errors.map some = (heard.filter (·.frame?.isNone)).map Event.error?
  anyOrder : ∀ others, (receiveAll others).frames.Perm r.frames → (r.frames.map Prod.snd).Nodup →
    (receiveAll others).latest = r.latest

theorem latestIff (events : List Event) (x : Shown) :
    (receiveAll events).latest = some x ↔ x.Leads (receiveAll events).frames := by
  rw [latest, displayOffered]
  exact Display.shownIff _ x

theorem latestNone (events : List Event) :
    (receiveAll events).latest = none ↔ (receiveAll events).frames = [] := by
  rw [latest, displayOffered]
  exact Display.shownNone _

theorem acceptsIff (events : List Event) (v : Version) :
    (receiveAll events).display.accepts v = true ↔
      ∀ x ∈ (receiveAll events).frames, x.2.number < v.number := by
  rw [displayOffered]
  exact Display.accepted _ v

theorem neverOlder {events : List Event} {x : Shown}
    (shown : (receiveAll events).latest = some x) (e : Event) :
    ∃ y, ((receiveAll events).receive e).latest = some y ∧ x.2.number ≤ y.2.number ∧
      (y.2 = x.2 → y = x) := by
  have leads := (latestIff events x).mp shown
  cases e with
  | decodeError e => exact ⟨x, shown, UInt64.le_refl _, fun _ => rfl⟩
  | renderError e => exact ⟨x, shown, UInt64.le_refl _, fun _ => rfl⟩
  | frameReady f v =>
    cases accepted : (receiveAll events).display.accepts v with
    | true =>
      have newer := (acceptsIff events v).mp accepted x leads.member
      refine ⟨(f, v), by simp [latest, receive, Display.offer, accepted], UInt64.le_of_lt newer, ?_⟩
      intro same
      rw [← same] at newer
      exact absurd newer (UInt64.lt_irrefl _)
    | false =>
      refine ⟨x, ?_, UInt64.le_refl _, fun _ => rfl⟩
      simpa [latest, receive, Display.offer, accepted] using shown

theorem latestOfPerm {events others : List Event}
    (same : (receiveAll others).frames.Perm (receiveAll events).frames)
    (distinct : ((receiveAll events).frames.map Prod.snd).Nodup) :
    (receiveAll others).latest = (receiveAll events).latest := by
  cases shown : (receiveAll events).latest with
  | none =>
    rw [latestNone] at shown ⊢
    rw [shown] at same
    exact same.eq_nil
  | some x =>
    rw [latestIff] at shown ⊢
    have distinct := (same.map Prod.snd).nodup_iff.mpr distinct
    refine Shown.leadsDistinct distinct (same.mem_iff.mpr shown.member) ?_
    intro y member
    exact shown.highest y (same.mem_iff.mp member)

theorem latestWins (events : List Event) : Records events (receiveAll events) where
  accepts := acceptsIff events
  fresh v := by
    rw [← acceptsIff, Display.accepts, Bool.not_eq_true']
  offered f v := rfl
  latest := latestIff events
  nothing := latestNone events
  neverOlder e x shown := neverOlder shown e
  discarded := by
    rw [Recorder.discarded, displayOffered]
    exact Display.discardedCount _
  errorsIgnored e bare := by
    cases e with
    | frameReady f v => cases bare
    | decodeError e => exact ⟨rfl, rfl⟩
    | renderError e => exact ⟨rfl, rfl⟩
  events := eventsKept events
  frames := framesAmong events
  errors := errorsAmong events
  anyOrder others same distinct := latestOfPerm same distinct

end Recorder
end VideoPreview
