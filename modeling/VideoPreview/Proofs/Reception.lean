import VideoPreview.Session

/-! How a viewer takes what is delivered to it: one event after the other, up to the one that makes
it panic. Nothing else in the session has a part in it. -/
namespace VideoPreview

structure Taking (τ : Type) where
  state : τ
  heard : List Event
  log : List LogEntry
  panic : Option Payload

namespace Viewer

variable {τ : Type} [Viewer τ]

def takeIn (v : τ) : List Event → Taking τ
  | [] => ⟨v, [], [], none⟩
  | e :: rest =>
    let first := receive e v
    match first.panic with
    | some payload => ⟨first.state, [e], first.log, some payload⟩
    | none =>
      let others := takeIn first.state rest
      ⟨others.state, e :: others.heard, first.log ++ others.log, others.panic⟩

theorem takesGiven (v : τ) (events : List Event) : ∀ f ∈ frames (takeIn v events).state,
    f ∈ frames v ∨ f ∈ events.filterMap Event.frame? := by
  induction events generalizing v with
  | nil => exact fun f held => .inl held
  | cons e rest ih =>
    intro f held
    have first := holdsGiven e v f
    have given (same : e.frame? = some f) : f ∈ (e :: rest).filterMap Event.frame? :=
      List.mem_filterMap.mpr ⟨e, List.mem_cons_self, same⟩
    rw [takeIn] at held
    cases panic : (receive e v).panic with
    | some payload =>
      simp only [panic] at held
      exact (first held).imp_right given
    | none =>
      simp only [panic] at held
      rcases ih _ f held with before | later
      · exact (first before).imp_right given
      · obtain ⟨e', member, same⟩ := List.mem_filterMap.mp later
        exact .inr (List.mem_filterMap.mpr ⟨e', List.mem_cons_of_mem _ member, same⟩)

end Viewer

namespace Session

variable {σ ρ τ : Type} [Viewer τ]

def taken (s : Session σ ρ τ) (viewer : Nat) (t : Taking τ) : Session σ ρ τ :=
  { s with
    viewers := s.viewers.set viewer t.state
    heard := s.heard ++ t.heard.map (viewer, ·)
    log := s.log ++ t.log }

theorem receiveMissing {s : Session σ ρ τ} {viewer : Nat} (missing : s.viewers[viewer]? = none)
    (events : List Event) : receive viewer events s = (s, none) := by
  cases events <;> simp [receive, missing]

theorem receiveTaken {s : Session σ ρ τ} {viewer : Nat} {v : τ}
    (here : s.viewers[viewer]? = some v) (events : List Event) :
    receive viewer events s =
      (s.taken viewer (Viewer.takeIn v events), (Viewer.takeIn v events).panic) := by
  induction events generalizing s v with
  | nil =>
    obtain ⟨inside, rfl⟩ := List.getElem?_eq_some_iff.mp here
    simp [receive, Viewer.takeIn, taken]
  | cons e rest ih =>
    have after : (s.viewers.set viewer (Viewer.receive e v).state)[viewer]? =
        some (Viewer.receive e v).state := by
      obtain ⟨inside, -⟩ := List.getElem?_eq_some_iff.mp here
      exact List.getElem?_set_self inside
    rw [receive, here, Viewer.takeIn]
    cases panic : (Viewer.receive e v).panic with
    | some payload => simp [panic, taken]
    | none =>
      simp only [panic]
      rw [ih after]
      simp [taken, List.set_set]

end Session
end VideoPreview
