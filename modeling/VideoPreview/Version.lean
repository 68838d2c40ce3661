import VideoPreview.Json.Reader

/-!
Versions number the requests of a video, so that a result can be told from the results that
supersede it, and the gate lets only ever newer ones through.
-/
namespace VideoPreview

structure Version where
  number : UInt64
  deriving DecidableEq, Repr

namespace Version

def none : Version := ⟨0⟩

def next (v : Version) : Version := ⟨v.number + 1⟩

instance : Ord Version := ⟨fun a b => compare a.number b.number⟩
instance : LE Version := ⟨fun a b => a.number ≤ b.number⟩
instance (a b : Version) : Decidable (a ≤ b) := inferInstanceAs (Decidable (a.number ≤ b.number))
instance : Max Version := ⟨fun a b => if a ≤ b then b else a⟩

def text (v : Version) : String := s!"v{v.number}"

instance : ToString Version := ⟨text⟩

def read : Json.Reader Version := fun t => (Json.Reader.uint64 t).map Version.mk

def toTree (v : Version) : Json.Tree := .ofUInt64 v.number

end Version

/-- Lets a version through only if it is newer than every one before. Results may come in any
order; a stale one never takes the place of a newer one. -/
structure VersionGate where
  highest : Option Version
  rejected : Nat
  deriving DecidableEq, Repr

namespace VersionGate

def initial : VersionGate := ⟨none, 0⟩

def isStale (g : VersionGate) (v : Version) : Bool :=
  match g.highest with
  | none => false
  | some h => v ≤ h

def pass (g : VersionGate) (v : Version) : VersionGate :=
  if g.isStale v then { g with rejected := g.rejected + 1 } else { g with highest := some v }

end VersionGate
end VideoPreview
