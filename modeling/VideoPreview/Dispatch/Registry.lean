import VideoPreview.Dispatch.Hub

/-!
The one dispatch context that the whole program shares. It is installed once and stays.
-/
namespace VideoPreview

structure Registry (V : Type) where
  installed : Option (Hub V)

namespace Registry

variable {V : Type}

def empty : Registry V := ⟨none⟩

def shared (r : Registry V) : Except Payload (Hub V) :=
  match r.installed with
  | some h => .ok h
  | none => .error (.literal "dispatch used before initialize_dispatch")

def install (r : Registry V) (h : Hub V) : Except DispatchError (Registry V) :=
  match r.installed with
  | some _ => .error .alreadyInitialized
  | none => .ok ⟨some h⟩

def setUp (r : Registry V) (trampoline : Trampoline) : Except DispatchError (Registry V) :=
  match r.installed with
  | some _ => .error .alreadyInitialized
  | none => do r.install (← Hub.start trampoline .log true .default)

end Registry
end VideoPreview
