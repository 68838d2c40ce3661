import VideoPreview.Json.Reader

/-!
Values of one of several named variants: a plain name, or an object whose only member is the name
with what the variant carries.
-/
namespace VideoPreview.Json

inductive Variant (α : Type) where
  | plain (a : α)
  | carrying (r : Reader α)

def Variant.find (variants : List (String × Variant α)) (name : String) :
    Except ReadError (Variant α) :=
  match variants.find? fun v => v.1 == name with
  | some v => .ok v.2
  | none => .error (.unknownVariant name (variants.map (·.1)))

def Variant.read (variants : List (String × Variant α)) : Reader α
  | .string s =>
    match s.toString? with
    | none => .error .malformed
    | some name => do
      match ← Variant.find variants name with
      | .plain a => .ok a
      | .carrying _ => .error (.invalidType .unitVariant "newtype variant")
  | .object ((key, t) :: rest) ending =>
    match key.toString? with
    | none => .error .malformed
    | some name => do
      let a ← match ← Variant.find variants name with
        | .plain a => (Reader.unit t).map fun _ => a
        | .carrying r => r t
      if rest.isEmpty ∧ ending = .closed then .ok a else .error .malformed
  | _ => .error .malformed

end VideoPreview.Json
