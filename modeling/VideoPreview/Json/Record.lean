import VideoPreview.Json.Reader

/-!
Records: read from an object, with members in any order, or from a sequence of the fields in their
order. A field is never read twice, and members that are no field are skipped unless the record is
strict.
-/
namespace VideoPreview.Json

inductive Presence where
  | required
  | nullable
  | defaulted
  deriving DecidableEq, Repr

structure Field (α : Type) where
  name : String
  presence : Presence
  store : Tree → α → Except ReadError α

def Field.of (name : String) (presence : Presence) (r : Reader β) (set : β → α → α) : Field α :=
  ⟨name, presence, fun t a => (r t).map fun b => set b a⟩

structure Record (α : Type) where
  name : String
  fields : List (Field α)
  start : α
  strict : Bool

namespace Record

def find? (r : Record α) (name : String) : Option (Field α) :=
  r.fields.find? fun f => f.name == name

def readMembers (r : Record α) :
    List (Spelling × Tree) → List String → α → Except ReadError (List String × α)
  | [], seen, a => .ok (seen, a)
  | (key, t) :: rest, seen, a =>
    match key.toString? with
    | none => .error .malformed
    | some name =>
      match r.find? name with
      | none =>
        if r.strict then .error (.unknownField name (r.fields.map (·.name)))
        else readMembers r rest seen a
      | some f =>
        if name ∈ seen then .error (.duplicateField name)
        else
          match f.store t a with
          | .error e => .error e
          | .ok a => readMembers r rest (name :: seen) a

def missing? (r : Record α) (seen : List String) : Option String :=
  (r.fields.find? fun f => f.presence = .required ∧ f.name ∉ seen).map (·.name)

def readItems (r : Record α) (ending : Ending) :
    List (Field α) → List Tree → α → Except ReadError α
  | f :: fields, t :: items, a =>
    match f.store t a with
    | .error e => .error e
    | .ok a => readItems r ending fields items a
  | [], _ :: _, _ => .error .malformed
  | fields, [], a =>
    if ending ≠ .closed then .error .malformed
    else
      match fields.findIdx? fun f => f.presence ≠ .defaulted with
      | none => .ok a
      | some i =>
        .error (.invalidLength (r.fields.length - fields.length + i) r.name r.fields.length)

def read (r : Record α) : Reader α
  | .object members ending => do
    let (seen, a) ← r.readMembers members [] r.start
    if ending ≠ .closed then .error .malformed
    else
      match r.missing? seen with
      | some name => .error (.missingField name)
      | none => .ok a
  | .array items ending => r.readItems ending r.fields items r.start
  | t => .error (mismatch ("struct " ++ r.name) t)

end Record

def Tree.ofFields (fields : List (String × Tree)) : Tree :=
  .object (fields.map fun f => (Spelling.ofString f.1, f.2)) .closed

end VideoPreview.Json
