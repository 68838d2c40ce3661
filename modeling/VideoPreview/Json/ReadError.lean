import VideoPreview.Text.Quoted

/-!
Why a JSON text is not the value that is wanted.
-/
namespace VideoPreview.Json

inductive Found where
  | null
  | bool (b : Bool)
  | integer (i : Int)
  | float
  | text (s : String)
  | sequence
  | map
  | unitVariant
  deriving DecidableEq, Repr

inductive ReadError where
  | malformed
  | invalidType (found : Found) (expected : String)
  | invalidValue (found : Int) (expected : String)
  | invalidLength (length : Nat) (record : String) (fields : Nat)
  | unknownField (name : String) (known : List String)
  | unknownVariant (name : String) (known : List String)
  | missingField (name : String)
  | duplicateField (name : String)
  deriving DecidableEq, Repr

namespace Found

def message : Found → String
  | null => "null"
  | bool b => s!"boolean `{b}`"
  | integer i => s!"integer `{i}`"
  | float => "floating point"
  | text s => "string " ++ Text.quoted s
  | sequence => "sequence"
  | map => "map"
  | unitVariant => "unit variant"

end Found

def alternatives (names : List String) : String :=
  match names.map fun n => s!"`{n}`" with
  | [a] => a
  | [a, b] => a ++ " or " ++ b
  | all => "one of " ++ String.intercalate ", " all

namespace ReadError

def message : ReadError → String
  | malformed => "malformed JSON"
  | invalidType found expected => s!"invalid type: {found.message}, expected {expected}"
  | invalidValue found expected => s!"invalid value: integer `{found}`, expected {expected}"
  | invalidLength length record 1 =>
    s!"invalid length {length}, expected struct {record} with 1 element"
  | invalidLength length record fields =>
    s!"invalid length {length}, expected struct {record} with {fields} elements"
  | unknownField name known => s!"unknown field `{name}`, expected {alternatives known}"
  | unknownVariant name known => s!"unknown variant `{name}`, expected {alternatives known}"
  | missingField name => s!"missing field `{name}`"
  | duplicateField name => s!"duplicate field `{name}`"

end ReadError
end VideoPreview.Json
