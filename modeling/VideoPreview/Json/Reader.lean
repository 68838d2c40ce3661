import VideoPreview.Json.Tree
import VideoPreview.Json.ReadError

/-!
Readers of single values, and the writers beside them. A reader goes through a tree in the order of
the text and reports the first thing that is wrong.
-/
namespace VideoPreview.Json

abbrev Reader (α : Type) := Tree → Except ReadError α

def mismatch (expected : String) : Tree → ReadError
  | .null => .invalidType .null expected
  | .bool b => .invalidType (.bool b) expected
  | .number n =>
    match n.value? with
    | some (.natural k) => .invalidType (.integer k) expected
    | some (.negative i) => .invalidType (.integer i) expected
    | some (.float _) => .invalidType .float expected
    | none => .malformed
  | .string s =>
    match s.toString? with
    | some text => .invalidType (.text text) expected
    | none => .malformed
  | .array _ _ => .invalidType .sequence expected
  | .object _ _ => .invalidType .map expected
  | .broken => .malformed

namespace Reader

def bool : Reader Bool
  | .bool b => .ok b
  | t => .error (mismatch "a boolean" t)

def string : Reader String
  | .string s =>
    match s.toString? with
    | some text => .ok text
    | none => .error .malformed
  | t => .error (mismatch "a string" t)

def unit : Reader Unit
  | .null => .ok ()
  | t => .error (mismatch "unit" t)

def integer (lo hi : Int) (expected : String) : Reader Int
  | .number n =>
    match n.value? with
    | some (.natural k) => if lo ≤ k ∧ k ≤ hi then .ok k else .error (.invalidValue k expected)
    | some (.negative i) => if lo ≤ i ∧ i ≤ hi then .ok i else .error (.invalidValue i expected)
    | _ => .error (mismatch expected (.number n))
  | t => .error (mismatch expected t)

def uint32 : Reader UInt32 := fun t =>
  (integer 0 (UInt32.size - 1 : Nat) "u32" t).map fun i => UInt32.ofNat i.toNat

def uint64 : Reader UInt64 := fun t =>
  (integer 0 (UInt64.size - 1 : Nat) "u64" t).map fun i => UInt64.ofNat i.toNat

def size : Reader UInt64 := fun t =>
  (integer 0 (UInt64.size - 1 : Nat) "usize" t).map fun i => UInt64.ofNat i.toNat

def int32 : Reader Int32 := fun t =>
  (integer Int32.minValue.toInt Int32.maxValue.toInt "i32" t).map Int32.ofInt

def int64 : Reader Int64 := fun t =>
  (integer Int64.minValue.toInt Int64.maxValue.toInt "i64" t).map Int64.ofInt

def float : Reader Float
  | .number n =>
    match n.value? with
    | some (.natural k) => .ok (UInt64.ofNat k).toFloat
    | some (.negative i) => .ok (-(UInt64.ofNat i.natAbs).toFloat)
    | some (.float x) => .ok x
    | none => .error .malformed
  | t => .error (mismatch "f64" t)

def option (r : Reader α) : Reader (Option α)
  | .null => .ok none
  | t => (r t).map some

def list (r : Reader α) : Reader (List α)
  | .array items ending => do
    let all ← items.mapM r
    if ending = .closed then .ok all else .error .malformed
  | t => .error (mismatch "a sequence" t)

def run (r : Reader α) (raw : Bytes) : Except ReadError α := do
  let document := Document.ofBytes raw
  let a ← r document.root
  if document.complete then .ok a else .error .malformed

end Reader

namespace Tree

def ofInt (i : Int) : Tree := .number (Numeral.ofInt i)
def ofUInt32 (n : UInt32) : Tree := ofInt n.toNat
def ofUInt64 (n : UInt64) : Tree := ofInt n.toNat
def ofInt32 (n : Int32) : Tree := ofInt n.toInt
def ofInt64 (n : Int64) : Tree := ofInt n.toInt
def ofString (s : String) : Tree := .string (Spelling.ofString s)

def ofOption (f : α → Tree) : Option α → Tree
  | none => .null
  | some a => f a

def toText (t : Tree) : String := (String.fromUTF8? ⟨t.write.toArray⟩).getD ""

end Tree
end VideoPreview.Json
