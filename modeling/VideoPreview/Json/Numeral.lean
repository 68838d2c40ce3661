import VideoPreview.Json.Spelling

/-!
Numbers as JSON writes them, and the values they have: whole numbers of 64 bits exactly, everything
else as a float.
-/
namespace VideoPreview.Json

structure Numeral where
  negative : Bool
  whole : List Nat
  fraction : List Nat
  exponent : Option (Bool × List Nat)
  deriving DecidableEq, Repr

inductive Number where
  | natural (n : Nat)
  | negative (i : Int)
  | float (x : Float)

def digitValue (b : UInt8) : Option Nat :=
  if 48 ≤ b ∧ b ≤ 57 then some (b.toNat - 48) else none

def scanDigits : Bytes → List Nat × Bytes
  | [] => ([], [])
  | b :: rest =>
    match digitValue b with
    | some d => (d :: (scanDigits rest).1, (scanDigits rest).2)
    | none => ([], b :: rest)

theorem scanDigitsLength (raw : Bytes) :
    (scanDigits raw).1.length + (scanDigits raw).2.length = raw.length := by
  induction raw with
  | nil => rfl
  | cons b rest ih =>
    unfold scanDigits
    split
    · simp only [List.length_cons]; omega
    · simp

def scanSomeDigits (raw : Bytes) : Option (List Nat × Bytes) :=
  if (scanDigits raw).1.isEmpty then none else some (scanDigits raw)

theorem scanSomeDigitsShorter {raw : Bytes} {r} (h : scanSomeDigits raw = some r) :
    r.2.length < raw.length := by
  unfold scanSomeDigits at h
  split at h
  · contradiction
  · rename_i full
    cases h
    have len := scanDigitsLength raw
    have := List.length_pos_iff.2 (by simpa using full : (scanDigits raw).1 ≠ [])
    omega

def ofDigits (ds : List Nat) : Nat := ds.foldl (fun n d => n * 10 + d) 0

def maxNatural : Nat := UInt64.size - 1

namespace Numeral

def takeByte (b : UInt8) : Bytes → Bool × Bytes
  | [] => (false, [])
  | c :: rest => if c = b then (true, rest) else (false, c :: rest)

theorem takeByteLength (b : UInt8) (raw : Bytes) : (takeByte b raw).2.length ≤ raw.length := by
  unfold takeByte
  split
  · simp
  · split <;> simp

def scanFraction (raw : Bytes) : Option (List Nat × Bytes) :=
  if (takeByte 46 raw).1 then scanSomeDigits (takeByte 46 raw).2 else some ([], raw)

theorem scanFractionLength {raw : Bytes} {r} (h : scanFraction raw = some r) :
    r.2.length ≤ raw.length := by
  unfold scanFraction at h
  split at h
  · have := scanSomeDigitsShorter h
    have := takeByteLength 46 raw
    omega
  · cases h; exact Nat.le_refl _

def scanPower (raw : Bytes) : Option ((Bool × List Nat) × Bytes) :=
  let plus := takeByte 43 raw
  let minus := takeByte 45 raw
  let digits := if plus.1 then plus.2 else minus.2
  (scanSomeDigits digits).map fun r => ((minus.1, r.1), r.2)

theorem scanPowerLength {raw : Bytes} {r} (h : scanPower raw = some r) :
    r.2.length ≤ raw.length := by
  simp only [scanPower, Option.map_eq_some_iff] at h
  obtain ⟨s, found, rfl⟩ := h
  have short := scanSomeDigitsShorter found
  have := takeByteLength 43 raw
  have := takeByteLength 45 raw
  split at short <;> simp only <;> omega

def scanExponent (raw : Bytes) : Option (Option (Bool × List Nat) × Bytes) :=
  let lower := takeByte 101 raw
  let upper := takeByte 69 raw
  if lower.1 then (scanPower lower.2).map fun r => (some r.1, r.2)
  else if upper.1 then (scanPower upper.2).map fun r => (some r.1, r.2)
  else some (none, raw)

theorem scanExponentLength {raw : Bytes} {r} (h : scanExponent raw = some r) :
    r.2.length ≤ raw.length := by
  have := takeByteLength 101 raw
  have := takeByteLength 69 raw
  unfold scanExponent at h
  simp only at h
  split at h
  · obtain ⟨s, found, rfl⟩ := Option.map_eq_some_iff.1 h
    have := scanPowerLength found
    simp only
    omega
  · split at h
    · obtain ⟨s, found, rfl⟩ := Option.map_eq_some_iff.1 h
      have := scanPowerLength found
      simp only
      omega
    · cases h; exact Nat.le_refl _

def leadingZero : List Nat → Bool
  | 0 :: _ :: _ => true
  | _ => false

def scan (raw : Bytes) : Option (Numeral × Bytes) := do
  let sign := takeByte 45 raw
  let whole ← scanSomeDigits sign.2
  let fraction ← scanFraction whole.2
  let exponent ← scanExponent fraction.2
  if leadingZero whole.1 then none
  else some (⟨sign.1, whole.1, fraction.1, exponent.1⟩, exponent.2)

theorem scanShorter {raw : Bytes} {r} (h : scan raw = some r) : r.2.length < raw.length := by
  simp only [scan, Option.bind_eq_bind, Option.bind_eq_some_iff] at h
  obtain ⟨whole, hw, fraction, hf, exponent, he, last⟩ := h
  have := takeByteLength 45 raw
  have := scanSomeDigitsShorter hw
  have := scanFractionLength hf
  have := scanExponentLength he
  split at last
  · contradiction
  · cases last
    simp only
    omega

structure Significand where
  value : Nat
  shift : Int
  full : Bool

def Significand.addWhole (s : Significand) (d : Nat) : Significand :=
  if s.full || maxNatural < s.value * 10 + d then { s with shift := s.shift + 1, full := true }
  else { s with value := s.value * 10 + d }

def Significand.addFraction (s : Significand) (d : Nat) : Significand :=
  if s.full || maxNatural < s.value * 10 + d then { s with full := true }
  else { s with value := s.value * 10 + d, shift := s.shift - 1 }

def powerOfTen (e : Nat) : Float := Float.ofScientific 1 false e

def divide (x : Float) (e : Nat) : Float :=
  if e ≤ 308 then x / powerOfTen e
  else if x == 0.0 then x
  else divide (x / powerOfTen 308) (e - 308)
termination_by e

def scale (significand : Nat) (shift : Int) : Option Float :=
  let x := (UInt64.ofNat significand).toFloat
  if shift < 0 then some (divide x shift.natAbs)
  else if shift ≤ 308 then
    let y := x * powerOfTen shift.natAbs
    if y.isInf then none else some y
  else if x == 0.0 then some x
  else none

def maxPower : Nat := UInt32.size / 2 - 1

def toFloat? (n : Numeral) : Option Float :=
  let whole := n.whole.foldl Significand.addWhole ⟨0, 0, false⟩
  let all := n.fraction.foldl Significand.addFraction { whole with full := false }
  let magnitude := match n.exponent with
    | none => scale all.value all.shift
    | some (down, ds) =>
      if maxPower < ofDigits ds then
        if all.value ≠ 0 ∧ !down then none else some 0.0
      else if down then scale all.value (all.shift - ofDigits ds)
      else scale all.value (all.shift + ofDigits ds)
  magnitude.map fun x => if n.negative then -x else x

/-- The value: a whole number where neither point nor exponent is written and 64 bits suffice
(minus zero is not one), a float otherwise. Nothing if the number is too large for either. -/
def value? (n : Numeral) : Option Number :=
  let whole := ofDigits n.whole
  if n.fraction.isEmpty && n.exponent.isNone then
    if !n.negative && whole ≤ maxNatural then some (.natural whole)
    else if n.negative && 0 < whole && whole ≤ UInt64.size / 2 then some (.negative (-whole))
    else n.toFloat?.map .float
  else n.toFloat?.map .float

def ofInt (i : Int) : Numeral :=
  ⟨decide (i < 0), (Nat.toDigits 10 i.natAbs).map (fun c => c.toNat - 48), [], none⟩

def digitByte (d : Nat) : UInt8 := UInt8.ofNat (48 + d)

def write (n : Numeral) : Bytes :=
  (if n.negative then [45] else []) ++ n.whole.map digitByte
    ++ (if n.fraction.isEmpty then [] else 46 :: n.fraction.map digitByte)
    ++ match n.exponent with
      | none => []
      | some (down, ds) => 101 :: (if down then [45] else []) ++ ds.map digitByte

end Numeral
end VideoPreview.Json
