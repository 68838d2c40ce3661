/-!
Hexadecimal digits, lower case, for numbers, bytes and the exact value of a float.
-/
namespace VideoPreview.Text

def hexadecimal (n : Nat) : String := String.ofList (Nat.toDigits 16 n)

def hexadecimalOf (width n : Nat) : String :=
  String.ofList (List.replicate (width - (Nat.toDigits 16 n).length) '0') ++ hexadecimal n

def hexDigit (c : Char) : Nat :=
  if '0' ≤ c ∧ c ≤ '9' then c.toNat - '0'.toNat
  else if 'a' ≤ c ∧ c ≤ 'f' then c.toNat - 'a'.toNat + 10
  else if 'A' ≤ c ∧ c ≤ 'F' then c.toNat - 'A'.toNat + 10
  else 0

def natOfHex (s : String) : Nat := s.toList.foldl (fun n c => 16 * n + hexDigit c) 0

def bytesOfHex : List Char → List UInt8
  | a :: b :: rest => UInt8.ofNat (16 * hexDigit a + hexDigit b) :: bytesOfHex rest
  | _ => []

def hexOfBytes (bytes : List UInt8) : String :=
  String.join (bytes.map fun b => hexadecimalOf 2 b.toNat)

def hexOfFloat (x : Float) : String := if x.isNaN then "nan" else hexadecimalOf 16 x.toBits.toNat

def floatOfHex (s : String) : Float :=
  if s = "nan" then 0.0 / 0.0 else Float.ofBits (UInt64.ofNat (natOfHex s))

end VideoPreview.Text
