/-!
Strings as JSON spells them: bytes that stand for themselves or are written with a short escape,
and code units written by their four hexadecimal digits. A spelling is decoded only where a string
is wanted; a spelling with lone surrogates or ill-formed bytes can still be skipped.
-/
namespace VideoPreview.Json

abbrev Bytes := List UInt8

inductive Piece where
  | byte (b : UInt8)
  | unit (n : Nat)
  deriving DecidableEq, Repr

abbrev Spelling := List Piece

def hexValue (b : UInt8) : Option Nat :=
  if 48 ≤ b ∧ b ≤ 57 then some (b.toNat - 48)
  else if 97 ≤ b ∧ b ≤ 102 then some (b.toNat - 87)
  else if 65 ≤ b ∧ b ≤ 70 then some (b.toNat - 55)
  else none

def hexUnit (a b c d : UInt8) : Option Nat := do
  let a ← hexValue a
  let b ← hexValue b
  let c ← hexValue c
  let d ← hexValue d
  some (((a * 16 + b) * 16 + c) * 16 + d)

def shortEscape (b : UInt8) : Option UInt8 :=
  if b = 34 then some 34
  else if b = 92 then some 92
  else if b = 47 then some 47
  else if b = 98 then some 8
  else if b = 102 then some 12
  else if b = 110 then some 10
  else if b = 114 then some 13
  else if b = 116 then some 9
  else none

namespace Spelling

def scan : Bytes → Option (Spelling × Bytes)
  | [] => none
  | b :: rest =>
    if b = 34 then some ([], rest)
    else if b = 92 then
      match rest with
      | [] => none
      | e :: rest =>
        if e = 117 then
          match rest with
          | h₁ :: h₂ :: h₃ :: h₄ :: rest =>
            match hexUnit h₁ h₂ h₃ h₄, scan rest with
            | some n, some (s, tail) => some (.unit n :: s, tail)
            | _, _ => none
          | _ => none
        else
          match shortEscape e, scan rest with
          | some x, some (s, tail) => some (.byte x :: s, tail)
          | _, _ => none
    else if b < 32 then none
    else
      match scan rest with
      | some (s, tail) => some (.byte b :: s, tail)
      | none => none

theorem scanShorter {raw tail : Bytes} {s : Spelling} (h : scan raw = some (s, tail)) :
    tail.length < raw.length := by
  fun_induction scan raw generalizing s tail <;> simp_all <;> grind

def isLeading (n : Nat) : Bool := 0xd800 ≤ n && n ≤ 0xdbff
def isTrailing (n : Nat) : Bool := 0xdc00 ≤ n && n ≤ 0xdfff

def toBytes : Spelling → Option Bytes
  | [] => some []
  | .byte b :: rest => (toBytes rest).map (b :: ·)
  | .unit n :: rest =>
    if isTrailing n then none
    else if isLeading n then
      match rest with
      | .unit m :: rest =>
        if isTrailing m then
          let c := 0x10000 + (n - 0xd800) * 0x400 + (m - 0xdc00)
          (toBytes rest).map (String.utf8EncodeChar (Char.ofNat c) ++ ·)
        else none
      | _ => none
    else (toBytes rest).map (String.utf8EncodeChar (Char.ofNat n) ++ ·)

def toString? (s : Spelling) : Option String :=
  (toBytes s).bind fun bytes => String.fromUTF8? ⟨bytes.toArray⟩

def pieceOf (b : UInt8) : Piece :=
  if b < 32 ∧ b ≠ 8 ∧ b ≠ 9 ∧ b ≠ 10 ∧ b ≠ 12 ∧ b ≠ 13 then .unit b.toNat else .byte b

def ofString (s : String) : Spelling := s.toByteArray.toList.map pieceOf

def hexDigit (n : Nat) : UInt8 := if n < 10 then UInt8.ofNat (48 + n) else UInt8.ofNat (87 + n)

def Piece.toBytes : Piece → Bytes
  | .unit n => [92, 117, hexDigit (n / 4096 % 16), hexDigit (n / 256 % 16), hexDigit (n / 16 % 16),
      hexDigit (n % 16)]
  | .byte b =>
    if b = 34 then [92, 34]
    else if b = 92 then [92, 92]
    else if b = 8 then [92, 98]
    else if b = 12 then [92, 102]
    else if b = 10 then [92, 110]
    else if b = 13 then [92, 114]
    else if b = 9 then [92, 116]
    else [b]

def write (s : Spelling) : Bytes := 34 :: s.flatMap Piece.toBytes ++ [34]

end Spelling
end VideoPreview.Json
