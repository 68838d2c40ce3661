import Mathlib.Tactic.SplitIfs
import VideoPreview.Json.Token

/-! Strings and numbers in a JSON text: every way to write them, the reading of each, and that what
is printed is one of these ways. -/
namespace VideoPreview.Json

theorem toListBytes (bytes : ByteArray) : bytes.toList = bytes.data.toList := by
  have fromHere (i : Nat) (done : List UInt8) :
      ByteArray.toList.loop bytes i done = done.reverse ++ bytes.data.toList.drop i := by
    fun_induction ByteArray.toList.loop bytes i done with
    | case1 i done inside ih =>
      have here : i < bytes.data.toList.length := by simpa using inside
      have next : bytes.get! i = bytes.data.toList[i] := by
        simpa [ByteArray.get!] using getElem!_pos bytes.data i inside
      rw [ih, List.drop_eq_getElem_cons here, next]
      simp
    | case2 i done outside =>
      have beyond : bytes.data.toList.length ≤ i := by simpa using Nat.le_of_not_lt outside
      rw [List.drop_eq_nil_of_le beyond, List.append_nil]
  simpa [ByteArray.toList] using fromHere 0 []

def IsText (raw : Bytes) : Prop := ∃ s : String, s.toByteArray.toList = raw

theorem textOfBytes {raw : Bytes} (text : IsText raw) :
    ∃ s, String.fromUTF8? ⟨raw.toArray⟩ = some s ∧ s.toByteArray.toList = raw := by
  obtain ⟨s, rfl⟩ := text
  refine ⟨s, ?_, rfl⟩
  have same : (⟨s.toByteArray.toList.toArray⟩ : ByteArray) = s.toByteArray := by
    rw [toListBytes]
  rw [same, String.fromUTF8?, dif_pos s.isValidUTF8]
  rfl

theorem textUnique {s t : String} (same : s.toByteArray.toList = t.toByteArray.toList) : s = t := by
  rw [toListBytes, toListBytes] at same
  refine String.toByteArray_inj.mp (ByteArray.ext (Array.toList_inj.mp same))

theorem IsText.append {raw more : Bytes} (first : IsText raw) (second : IsText more) :
    IsText (raw ++ more) := by
  obtain ⟨s, rfl⟩ := first
  obtain ⟨t, rfl⟩ := second
  refine ⟨s ++ t, ?_⟩
  simp only [toListBytes, String.toByteArray_append, ByteArray.toList_data_append]

theorem IsText.nil : IsText [] := ⟨"", by simp⟩

theorem IsText.flatMap {α : Type} {f : α → Bytes} {xs : List α} (each : ∀ x ∈ xs, IsText (f x)) :
    IsText (xs.flatMap f) := by
  induction xs with
  | nil => exact .nil
  | cons x rest ih =>
    rw [List.flatMap_cons]
    exact (each x List.mem_cons_self).append
      (ih fun y member => each y (List.mem_cons_of_mem x member))

theorem IsText.char (c : Char) : IsText (String.utf8EncodeChar c) := by
  refine ⟨String.singleton c, ?_⟩
  rw [toListBytes, String.toByteArray_singleton, List.utf8Encode_singleton,
    List.toList_data_toByteArray]

theorem textBytes (s : String) : s.toByteArray.toList = s.toList.flatMap String.utf8EncodeChar := by
  rw [toListBytes, ← String.utf8Encode_toList, List.utf8Encode, List.toList_data_toByteArray]

theorem encodeAscii {n : Nat} (ascii : n < 128) :
    String.utf8EncodeChar (Char.ofNat n) = [UInt8.ofNat n] := by
  revert n
  decide

theorem IsText.ascii {raw : Bytes} (small : ∀ b ∈ raw, b < 128) : IsText raw := by
  have each : raw = raw.flatMap fun b => [b] := by simp
  rw [each]
  refine .flatMap fun b member => ?_
  have encoded := encodeAscii (n := b.toNat) (UInt8.lt_iff_toNat_lt.mp (small b member))
  rw [UInt8.ofNat_toNat] at encoded
  exact encoded ▸ .char _

namespace Spelling

inductive Spells : Spelling → Bytes → Prop where
  | nil : Spells [] []
  | plain {s raw} (b : UInt8) (visible : 32 ≤ b) (quote : b ≠ 34) (escape : b ≠ 92)
      (rest : Spells s raw) : Spells (.byte b :: s) (b :: raw)
  | short {s raw b} (e : UInt8) (escape : shortEscape e = some b) (rest : Spells s raw) :
      Spells (.byte b :: s) (92 :: e :: raw)
  | unit {s raw n} (h₁ h₂ h₃ h₄ : UInt8) (digits : hexUnit h₁ h₂ h₃ h₄ = some n)
      (rest : Spells s raw) : Spells (.unit n :: s) (92 :: 117 :: h₁ :: h₂ :: h₃ :: h₄ :: raw)

theorem scanSpelled {s : Spelling} {raw : Bytes} (spells : Spells s raw) (rest : Bytes) :
    scan (raw ++ 34 :: rest) = some (s, rest) := by
  induction spells with
  | nil =>
    rw [List.nil_append, scan.eq_def]
    rfl
  | plain b visible quote escape _ ih =>
    rw [List.cons_append, scan.eq_def]
    simp only [quote, escape, UInt8.not_lt.mpr visible, if_false, ih]
  | @short s raw b e escape _ ih =>
    have other : e ≠ 117 := by
      rintro rfl
      cases escape
    have backslash : (92 : UInt8) ≠ 34 := by decide
    rw [List.cons_append, List.cons_append, scan.eq_def]
    simp only [backslash, other, if_false, if_true, escape, ih]
  | unit h₁ h₂ h₃ h₄ digits _ ih =>
    have backslash : (92 : UInt8) ≠ 34 := by decide
    simp only [List.cons_append]
    rw [scan.eq_def]
    simp only [backslash, if_false, if_true, digits, ih]

theorem hexDigitValue {n : Nat} (small : n < 16) : hexValue (hexDigit n) = some n := by
  revert n
  decide

theorem hexDigitsValue {n : Nat} (small : n < 65536) :
    hexUnit (hexDigit (n / 4096 % 16)) (hexDigit (n / 256 % 16)) (hexDigit (n / 16 % 16))
      (hexDigit (n % 16)) = some n := by
  have digit (m : Nat) : hexValue (hexDigit (m % 16)) = some (m % 16) :=
    hexDigitValue (Nat.mod_lt m (by decide))
  simp only [hexUnit, digit, Option.bind_eq_bind, Option.bind_some, Option.some.injEq]
  omega

theorem pieceSpells (b : UInt8) {s : Spelling} {raw : Bytes} (rest : Spells s raw) :
    Spells (pieceOf b :: s) (Piece.toBytes (pieceOf b) ++ raw) := by
  unfold pieceOf
  split
  case isTrue control =>
    have small : b.toNat < 65536 := Nat.lt_trans b.toNat_lt (by decide)
    exact .unit _ _ _ _ (hexDigitsValue small) rest
  case isFalse plain =>
    simp only [Piece.toBytes]
    split_ifs with quote slash back form line carriage tab
    iterate 7 exact .short _ (by subst_vars; rfl) rest
    refine .plain b (UInt8.not_lt.mp fun control => plain ?_) quote slash rest
    exact ⟨control, back, tab, line, form, carriage⟩

theorem printedSpells (bytes : Bytes) :
    Spells (bytes.map pieceOf) ((bytes.map pieceOf).flatMap Piece.toBytes) := by
  induction bytes with
  | nil => exact .nil
  | cons b rest ih => exact pieceSpells b ih

theorem piecesBytes (bytes : Bytes) : toBytes (bytes.map pieceOf) = some bytes := by
  induction bytes with
  | nil => rfl
  | cons b rest ih =>
    rw [List.map_cons, pieceOf]
    split
    case isFalse =>
      rw [toBytes, ih]
      rfl
    case isTrue control =>
      have small : b.toNat < 32 := UInt8.lt_iff_toNat_lt.mp control.1
      have trailing : isTrailing b.toNat = false := by simp [isTrailing]; omega
      have leading : isLeading b.toNat = false := by simp [isLeading]; omega
      have encoded := encodeAscii (n := b.toNat) (by omega)
      rw [UInt8.ofNat_toNat] at encoded
      rw [toBytes.eq_def]
      simp [trailing, leading, ih, encoded]

theorem printedString (s : String) : (ofString s).toString? = some s := by
  have text : IsText s.toByteArray.toList := ⟨s, rfl⟩
  obtain ⟨t, read, same⟩ := textOfBytes text
  rw [textUnique same] at read
  simp only [toString?, ofString, piecesBytes, Option.bind_some]
  exact read

theorem pieceAscii {b : UInt8} (ascii : b < 128) : ∀ x ∈ Piece.toBytes (pieceOf b), x < 128 := by
  have each : ∀ n < 128, ∀ x ∈ Piece.toBytes (pieceOf (.ofNat n)), x < 128 := by decide +kernel
  have here := each b.toNat (UInt8.lt_iff_toNat_lt.mp ascii)
  rwa [UInt8.ofNat_toNat] at here

theorem pieceAlone {b : UInt8} (high : 128 ≤ b) : Piece.toBytes (pieceOf b) = [b] := by
  have each : ∀ n < 256, 128 ≤ n → Piece.toBytes (pieceOf (.ofNat n)) = [.ofNat n] := by
    decide +kernel
  have here := each b.toNat b.toNat_lt (UInt8.le_iff_toNat_le.mp high)
  rwa [UInt8.ofNat_toNat] at here

theorem charText (c : Char) :
    IsText ((String.utf8EncodeChar c).flatMap fun b => Piece.toBytes (pieceOf b)) := by
  by_cases ascii : c.toNat < 128
  · have encoded := encodeAscii ascii
    rw [Char.ofNat_toNat] at encoded
    have small : UInt8.ofNat c.toNat < 128 := by
      rw [UInt8.lt_iff_toNat_lt, UInt8.toNat_ofNat_of_lt' (Nat.lt_trans ascii (by decide))]
      exact ascii
    rw [encoded, List.flatMap_singleton]
    exact .ascii (pieceAscii small)
  · have high : ∀ b ∈ String.utf8EncodeChar c, 128 ≤ b := by
      have above : ¬ c.val.toNat ≤ 0x7f := fun low => ascii (Nat.lt_succ_of_le low)
      intro b member
      rw [String.utf8EncodeChar] at member
      simp only [above, if_false] at member
      rw [UInt8.le_iff_toNat_le]
      split_ifs at member
      all_goals
        simp only [List.mem_cons, List.not_mem_nil, or_false] at member
        rcases member with rfl | rfl | rfl | rfl
        all_goals simp only [UInt8.toNat_ofNat', UInt8.toNat_ofNat]; omega
    have alone : (String.utf8EncodeChar c).map (fun b => Piece.toBytes (pieceOf b)) =
        (String.utf8EncodeChar c).map fun b => [b] :=
      List.map_congr_left fun b member => pieceAlone (high b member)
    have same : (String.utf8EncodeChar c).flatMap (fun b => Piece.toBytes (pieceOf b)) =
        String.utf8EncodeChar c := by
      rw [List.flatMap_def, alone, ← List.flatMap_def]
      exact List.flatMap_singleton' _
    rw [same]
    exact .char c

theorem printedText (s : String) : IsText (write (ofString s)) := by
  have quote : IsText [34] := .ascii (by decide +kernel)
  have pieces : IsText ((ofString s).flatMap Piece.toBytes) := by
    rw [ofString, textBytes, List.flatMap_map, List.flatMap_assoc]
    exact .flatMap fun c _ => charText c
  rw [write]
  exact (quote.append pieces).append quote

end Spelling

def AreDigits (ds : List Nat) : Prop := ds ≠ [] ∧ ∀ d ∈ ds, d < 10

def NoDigit (raw : Bytes) : Prop := ∀ b rest, raw = b :: rest → digitValue b = none

theorem digitRead {d : Nat} (small : d < 10) : digitValue (Numeral.digitByte d) = some d := by
  revert d
  decide

theorem scanDigitsAll {ds : List Nat} (small : ∀ d ∈ ds, d < 10) {rest : Bytes}
    (stops : NoDigit rest) : scanDigits (ds.map Numeral.digitByte ++ rest) = (ds, rest) := by
  induction ds with
  | nil =>
    cases rest with
    | nil => rfl
    | cons b more => simp [scanDigits, stops b more rfl]
  | cons d more ih =>
    have here := digitRead (small d List.mem_cons_self)
    have later := ih fun e member => small e (List.mem_cons_of_mem d member)
    simp [scanDigits, here, later]

theorem scanSomeDigitsAll {ds : List Nat} (digits : AreDigits ds) {rest : Bytes}
    (stops : NoDigit rest) :
    scanSomeDigits (ds.map Numeral.digitByte ++ rest) = some (ds, rest) := by
  simp [scanSomeDigits, scanDigitsAll digits.2 stops, digits.1]

namespace Numeral

inductive SpellsFraction : List Nat → Bytes → Prop where
  | none : SpellsFraction [] []
  | some {ds} (digits : AreDigits ds) : SpellsFraction ds (46 :: ds.map digitByte)

inductive SpellsPower : Option (Bool × List Nat) → Bytes → Prop where
  | none : SpellsPower none []
  | plain {ds} (e : UInt8) (letter : e = 101 ∨ e = 69) (digits : AreDigits ds) :
      SpellsPower (some (false, ds)) (e :: ds.map digitByte)
  | up {ds} (e : UInt8) (letter : e = 101 ∨ e = 69) (digits : AreDigits ds) :
      SpellsPower (some (false, ds)) (e :: 43 :: ds.map digitByte)
  | down {ds} (e : UInt8) (letter : e = 101 ∨ e = 69) (digits : AreDigits ds) :
      SpellsPower (some (true, ds)) (e :: 45 :: ds.map digitByte)

inductive Spells (n : Numeral) : Bytes → Prop where
  | intro {fraction power : Bytes} (whole : AreDigits n.whole)
      (zero : leadingZero n.whole = false) (spellsFraction : SpellsFraction n.fraction fraction)
      (spellsPower : SpellsPower n.exponent power) :
      Spells n ((if n.negative then [45] else []) ++ n.whole.map digitByte ++ fraction ++ power)

def Stops (raw : Bytes) : Prop :=
  ∀ b rest, raw = b :: rest → digitValue b = none ∧ b ≠ 46 ∧ b ≠ 101 ∧ b ≠ 69

theorem takeByteOther {b : UInt8} {raw : Bytes} (other : ∀ c rest, raw = c :: rest → c ≠ b) :
    takeByte b raw = (false, raw) := by
  cases raw with
  | nil => rfl
  | cons c rest => simp [takeByte, other c rest rfl]

theorem digitOther {ds : List Nat} (digits : AreDigits ds) (more : Bytes) {b : UInt8}
    (other : digitValue b = none) : ∀ c rest, ds.map digitByte ++ more = c :: rest → c ≠ b := by
  intro c rest starts same
  cases ds with
  | nil => exact digits.1 rfl
  | cons d others =>
    rw [List.map_cons, List.cons_append] at starts
    have read := digitRead (digits.2 d List.mem_cons_self)
    rw [(List.cons.inj starts).1, same, other] at read
    cases read

theorem scanPowerAll {power : Option (Bool × List Nat)} {raw rest : Bytes}
    (spells : SpellsPower power raw) (stops : Stops rest) :
    scanExponent (raw ++ rest) = some (power, rest) := by
  have noDigit : NoDigit rest := fun b more same => (stops b more same).1
  have plus : digitValue 43 = none := by decide
  have minus : digitValue 45 = none := by decide
  have starts {e : UInt8} (letter : e = 101 ∨ e = 69) (more : Bytes) :
      scanExponent (e :: more) = (scanPower more).map fun r => (some r.1, r.2) := by
    rcases letter with rfl | rfl <;> rfl
  cases spells with
  | none =>
    have lower := takeByteOther (b := 101) fun c more same => (stops c more same).2.2.1
    have upper := takeByteOther (b := 69) fun c more same => (stops c more same).2.2.2
    simp [scanExponent, lower, upper]
  | plain e letter digits =>
    have noPlus := takeByteOther (digitOther digits rest plus)
    have noMinus := takeByteOther (digitOther digits rest minus)
    have read := scanSomeDigitsAll digits noDigit
    rw [List.cons_append, starts letter]
    simp [scanPower, noPlus, noMinus, read]
  | up e letter digits =>
    have read := scanSomeDigitsAll digits noDigit
    rw [List.cons_append, starts letter]
    simp [scanPower, takeByte, read]
  | down e letter digits =>
    have read := scanSomeDigitsAll digits noDigit
    rw [List.cons_append, starts letter]
    simp [scanPower, takeByte, read]

theorem powerStarts {power : Option (Bool × List Nat)} {raw rest : Bytes}
    (spells : SpellsPower power raw) (stops : Stops rest) :
    ∀ b more, raw ++ rest = b :: more → digitValue b = none ∧ b ≠ 46 := by
  have letters {e : UInt8} (letter : e = 101 ∨ e = 69) : digitValue e = none ∧ e ≠ 46 := by
    rcases letter with rfl | rfl <;> decide
  intro b more same
  cases spells with
  | none => exact ⟨(stops b more same).1, (stops b more same).2.1⟩
  | plain e letter digits => exact (List.cons.inj same).1 ▸ letters letter
  | up e letter digits => exact (List.cons.inj same).1 ▸ letters letter
  | down e letter digits => exact (List.cons.inj same).1 ▸ letters letter

theorem scanSpelled {n : Numeral} {raw rest : Bytes} (spells : Spells n raw) (stops : Stops rest) :
    scan (raw ++ rest) = some (n, rest) := by
  obtain ⟨whole, zero, spellsFraction, spellsPower⟩ := spells
  rename_i fraction power
  have read := scanPowerAll spellsPower stops
  have starts := powerStarts spellsPower stops
  have noDigit : NoDigit (power ++ rest) := fun b more same => (starts b more same).1
  have readFraction : scanFraction (fraction ++ (power ++ rest)) =
      some (n.fraction, power ++ rest) := by
    generalize n.fraction = ds at spellsFraction
    cases spellsFraction with
    | none =>
      have point := takeByteOther fun b more same => (starts b more same).2
      simp [scanFraction, point]
    | some digits => simp [scanFraction, takeByte, scanSomeDigitsAll digits noDigit]
  have noMore : NoDigit (fraction ++ (power ++ rest)) := by
    generalize n.fraction = ds at spellsFraction
    cases spellsFraction with
    | none => exact noDigit
    | some digits =>
      intro b more same
      rw [← (List.cons.inj same).1]
      decide
  have readWhole := scanSomeDigitsAll whole noMore
  have sign : takeByte 45 ((if n.negative then [45] else []) ++
      (n.whole.map digitByte ++ (fraction ++ (power ++ rest)))) =
        (n.negative, n.whole.map digitByte ++ (fraction ++ (power ++ rest))) := by
    cases n.negative with
    | true => simp [takeByte]
    | false => exact takeByteOther (digitOther whole _ (by decide))
  simp [scan, sign, readWhole, readFraction, read, zero]

def decimals (n : Nat) : List Nat := (Nat.toDigits 10 n).map fun c => c.toNat - 48

theorem decimalsSmall {n : Nat} (small : n < 10) : decimals n = [n] := by
  rw [decimals, Nat.toDigits_of_lt_base small, List.map_singleton,
    Nat.toNat_digitChar_sub_48_of_lt_ten small]

theorem decimalsLarge {n : Nat} (large : 10 ≤ n) :
    decimals n = decimals (n / 10) ++ [n % 10] := by
  have last : n % 10 < 10 := Nat.mod_lt n (by decide)
  rw [decimals, Nat.toDigits_of_base_le (by decide) large, List.map_append, List.map_singleton,
    Nat.toNat_digitChar_sub_48_of_lt_ten last]
  rfl

theorem decimalsDigits (n : Nat) : AreDigits (decimals n) := by
  induction n using Nat.strongRecOn with
  | ind n ih =>
    by_cases small : n < 10
    · rw [decimalsSmall small]
      exact ⟨by simp, by simpa using small⟩
    · have last : n % 10 < 10 := Nat.mod_lt n (by decide)
      obtain ⟨-, first⟩ := ih (n / 10) (by omega)
      rw [decimalsLarge (Nat.le_of_not_lt small)]
      refine ⟨by simp, fun d member => ?_⟩
      rcases List.mem_append.mp member with early | late
      · exact first d early
      · rw [List.mem_singleton.mp late]
        exact last

theorem decimalsFirst {n : Nat} (positive : 0 < n) : ∃ d ds, decimals n = d :: ds ∧ d ≠ 0 := by
  induction n using Nat.strongRecOn with
  | ind n ih =>
    by_cases small : n < 10
    · exact ⟨n, [], decimalsSmall small, Nat.ne_of_gt positive⟩
    · obtain ⟨d, ds, same, other⟩ := ih (n / 10) (by omega) (by omega)
      refine ⟨d, ds ++ [n % 10], ?_, other⟩
      rw [decimalsLarge (Nat.le_of_not_lt small), same, List.cons_append]

theorem decimalsNoZero (n : Nat) : leadingZero (decimals n) = false := by
  cases n with
  | zero => rfl
  | succ n =>
    obtain ⟨d, ds, same, other⟩ := decimalsFirst (Nat.succ_pos n)
    rw [same]
    cases d with
    | zero => exact absurd rfl other
    | succ d => rfl

theorem decimalsValue (n : Nat) : ofDigits (decimals n) = n := by
  induction n using Nat.strongRecOn with
  | ind n ih =>
    by_cases small : n < 10
    · rw [decimalsSmall small]
      simp [ofDigits]
    · have first := ih (n / 10) (by omega)
      rw [decimalsLarge (Nat.le_of_not_lt small)]
      simp only [ofDigits, List.foldl_append, List.foldl_cons, List.foldl_nil] at first ⊢
      rw [first]
      omega

theorem printedSpells (i : Int) : Spells (ofInt i) (ofInt i).write := by
  have digits : (ofInt i).whole = decimals i.natAbs := rfl
  have spells : Spells (ofInt i) _ :=
    .intro (digits ▸ decimalsDigits i.natAbs) (digits ▸ decimalsNoZero i.natAbs) .none .none
  simpa [write, ofInt] using spells

theorem printedAscii (i : Int) : ∀ b ∈ (ofInt i).write, b < 128 := by
  have small : ∀ d < 10, digitByte d < 128 := by decide
  have digits (b : UInt8) (member : b ∈ (decimals i.natAbs).map digitByte) : b < 128 := by
    obtain ⟨d, among, rfl⟩ := List.mem_map.mp member
    exact small d ((decimalsDigits i.natAbs).2 d among)
  have written : (ofInt i).write =
      (if decide (i < 0) then [45] else []) ++ (decimals i.natAbs).map digitByte := by
    simp [write, ofInt, decimals]
  intro b member
  rw [written] at member
  rcases List.mem_append.mp member with sign | digit
  · split at sign
    · rw [List.mem_singleton.mp sign]
      decide
    · cases sign
  · exact digits b digit

theorem printedValue {k : Nat} (fits : k ≤ maxNatural) :
    (ofInt k).value? = some (.natural k) := by
  have whole : ofDigits (ofInt k).whole = k := decimalsValue k
  have positive : (ofInt k).negative = false := by simp [ofInt]
  have plain : (ofInt k).fraction = [] ∧ (ofInt k).exponent = none := ⟨rfl, rfl⟩
  simp [value?, whole, positive, plain, fits]

theorem printedNegative {i : Int} (below : i < 0) (fits : -(UInt64.size / 2 : Nat) ≤ i) :
    (ofInt i).value? = some (.negative i) := by
  have whole : ofDigits (ofInt i).whole = i.natAbs := decimalsValue i.natAbs
  have negative : (ofInt i).negative = true := by simp [ofInt, below]
  have plain : (ofInt i).fraction = [] ∧ (ofInt i).exponent = none := ⟨rfl, rfl⟩
  have room : 0 < i.natAbs ∧ i.natAbs ≤ UInt64.size / 2 := by omega
  have back : -(i.natAbs : Int) = i := by omega
  simp only [value?, whole, negative, plain, room, back]
  simp

end Numeral
end VideoPreview.Json
