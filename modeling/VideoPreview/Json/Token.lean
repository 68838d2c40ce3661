import VideoPreview.Json.Numeral

/-!
The tokens of a JSON text. A text that goes wrong somewhere still has the tokens before that place,
so that a reader can be stopped by an earlier fault of another kind.
-/
namespace VideoPreview.Json

inductive Token where
  | openBracket
  | closeBracket
  | openBrace
  | closeBrace
  | comma
  | colon
  | null
  | bool (b : Bool)
  | number (n : Numeral)
  | string (s : Spelling)
  deriving DecidableEq, Repr

namespace Token

def isSpace (b : UInt8) : Bool := b == 32 || b == 9 || b == 10 || b == 13

def scanWord (word : Bytes) (t : Token) (raw : Bytes) : Option (Token × Bytes) :=
  if word.isPrefixOf raw then some (t, raw.drop word.length) else none

def scan (b : UInt8) (rest : Bytes) : Option (Token × Bytes) :=
  if b = 91 then some (openBracket, rest)
  else if b = 93 then some (closeBracket, rest)
  else if b = 123 then some (openBrace, rest)
  else if b = 125 then some (closeBrace, rest)
  else if b = 44 then some (comma, rest)
  else if b = 58 then some (colon, rest)
  else if b = 110 then scanWord [117, 108, 108] null rest
  else if b = 116 then scanWord [114, 117, 101] (bool true) rest
  else if b = 102 then scanWord [97, 108, 115, 101] (bool false) rest
  else if b = 34 then (Spelling.scan rest).map fun r => (string r.1, r.2)
  else (Numeral.scan (b :: rest)).map fun r => (number r.1, r.2)

theorem scanWordLength {word raw : Bytes} {t : Token} {r} (h : scanWord word t raw = some r) :
    r.2.length ≤ raw.length := by
  unfold scanWord at h
  split at h
  · cases h; simp
  · contradiction

theorem scanLength {b : UInt8} {rest : Bytes} {r} (h : scan b rest = some r) :
    r.2.length ≤ rest.length := by
  unfold scan at h
  repeat' split at h
  all_goals first
    | (cases h; exact Nat.le_refl _)
    | exact scanWordLength h
    | skip
  · obtain ⟨⟨s, tail⟩, found, rfl⟩ := Option.map_eq_some_iff.1 h
    exact Nat.le_of_lt (Spelling.scanShorter found)
  · obtain ⟨s, found, rfl⟩ := Option.map_eq_some_iff.1 h
    have := Numeral.scanShorter found
    simp only [List.length_cons] at this
    exact Nat.le_of_lt_succ this

end Token

structure Lexed where
  tokens : List Token
  complete : Bool

def Lexed.ofBytes : Bytes → Lexed
  | [] => ⟨[], true⟩
  | b :: rest =>
    if Token.isSpace b then ofBytes rest
    else
      match _found : Token.scan b rest with
      | none => ⟨[], false⟩
      | some r =>
        let tail := ofBytes r.2
        ⟨r.1 :: tail.tokens, tail.complete⟩
termination_by raw => raw.length
decreasing_by
  · simp
  · have := Token.scanLength _found
    simp only [List.length_cons]
    omega

namespace Token

def write : Token → Bytes
  | openBracket => [91]
  | closeBracket => [93]
  | openBrace => [123]
  | closeBrace => [125]
  | comma => [44]
  | colon => [58]
  | null => [110, 117, 108, 108]
  | bool true => [116, 114, 117, 101]
  | bool false => [102, 97, 108, 115, 101]
  | number n => n.write
  | string s => s.write

end Token
end VideoPreview.Json
