import VideoPreview.Text.Hexadecimal
import VideoPreview.Text.Shapeless

/-!
Text in quotation marks for diagnostics: printable characters stand for themselves, the usual
controls have a short escape, and everything without a shape of its own is written by its number.
-/
namespace VideoPreview.Text

def quotedChar (c : Char) : String :=
  if c = '"' then "\\\""
  else if c = '\\' then "\\\\"
  else if c = '\n' then "\\n"
  else if c = '\r' then "\\r"
  else if c = '\t' then "\\t"
  else if c.toNat = 0 then "\\0"
  else if c.toNat < 0x20 || c.toNat = 0x7f || (0x80 ≤ c.toNat && isShapeless c) then
    "\\u\x7b" ++ hexadecimal c.toNat ++ "\x7d"
  else c.toString

def quoted (s : String) : String :=
  "\"" ++ String.join (s.toList.map quotedChar) ++ "\""

end VideoPreview.Text
