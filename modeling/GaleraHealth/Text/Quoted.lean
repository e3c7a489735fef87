import GaleraHealth.Text.Printable

/-!
# Quoted text in messages

Messages show a foreign text between double quotes. Quotes, backslashes and the common controls
are written with a backslash; characters that cannot be seen on their own are written by number.
-/

namespace GaleraHealth.Text

def quotedChar (c : Char) : String :=
  if c = '\x00' then "\\0"
  else if c = '\t' then "\\t"
  else if c = '\r' then "\\r"
  else if c = '\n' then "\\n"
  else if c = '"' then "\\\""
  else if c = '\\' then "\\\\"
  else if isCombining c || isHidden c then
    "\\u\x7b" ++ String.ofList (Nat.toDigits 16 c.toNat) ++ "\x7d"
  else String.singleton c

def quoted (s : String) : String :=
  "\"" ++ String.join (s.toList.map quotedChar) ++ "\""

end GaleraHealth.Text
