import SlotTalk.Text.Printable

namespace SlotTalk

/-!
# Quoted text

* `Text.quote` — a text between double quotes, in which every character shows: quotes and
  backslashes are escaped, the common controls have letters, and whatever does not show or would
  join the quote before it is written as its code in braces.
-/

namespace Text

/-- The code of a character in lower-case hexadecimal digits. -/
def hexCode (n : Nat) : String := String.ofList (Nat.toDigits 16 n)

/-- How one character is written between quotes. -/
def quoteChar (c : Char) : String :=
  if c = Char.ofNat 0 then "\\0"
  else if c = '\t' then "\\t"
  else if c = '\n' then "\\n"
  else if c = '\r' then "\\r"
  else if c = '"' || c = '\\' then String.ofList ['\\', c]
  else if isPrintable c && !isExtending c then String.singleton c
  else "\\u\x7b" ++ hexCode c.toNat ++ "\x7d"

/-- The text between double quotes. -/
def quote (text : String) : String :=
  "\"" ++ String.join (text.toList.map quoteChar) ++ "\""

end Text

end SlotTalk
