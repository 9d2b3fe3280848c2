import DrawStyle.Text.Markless

/-!
Quoted texts, as they stand in messages.

A text is put between double quotes. Quotes, backslashes and the common controls are written
with a backslash; a character that leaves no mark of its own is written by its number.
-/

namespace DrawStyle

namespace Text

def quotedChar (c : Char) : Text :=
  if c = '"' then ['\\', '"']
  else if c = '\\' then ['\\', '\\']
  else if c = '\n' then ['\\', 'n']
  else if c = '\r' then ['\\', 'r']
  else if c = '\t' then ['\\', 't']
  else if c = '\x00' then ['\\', '0']
  else if isMarkless c then ['\\', 'u', '\x7b'] ++ Nat.toDigits 16 c.toNat ++ ['\x7d']
  else [c]

def quoted (t : Text) : Text := '"' :: t.flatMap quotedChar ++ ['"']

end Text

end DrawStyle
