import RiggedScene.Text.Graphic

/-!
# Quoted text

Text between double quotes, on one line and with nothing invisible in it.

* `Quoted.escape` is how one character is written;
* `Quoted.write` puts a whole text between quotes.
-/

namespace RiggedScene

namespace Quoted

/-- How a character is written: quotes, backslashes and common control characters have short
escapes, and what is not graphic is written by its code. -/
def escape (c : Char) : List Char :=
  if c = '\x22' ∨ c = '\x5c' then ['\x5c', c]
  else if c = '\x00' then ['\x5c', '0']
  else if c = '\t' then ['\x5c', 't']
  else if c = '\n' then ['\x5c', 'n']
  else if c = '\r' then ['\x5c', 'r']
  else if Graphic.isGraphic c then [c]
  else ['\x5c', 'u', '\x7b'] ++ Nat.toDigits 16 c.toNat ++ ['\x7d']

/-- The text between quotes. -/
def write (s : String) : String :=
  String.ofList ('\x22' :: (s.toList.flatMap escape ++ ['\x22']))

end Quoted

end RiggedScene
