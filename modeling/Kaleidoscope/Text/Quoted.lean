import Kaleidoscope.Text.Printable

/-!
Text between double quotes, with a backslash before the quote and the backslash itself, short
escapes for the common controls, and the number of any other character that is not printable.
-/

namespace Kaleidoscope.Quoted

def escape (c : Char) : List Char :=
  if c = '"' || c = '\\' then ['\\', c]
  else if c = '\n' then ['\\', 'n']
  else if c = '\r' then ['\\', 'r']
  else if c = '\t' then ['\\', 't']
  else if c.toNat = 0 then ['\\', '0']
  else if isPrintable c then [c]
  else ['\\', 'u', '\x7b'] ++ Nat.toDigits 16 c.toNat ++ ['\x7d']

def encode (text : String) : String :=
  String.ofList ('"' :: text.toList.flatMap escape ++ ['"'])

end Kaleidoscope.Quoted
