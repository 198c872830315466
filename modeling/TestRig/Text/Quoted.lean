import TestRig.Text.Chars
import TestRig.Text.Category

/-!
Double-quoted text: a string written between double quotes, with the quote and the backslash
escaped, the usual control characters written as letter escapes, and every other character that
does not print written as a hexadecimal escape.
-/

namespace TestRig.Text

def isPrintable (c : Char) : Bool := isGraphic c

private def hexDigit (n : Nat) : Char :=
  if n < 10 then Char.ofNat (48 + n) else Char.ofNat (87 + n)

def hexDigits (width n : Nat) : List Char :=
  (List.range width).reverse.map fun i => hexDigit (n / Nat.pow 16 i % 16)

def quoteChar (c : Char) : List Char :=
  if c == '"' then ['\\', '"']
  else if c == '\\' then ['\\', '\\']
  else if isPrintable c then [c]
  else if c == '\x07' then ['\\', 'a']
  else if c == '\x08' then ['\\', 'b']
  else if c == '\x0c' then ['\\', 'f']
  else if c == '\n' then ['\\', 'n']
  else if c == '\r' then ['\\', 'r']
  else if c == '\t' then ['\\', 't']
  else if c == '\x0b' then ['\\', 'v']
  else if c.toNat < 0x80 then '\\' :: 'x' :: hexDigits 2 c.toNat
  else if c.toNat < 0x10000 then '\\' :: 'u' :: hexDigits 4 c.toNat
  else '\\' :: 'U' :: hexDigits 8 c.toNat

def quote (s : String) : String :=
  String.ofList ('"' :: (s.toList.flatMap quoteChar ++ ['"']))

end TestRig.Text
