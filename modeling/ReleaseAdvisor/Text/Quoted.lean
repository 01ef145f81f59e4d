import ReleaseAdvisor.Text.Class

/-!
Text between quotes. Single quotes are used unless the text holds some and no double quote;
backslashes and the quote in use get a backslash, and what is not printable is written as an
escape.
-/

namespace ReleaseAdvisor.Text

def hexDigit (n : Nat) : Char :=
  if n < 10 then Char.ofNat (48 + n) else Char.ofNat (87 + n)

def hexDigits : Nat → Nat → List Char
  | 0, _ => []
  | width + 1, n => hexDigits width (n / 16) ++ [hexDigit (n % 16)]

def quoteChar (quote c : Char) : List Char :=
  if c == quote || c == '\\' then ['\\', c]
  else if c == '\n' then ['\\', 'n']
  else if c == '\r' then ['\\', 'r']
  else if c == '\t' then ['\\', 't']
  else if isPrintable c then [c]
  else if c.toNat < 0x100 then '\\' :: 'x' :: hexDigits 2 c.toNat
  else if c.toNat < 0x10000 then '\\' :: 'u' :: hexDigits 4 c.toNat
  else '\\' :: 'U' :: hexDigits 8 c.toNat

def quoteWith (quote : Char) (cs : List Char) : List Char :=
  quote :: cs.flatMap (quoteChar quote) ++ [quote]

def quoteChars (cs : List Char) : List Char :=
  quoteWith (if cs.contains '\'' && !cs.contains '"' then '"' else '\'') cs

def quoted (s : String) : String := String.ofList (quoteChars s.toList)

end ReleaseAdvisor.Text
