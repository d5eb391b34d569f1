import ServerUi.Text.Hex
import ServerUi.Text.Printable

/-! Quoted text. Single quotes stand around it, double ones if it holds a single quote and no
double one; the quote in use, the backslash and what is not printable are escaped. -/

namespace ServerUi

def quoteFor (cs : List Char) : Char :=
  if cs.contains '\'' && !cs.contains '"' then '"' else '\''

/-- An unprintable character by its number, in as few of two, four or eight digits as it needs. -/
def numbered (c : Char) : List Char :=
  let n := c.toNat
  if n < 0x100 then '\\' :: 'x' :: hexDigits 'a' 2 n
  else if n < 0x10000 then '\\' :: 'u' :: hexDigits 'a' 4 n
  else '\\' :: 'U' :: hexDigits 'a' 8 n

def quotedChar (quote c : Char) : List Char :=
  if c = quote ∨ c = '\\' then ['\\', c]
  else if c = '\n' then ['\\', 'n']
  else if c = '\r' then ['\\', 'r']
  else if c = '\t' then ['\\', 't']
  else if ' ' ≤ c ∧ c ≤ '~' then [c]
  else if isPrintable c then [c]
  else numbered c

def quotedChars (cs : List Char) : List Char :=
  let quote := quoteFor cs
  quote :: cs.flatMap (quotedChar quote) ++ [quote]

def quoted (s : String) : String := String.ofList (quotedChars s.toList)

end ServerUi
