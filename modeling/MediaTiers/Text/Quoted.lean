import MediaTiers.Text.Printable

/-! Quoted texts as messages show them: between single quotes, or between double quotes when the text
holds single quotes only, with escapes for what cannot be shown. -/
namespace MediaTiers.Text

def hexDigits (count n : Nat) : List Char :=
  match count with
  | 0 => []
  | count + 1 => hexDigits count (n / 16) ++ [Nat.digitChar (n % 16)]

def numberEscape (c : Char) : List Char :=
  if c.toNat < 0x100 then '\\' :: 'x' :: hexDigits 2 c.toNat
  else if c.toNat < 0x10000 then '\\' :: 'u' :: hexDigits 4 c.toNat
  else '\\' :: 'U' :: hexDigits 8 c.toNat

def quotedChar (quote c : Char) : List Char :=
  if c == quote || c == '\\' then ['\\', c]
  else if c == '\n' then ['\\', 'n']
  else if c == '\r' then ['\\', 'r']
  else if c == '\t' then ['\\', 't']
  else if isPrintable c then [c]
  else numberEscape c

/-- Double quotes enclose a text that holds single quotes only. -/
def quoteFor (cs : List Char) : Char :=
  if cs.contains '\'' && !cs.contains '"' then '"' else '\''

def quoted (s : String) : String :=
  let cs := s.toList
  let quote := quoteFor cs
  String.ofList (quote :: cs.flatMap (quotedChar quote) ++ [quote])

end MediaTiers.Text
