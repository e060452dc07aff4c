import HomeHub.Text.Unprintable
import HomeHub.Text.Hex

/-!
Quotation of text in messages. What cannot be shown is written as an escape; in double quotes the
double quote is escaped, in single quotes the single quote.
-/

namespace HomeHub.Text

/-- A character as it stands inside the quotation marks `mark`. -/
def quotedChar (mark : Char) (c : Char) : List Char :=
  if c = mark ∨ c = '\\' then ['\\', c]
  else if c = '\n' then ['\\', 'n']
  else if c = '\r' then ['\\', 'r']
  else if c = '\t' then ['\\', 't']
  else if c.toNat = 0 then ['\\', '0']
  else if isUnprintable c then
    ['\\', 'u', '{'] ++ (Hex.digits c.toNat).map Hex.digitChar ++ ['}']
  else [c]

/-- A string in double quotes. -/
def quoted (s : String) : String :=
  String.ofList ('"' :: s.toList.flatMap (quotedChar '"') ++ ['"'])

/-- A character in single quotes. -/
def quotedLetter (c : Char) : String :=
  String.ofList ('\'' :: quotedChar '\'' c ++ ['\''])

end HomeHub.Text
