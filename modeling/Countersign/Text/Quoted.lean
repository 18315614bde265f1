import Countersign.Unicode.Graphic

/-!
# Texts in quotes

Error messages show names in double quotes and single characters in single quotes.  Quotes and
backslashes are escaped, the common controls have letters, and characters without a picture are
shown by number.
-/

namespace Countersign
namespace Quoted

/-- The digits of a number in base sixteen, lowercase and without leading zeros. -/
def hexDigits (value : Nat) : List Char :=
  Nat.toDigits 16 value

/-- One character inside quotes of the given kind. -/
def escape (quote character : Char) : List Char :=
  if character = quote ∨ character = '\\' then ['\\', character]
  else if character = '\n' then ['\\', 'n']
  else if character = '\r' then ['\\', 'r']
  else if character = '\t' then ['\\', 't']
  else if character = '\x00' then ['\\', '0']
  else if Graphic.isHidden character then
    ['\\', 'u', '\x7b'] ++ hexDigits character.toNat ++ ['\x7d']
  else [character]

/-- A text in double quotes. -/
def text (content : String) : String :=
  String.ofList ('"' :: content.toList.flatMap (escape '"') ++ ['"'])

/-- A character in single quotes. -/
def character (content : Char) : String :=
  String.ofList ('\'' :: escape '\'' content ++ ['\''])

end Quoted
end Countersign
