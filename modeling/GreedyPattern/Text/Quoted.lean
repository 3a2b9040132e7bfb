import GreedyPattern.Text.Basic
import GreedyPattern.Unicode.DefaultIgnorable
import GreedyPattern.Unicode.GraphemeExtend
import GreedyPattern.Unicode.Unprintable

/-!
# Quoted text

How text is shown inside a listing: between double quotes, each character
either as itself or escaped, so that no character can end the quotation, break
the line or merge with its neighbour. Lists stand in square brackets, their
items separated by a comma and a space.
-/

namespace GreedyPattern.Text

/-- A reader would not see the character, or not see it apart from its neighbour. The halfwidth
sound marks U+FF9E and U+FF9F extend a grapheme, but fill a cell of their own. -/
def isHidden (c : Char) : Bool :=
  Unicode.isUnprintable c || Unicode.isDefaultIgnorable c ||
    Unicode.isGraphemeExtend c && c != '\uff9e' && c != '\uff9f'

/-- The character by its number, in lowercase hexadecimal between braces. -/
def numberEscape (c : Char) : Text :=
  ['\\', 'u', '{'] ++ Nat.toDigits 16 c.toNat ++ ['}']

/-- One character between double quotes. -/
def quotedChar (c : Char) : Text :=
  match c with
  | '"' => ['\\', '"']
  | '\\' => ['\\', '\\']
  | '\t' => ['\\', 't']
  | '\r' => ['\\', 'r']
  | '\n' => ['\\', 'n']
  | '\x00' => ['\\', '0']
  | c => if isHidden c then numberEscape c else [c]

def quoted (t : Text) : Text :=
  '"' :: t.flatMap quotedChar ++ ['"']

/-- Items between square brackets. -/
def bracketed (items : List Text) : Text :=
  '[' :: [',', ' '].intercalate items ++ [']']

def quotedList (items : List Text) : Text :=
  bracketed (items.map quoted)

end GreedyPattern.Text
