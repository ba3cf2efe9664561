import Ebms.Text.Visible

/-!
# Texts between quotes, for people

A text is shown between quotes with everything escaped that does not show by itself: quotes,
backslashes, controls, and whatever has no glyph of its own. Such a character is shown by a letter
if it has one, and otherwise by its number.
-/

namespace Ebms.Text

/-- The letters behind a backslash that stand for some controls. -/
def controlLetter? (c : Char) : Option Char :=
  if c = '\t' then some 't'
  else if c = '\n' then some 'n'
  else if c = '\r' then some 'r'
  else if c.toNat = 0 then some '0'
  else none

/-- One character of a text that is shown. -/
def literalChar (c : Char) : List Char :=
  if c = '"' ∨ c = '\\' then ['\\', c]
  else
    match controlLetter? c with
    | some letter => ['\\', letter]
    | none =>
        if isVisible c then [c]
        else ['\\', 'u', '\x7b'] ++ Nat.toDigits 16 c.toNat ++ ['\x7d']

/-- A text between quotes. -/
def literal (s : String) : String :=
  String.ofList ('"' :: (s.toList.flatMap literalChar ++ ['"']))

end Ebms.Text
