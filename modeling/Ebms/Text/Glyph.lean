/-!
# The characters of a text and of a run of bytes

A stored document is a run of bytes that may be no UTF-8 text at all. It is read as glyphs: each
well-formed sequence is one character, each byte that belongs to none is a stray. A text is the
special case without strays, so one reader serves texts and files.
-/

namespace Ebms.Text

/-- A character, or a byte that is part of none. -/
inductive Glyph where
  | char (c : Char)
  | stray
  deriving DecidableEq, Repr, Inhabited

/-- The glyphs of a text are its characters. -/
def Glyph.ofText (s : String) : List Glyph :=
  s.toList.map Glyph.char

/-- The glyphs found from position `i` on, taking the character that starts there if there is one
and a stray byte otherwise. -/
def Glyph.scan (bytes : ByteArray) (i : Nat) : List Glyph :=
  if i < bytes.size then
    match bytes.utf8DecodeChar? i with
    | some c => .char c :: scan bytes (i + c.utf8Size)
    | none => .stray :: scan bytes (i + 1)
  else
    []
  termination_by bytes.size - i
  decreasing_by
    · have := c.utf8Size_pos
      omega
    · omega

/-- The glyphs of a run of bytes; bytes that form a text have the glyphs of that text. -/
def Glyph.ofBytes (bytes : ByteArray) : List Glyph :=
  match String.fromUTF8? bytes with
  | some s => ofText s
  | none => scan bytes 0

end Ebms.Text
