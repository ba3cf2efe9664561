import Ebms.Json.Value

/-!
# The text of a JSON value

A string is written between quotes; the quote, the backslash and the controls below U+0020 are
escaped, and every other character stands for itself. A layout says what blanks are put around
items and after colons. The compact layout puts none; the indented layout starts a line for every
item, two blanks deeper per level, and leaves empty arrays and objects on their line.
-/

namespace Ebms.Json

/-- The digits `0` to `f`. -/
def hexDigit (n : Nat) : Char :=
  (Nat.digitChar (n % 16))

/-- One character inside quotes. -/
def escape (c : Char) : List Char :=
  if c = '"' then ['\\', '"']
  else if c = '\\' then ['\\', '\\']
  else if c.toNat = 0x08 then ['\\', 'b']
  else if c.toNat = 0x09 then ['\\', 't']
  else if c.toNat = 0x0A then ['\\', 'n']
  else if c.toNat = 0x0C then ['\\', 'f']
  else if c.toNat = 0x0D then ['\\', 'r']
  else if c.toNat < 0x20 then
    ['\\', 'u', '0', '0', hexDigit (c.toNat / 16), hexDigit c.toNat]
  else [c]

/-- A string between quotes. -/
def quoted (s : String) : List Char :=
  '"' :: (s.toList.flatMap escape ++ ['"'])

/-- The blanks a layout puts into a text: before an item or a closing mark at some depth, and
after the colon of a member. -/
structure Layout where
  lineBreak : Nat → List Char
  afterColon : List Char

/-- No blanks at all. -/
def Layout.compact : Layout :=
  ⟨fun _ => [], []⟩

/-- A line for every item, two blanks deeper per level, and a blank after each colon. -/
def Layout.indented : Layout :=
  ⟨fun depth => '\n' :: List.replicate (2 * depth) ' ', [' ']⟩

mutual

/-- The characters of a value at some depth. -/
def write (layout : Layout) (depth : Nat) : Json → List Char
  | .null => ['n', 'u', 'l', 'l']
  | .bool true => ['t', 'r', 'u', 'e']
  | .bool false => ['f', 'a', 'l', 's', 'e']
  | .num n => Nat.toDigits 10 n.toNat
  | .str s => quoted s
  | .arr [] => ['[', ']']
  | .arr (item :: items) =>
      '[' :: (layout.lineBreak (depth + 1) ++ (write layout (depth + 1) item ++
        writeItems layout depth items))
  | .obj [] => ['\x7b', '\x7d']
  | .obj ((key, value) :: members) =>
      '\x7b' :: (layout.lineBreak (depth + 1) ++ (quoted key ++ ':' :: (layout.afterColon ++
        (write layout (depth + 1) value ++ writeMembers layout depth members))))

/-- The characters after the first item of an array, up to its closing bracket. -/
def writeItems (layout : Layout) (depth : Nat) : List Json → List Char
  | [] => layout.lineBreak depth ++ [']']
  | item :: items =>
      ',' :: (layout.lineBreak (depth + 1) ++ (write layout (depth + 1) item ++
        writeItems layout depth items))

/-- The characters after the first member of an object, up to its closing brace. -/
def writeMembers (layout : Layout) (depth : Nat) : List (String × Json) → List Char
  | [] => layout.lineBreak depth ++ ['\x7d']
  | (key, value) :: members =>
      ',' :: (layout.lineBreak (depth + 1) ++ (quoted key ++ ':' :: (layout.afterColon ++
        (write layout (depth + 1) value ++ writeMembers layout depth members))))

end

/-- The text of a value without blanks. -/
def compact (value : Json) : String :=
  String.ofList (write .compact 0 value)

/-- The text of a value with one item a line. -/
def indented (value : Json) : String :=
  String.ofList (write .indented 0 value)

end Ebms.Json
