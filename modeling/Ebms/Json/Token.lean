import Ebms.Json.Number
import Ebms.Text.Glyph

/-!
# The tokens of a JSON text

A text is cut into brackets, braces, commas, colons and scalars by an automaton that looks at one
glyph at a time. It stops at the first glyph that continues no token, and marks the place. Blanks
between tokens leave no trace, so every layout of a value has the same tokens.

A string can be sound as a piece of text and still stand for no string: a surrogate may lack its
partner, and a byte may be part of no character. Such a string is garbled. It can be skipped but not
used.
-/

namespace Ebms.Json

open Ebms.Text (Glyph isDigit)

/-- A value without parts. -/
inductive Scalar where
  | null
  | bool (b : Bool)
  | number (n : Number)
  | str (s : String)
  | garbled
  deriving DecidableEq, Repr, Inhabited

/-- A piece of a JSON text; `junk` marks the place where a text stops making sense. -/
inductive Token where
  | arrayOpen
  | arrayClose
  | objectOpen
  | objectClose
  | comma
  | colon
  | scalar (value : Scalar)
  | junk
  deriving DecidableEq, Repr, Inhabited

/-- The part of a numeral that was read last. -/
inductive NumeralPart where
  | sign
  | zero
  | leadingZero
  | whole
  | point
  | fraction
  | exponentMark
  | exponentSign
  | exponent
  deriving DecidableEq, Repr, Inhabited

/-- The part that a glyph continues a numeral with, if it continues it. -/
def NumeralPart.next? (part : NumeralPart) (c : Char) : Option NumeralPart :=
  match part with
  | .sign => if c = '0' then some .zero else if isDigit c then some .whole else none
  | .zero =>
      if c = '.' then some .point
      else if c = 'e' ∨ c = 'E' then some .exponentMark
      else if isDigit c then some .leadingZero
      else none
  | .leadingZero => none
  | .whole =>
      if isDigit c then some .whole
      else if c = '.' then some .point
      else if c = 'e' ∨ c = 'E' then some .exponentMark
      else none
  | .point => if isDigit c then some .fraction else none
  | .fraction =>
      if isDigit c then some .fraction
      else if c = 'e' ∨ c = 'E' then some .exponentMark
      else none
  | .exponentMark =>
      if isDigit c then some .exponent
      else if c = '+' ∨ c = '-' then some .exponentSign
      else none
  | .exponentSign => if isDigit c then some .exponent else none
  | .exponent => if isDigit c then some .exponent else none

/-- The parts after which a numeral may end. -/
def NumeralPart.isComplete : NumeralPart → Bool
  | .zero | .whole | .fraction | .exponent => true
  | _ => false

/-- A string as far as it is read: its characters, last first, a leading surrogate that waits for
its partner, and whether something in it stands for no character. -/
structure Quoted where
  chars : List Char
  lead : Option Nat
  garbled : Bool
  deriving DecidableEq, Repr, Inhabited

/-- The string of which nothing is read yet. -/
def Quoted.empty : Quoted :=
  ⟨[], none, false⟩

/-- The string with one more character. -/
def Quoted.push (q : Quoted) (c : Char) : Quoted :=
  ⟨c :: q.chars, none, q.garbled || q.lead.isSome⟩

/-- The string with something in it that is no character. -/
def Quoted.spoil (q : Quoted) : Quoted :=
  { q with garbled := true }

/-- The string with one more sixteen-bit unit. -/
def Quoted.pushUnit (q : Quoted) (u : Nat) : Quoted :=
  if 0xDC00 ≤ u ∧ u ≤ 0xDFFF then
    match q.lead with
    | some high =>
        { (q.push (Char.ofNat (0x10000 + (high - 0xD800) * 0x400 + (u - 0xDC00)))) with
          garbled := q.garbled }
    | none => q.spoil
  else if 0xD800 ≤ u ∧ u ≤ 0xDBFF then
    ⟨q.chars, some u, q.garbled || q.lead.isSome⟩
  else q.push (Char.ofNat u)

/-- What the string stands for once its closing quote is read. -/
def Quoted.scalar (q : Quoted) : Scalar :=
  if q.garbled || q.lead.isSome then .garbled else .str (String.ofList q.chars.reverse)

/-- The character that an escape letter stands for. -/
def escaped? (c : Char) : Option Char :=
  if c = '"' ∨ c = '\\' ∨ c = '/' then some c
  else if c = 'b' then some (Char.ofNat 0x08)
  else if c = 'f' then some (Char.ofNat 0x0C)
  else if c = 'n' then some (Char.ofNat 0x0A)
  else if c = 'r' then some (Char.ofNat 0x0D)
  else if c = 't' then some (Char.ofNat 0x09)
  else none

/-- The number that a hexadecimal digit stands for. -/
def hexValue? (c : Char) : Option Nat :=
  if isDigit c then some (c.toNat - 48)
  else if 'a' ≤ c ∧ c ≤ 'f' then some (c.toNat - 87)
  else if 'A' ≤ c ∧ c ≤ 'F' then some (c.toNat - 55)
  else none

/-- Where the automaton stands: between tokens, in a word with some letters to come, in a numeral,
in a string, behind its backslash, or among the digits of an escaped unit. -/
inductive LexState where
  | between
  | word (letters : List Char) (value : Scalar)
  | numeral (part : NumeralPart) (text : List Char)
  | string (q : Quoted)
  | escape (q : Quoted)
  | unit (q : Quoted) (missing : Nat) (value : Nat)
  deriving Repr, Inhabited

/-- The step of the automaton on a glyph that starts a token: the tokens that are complete, and the
state to go on in, or none where the text makes no sense. -/
def start (g : Glyph) : List Token × Option LexState :=
  match g with
  | .stray => ([.junk], none)
  | .char c =>
      if c = ' ' ∨ c = '\n' ∨ c = '\t' ∨ c = '\r' then ([], some .between)
      else if c = '[' then ([.arrayOpen], some .between)
      else if c = ']' then ([.arrayClose], some .between)
      else if c = '\x7b' then ([.objectOpen], some .between)
      else if c = '\x7d' then ([.objectClose], some .between)
      else if c = ',' then ([.comma], some .between)
      else if c = ':' then ([.colon], some .between)
      else if c = '"' then ([], some (.string .empty))
      else if c = 'n' then ([], some (.word ['u', 'l', 'l'] .null))
      else if c = 't' then ([], some (.word ['r', 'u', 'e'] (.bool true)))
      else if c = 'f' then ([], some (.word ['a', 'l', 's', 'e'] (.bool false)))
      else if c = '-' then ([], some (.numeral .sign [c]))
      else if c = '0' then ([], some (.numeral .zero [c]))
      else if isDigit c then ([], some (.numeral .whole [c]))
      else ([.junk], none)

/-- The token of a numeral that ends here. -/
def numeralToken (part : NumeralPart) (text : List Char) : Token :=
  if part.isComplete then .scalar (.number (Numeral.ofChars text.reverse).number) else .junk

/-- The step of the automaton on one glyph. -/
def LexState.step (state : LexState) (g : Glyph) : List Token × Option LexState :=
  match state with
  | .between => start g
  | .word letters value =>
      match letters, g with
      | l :: ls, .char c =>
          if c = l then
            if ls.isEmpty then ([.scalar value], some .between) else ([], some (.word ls value))
          else ([.junk], none)
      | _, _ => ([.junk], none)
  | .numeral part text =>
      let ended : List Token × Option LexState :=
        if part.isComplete then
          (numeralToken part text :: (start g).1, (start g).2)
        else ([.junk], none)
      match g with
      | .stray => ended
      | .char c =>
          match part.next? c with
          | some part => ([], some (.numeral part (c :: text)))
          | none => ended
  | .string q =>
      match g with
      | .stray => ([], some (.string q.spoil))
      | .char c =>
          if c = '"' then ([.scalar q.scalar], some .between)
          else if c = '\\' then ([], some (.escape q))
          else if c.toNat < 0x20 then ([.junk], none)
          else ([], some (.string (q.push c)))
  | .escape q =>
      match g with
      | .stray => ([.junk], none)
      | .char c =>
          if c = 'u' then ([], some (.unit q 4 0))
          else
            match escaped? c with
            | some d => ([], some (.string (q.push d)))
            | none => ([.junk], none)
  | .unit q missing value =>
      match g with
      | .stray => ([.junk], none)
      | .char c =>
          match hexValue? c with
          | none => ([.junk], none)
          | some d =>
              if missing ≤ 1 then ([], some (.string (q.pushUnit (16 * value + d))))
              else ([], some (.unit q (missing - 1) (16 * value + d)))

/-- The tokens still owed when the text ends. -/
def LexState.finish : LexState → List Token
  | .between => []
  | .numeral part text => [numeralToken part text]
  | _ => [.junk]

/-- The tokens of the glyphs that follow a state. -/
def lex (state : LexState) : List Glyph → List Token
  | [] => state.finish
  | g :: gs =>
      match state.step g with
      | (tokens, some next) => tokens ++ lex next gs
      | (tokens, none) => tokens

/-- The tokens of a run of glyphs. -/
def tokens (glyphs : List Glyph) : List Token :=
  lex .between glyphs

end Ebms.Json
