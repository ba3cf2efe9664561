import Ebms.Json.Token
import Ebms.Json.Written
import Ebms.Proofs.Decimal
import Mathlib.Data.List.TakeWhile

/-!
# The tokens of a written value

Whatever blanks a layout puts between them, the tokens of a written text are the brackets, commas,
colons and scalars of the value, in order. A string comes back because its quotes, backslashes and
controls are escaped; a number comes back because no layout lets a digit follow it.
-/

namespace Ebms.Json

open Ebms.Text (Glyph isDigit digitsValue)

mutual

/-- The tokens of a value. -/
def Token.ofJson : Json → List Token
  | .null => [.scalar .null]
  | .bool b => [.scalar (.bool b)]
  | .num n => [.scalar (.number (.int n.toNat))]
  | .str s => [.scalar (.str s)]
  | .arr [] => [.arrayOpen, .arrayClose]
  | .arr (item :: items) => .arrayOpen :: (ofJson item ++ ofItems items)
  | .obj [] => [.objectOpen, .objectClose]
  | .obj ((key, value) :: members) =>
      .objectOpen :: .scalar (.str key) :: .colon :: (ofJson value ++ ofMembers members)

/-- The tokens after the first item of an array, up to its closing bracket. -/
def Token.ofItems : List Json → List Token
  | [] => [.arrayClose]
  | item :: items => .comma :: (ofJson item ++ ofItems items)

/-- The tokens after the first member of an object, up to its closing brace. -/
def Token.ofMembers : List (String × Json) → List Token
  | [] => [.objectClose]
  | (key, value) :: members =>
      .comma :: .scalar (.str key) :: .colon :: (ofJson value ++ ofMembers members)

end

/-- The tokens of the characters that follow a state. -/
def lexChars (state : LexState) (cs : List Char) : List Token :=
  lex state (cs.map Glyph.char)

/-- A step that goes on leaves its tokens in front of those of the other characters. -/
theorem lexChars_cons {state next : LexState} {c : Char} {tokens : List Token}
    (h : state.step (.char c) = (tokens, some next)) (cs : List Char) :
    lexChars state (c :: cs) = tokens ++ lexChars next cs := by
  rw [lexChars, List.map_cons, lex, h]
  rfl

/-- The characters that may stand between two tokens. -/
def IsBetween (c : Char) : Prop :=
  c = ' ' ∨ c = '\n' ∨ c = '\t' ∨ c = '\r'

/-- What stands between two tokens leaves no trace. -/
theorem lexChars_blanks {blanks : List Char} (h : ∀ c ∈ blanks, IsBetween c) (cs : List Char) :
    lexChars .between (blanks ++ cs) = lexChars .between cs := by
  induction blanks with
  | nil => rfl
  | cons c blanks ih =>
    have hstep : LexState.step .between (.char c) = ([], some .between) := by
      obtain rfl | rfl | rfl | rfl := h c List.mem_cons_self <;> rfl
    rw [List.cons_append, lexChars_cons hstep, List.nil_append,
      ih fun d hd => h d (List.mem_cons_of_mem _ hd)]

/-- A mark that is a token of its own leaves that token. -/
theorem lexChars_mark {c : Char} {token : Token}
    (h : LexState.step .between (.char c) = ([token], some .between)) (cs : List Char) :
    lexChars .between (c :: cs) = token :: lexChars .between cs :=
  lexChars_cons h cs

/-- A bracket opens an array. -/
theorem lexChars_arrayOpen (cs : List Char) :
    lexChars .between ('[' :: cs) = .arrayOpen :: lexChars .between cs :=
  lexChars_mark rfl cs

/-- A brace opens an object. -/
theorem lexChars_objectOpen (cs : List Char) :
    lexChars .between ('\x7b' :: cs) = .objectOpen :: lexChars .between cs :=
  lexChars_mark rfl cs

/-- A comma stands for itself. -/
theorem lexChars_comma (cs : List Char) :
    lexChars .between (',' :: cs) = .comma :: lexChars .between cs :=
  lexChars_mark rfl cs

/-- A colon stands for itself. -/
theorem lexChars_colon (cs : List Char) :
    lexChars .between (':' :: cs) = .colon :: lexChars .between cs :=
  lexChars_mark rfl cs

/-! ## Strings -/

/-- A string of which some characters are read, the last one first, and nothing is wrong. -/
def Quoted.ofChars (chars : List Char) : Quoted :=
  ⟨chars, none, false⟩

/-- The value of a hexadecimal digit is the number it is the digit of. -/
theorem hexValue?_hexDigit (n : Nat) : hexValue? (hexDigit n) = some (n % 16) := by
  have hall : ∀ m : Fin 16, hexValue? (Nat.digitChar m) = some m.val := by decide
  exact hall ⟨n % 16, Nat.mod_lt n (by decide)⟩

/-- A control that is written with its number is read as itself. -/
theorem lexChars_unit {c : Char} (h : c.toNat < 0x20) (chars cs : List Char) :
    lexChars (.unit (.ofChars chars) 4 0)
        ('0' :: '0' :: hexDigit (c.toNat / 16) :: hexDigit c.toNat :: cs) =
      lexChars (.string (.ofChars (c :: chars))) cs := by
  have hzero : hexValue? '0' = some 0 := by decide
  have hunit : (Quoted.ofChars chars).pushUnit c.toNat = .ofChars (c :: chars) := by
    rw [Quoted.pushUnit, if_neg (by omega), if_neg (by omega), Char.ofNat_toNat]
    rfl
  rw [lexChars_cons (by rw [LexState.step, hzero]; rfl),
    lexChars_cons (by rw [LexState.step, hzero]; rfl),
    lexChars_cons (by rw [LexState.step, hexValue?_hexDigit]; rfl),
    lexChars_cons (by rw [LexState.step, hexValue?_hexDigit]; rfl)]
  have hvalue : 16 * (16 * (16 * (16 * 0 + 0) + 0) + c.toNat / 16 % 16) + c.toNat % 16 =
      c.toNat := by
    omega
  rw [hvalue, hunit]
  rfl

/-- An escaped character is read as itself. -/
theorem lexChars_escape (c : Char) (chars cs : List Char) :
    lexChars (.string (.ofChars chars)) (escape c ++ cs) =
      lexChars (.string (.ofChars (c :: chars))) cs := by
  have hcontrol {n : Nat} (h : c.toNat = n) : c = Char.ofNat n := by
    rw [← h, Char.ofNat_toNat]
  unfold escape
  split
  · rename_i h
    subst h
    rfl
  split
  · rename_i h
    subst h
    rfl
  split
  · rename_i h
    rw [hcontrol h]
    rfl
  split
  · rename_i h
    rw [hcontrol h]
    rfl
  split
  · rename_i h
    rw [hcontrol h]
    rfl
  split
  · rename_i h
    rw [hcontrol h]
    rfl
  split
  · rename_i h
    rw [hcontrol h]
    rfl
  split
  · rename_i h
    exact lexChars_unit h chars cs
  · rename_i hquote hbackslash _ _ _ _ _ hplain
    have hstep : LexState.step (.string (.ofChars chars)) (.char c) =
        ([], some (.string (.ofChars (c :: chars)))) := by
      rw [LexState.step, if_neg hquote, if_neg hbackslash, if_neg hplain]
      rfl
    rw [List.singleton_append, lexChars_cons hstep, List.nil_append]

/-- Escaped characters up to a closing quote are read as a string. -/
theorem lexChars_escapes (text chars cs : List Char) :
    lexChars (.string (.ofChars chars)) (text.flatMap escape ++ '"' :: cs) =
      .scalar (.str (String.ofList (chars.reverse ++ text))) :: lexChars .between cs := by
  induction text generalizing chars with
  | nil =>
    rw [List.append_nil]
    rfl
  | cons c text ih =>
    rw [List.flatMap_cons, List.append_assoc, lexChars_escape, ih, List.reverse_cons,
      List.append_assoc, List.singleton_append]

/-- A string between quotes is read as itself. -/
theorem lexChars_quoted (s : String) (cs : List Char) :
    lexChars .between (quoted s ++ cs) = .scalar (.str s) :: lexChars .between cs := by
  have hquote : LexState.step .between (.char '"') = ([], some (.string (.ofChars []))) := rfl
  rw [quoted, List.cons_append, List.append_assoc, List.singleton_append, lexChars_cons hquote,
    List.nil_append, lexChars_escapes, List.reverse_nil, List.nil_append, String.ofList_toList]

/-! ## Numbers -/

/-- Whether some numeral goes on with a character. -/
def continuesNumeral (c : Char) : Bool :=
  isDigit c || c == '.' || c == 'e' || c == 'E'

/-- No numeral goes on with these characters. -/
def EndsNumeral (cs : List Char) : Prop :=
  ∀ c ∈ cs.head?, continuesNumeral c = false

/-- A numeral that may end does so where the characters do not go on with it. -/
theorem lexChars_numeral {part : NumeralPart} (hpart : part = .zero ∨ part = .whole)
    (text : List Char) {cs : List Char} (h : EndsNumeral cs) :
    lexChars (.numeral part text) cs =
      .scalar (.number (Numeral.ofChars text.reverse).number) :: lexChars .between cs := by
  have hcomplete : part.isComplete = true := by
    obtain rfl | rfl := hpart <;> rfl
  have htoken : numeralToken part text =
      .scalar (.number (Numeral.ofChars text.reverse).number) := by
    rw [numeralToken, if_pos hcomplete]
  cases cs with
  | nil => exact congrArg (· :: []) htoken
  | cons c cs =>
    have hend := h c rfl
    simp only [continuesNumeral, Bool.or_eq_false_iff, beq_eq_false_iff_ne] at hend
    have hnext : part.next? c = none := by
      obtain rfl | rfl := hpart <;> simp [NumeralPart.next?, hend]
    have hstep : LexState.step (.numeral part text) (.char c) =
        (numeralToken part text :: (start (.char c)).1, (start (.char c)).2) := by
      simp only [LexState.step, hnext, hcomplete, if_true]
    rw [lexChars, List.map_cons, lex, hstep, htoken, lexChars, List.map_cons, lex, LexState.step]
    obtain ⟨tokens, next⟩ := start (.char c)
    cases next <;> rfl

/-- Digits go on with a numeral, and it ends where they do. -/
theorem lexChars_digits {digits : List Char} (hdigits : ∀ c ∈ digits, isDigit c = true)
    (text : List Char) {cs : List Char} (h : EndsNumeral cs) :
    lexChars (.numeral .whole text) (digits ++ cs) =
      .scalar (.number (Numeral.ofChars (text.reverse ++ digits)).number) ::
        lexChars .between cs := by
  induction digits generalizing text with
  | nil =>
    rw [List.append_nil]
    exact lexChars_numeral (.inr rfl) text h
  | cons d digits ih =>
    have hstep : LexState.step (.numeral .whole text) (.char d) =
        ([], some (.numeral .whole (d :: text))) := by
      simp [LexState.step, NumeralPart.next?, hdigits d List.mem_cons_self]
    rw [List.cons_append, lexChars_cons hstep, List.nil_append,
      ih fun c hc => hdigits c (List.mem_cons_of_mem _ hc)]
    simp

/-- A numeral that is made of digits only is all whole part. -/
theorem ofChars_digits {digits : List Char} (hdigits : ∀ c ∈ digits, isDigit c = true) :
    Numeral.ofChars digits = ⟨false, digits, [], 0, true⟩ := by
  have hsign : (digits.head? == some '-') = false := by
    cases digits with
    | nil => rfl
    | cons d digits =>
      have hd := hdigits d List.mem_cons_self
      simp only [List.head?_cons, beq_eq_false_iff_ne, ne_eq, Option.some.injEq]
      rintro rfl
      exact absurd hd (by decide)
  have hwhole : digits.takeWhile isDigit = digits := List.takeWhile_eq_self_iff.mpr hdigits
  have hrest : digits.dropWhile isDigit = [] := List.dropWhile_eq_nil_iff.mpr hdigits
  simp [Numeral.ofChars, hsign, hwhole, hrest, digitsValue]

/-- The digits of a number that 64 bits hold stand for it. -/
theorem number_toDigits (n : UInt64) :
    (Numeral.ofChars (Nat.toDigits 10 n.toNat)).number = .int n.toNat := by
  rw [ofChars_digits fun c hc => Text.isDigit_of_mem_toDigits hc, Numeral.number]
  simp [n.toNat_lt_size]

/-- A digit that is not zero starts a numeral. -/
theorem start_digit {d : Char} (hdigit : isDigit d = true) (hzero : d ≠ '0') :
    start (.char d) = ([], some (.numeral .whole [d])) := by
  have hne {c : Char} (hc : isDigit c = false) : d ≠ c := by
    rintro rfl
    rw [hdigit] at hc
    cases hc
  have hbetween : ¬(d = ' ' ∨ d = '\n' ∨ d = '\t' ∨ d = '\r') := by
    rintro (rfl | rfl | rfl | rfl) <;> exact absurd hdigit (by decide)
  rw [start, if_neg hbetween]
  simp only [hne (by decide : isDigit '[' = false), hne (by decide : isDigit ']' = false),
    hne (by decide : isDigit '\x7b' = false), hne (by decide : isDigit '\x7d' = false),
    hne (by decide : isDigit ',' = false), hne (by decide : isDigit ':' = false),
    hne (by decide : isDigit '"' = false), hne (by decide : isDigit 'n' = false),
    hne (by decide : isDigit 't' = false), hne (by decide : isDigit 'f' = false),
    hne (by decide : isDigit '-' = false), hzero, hdigit, if_false, if_true]

/-- A number is read as itself where nothing goes on with it. -/
theorem lexChars_num (n : UInt64) {cs : List Char} (h : EndsNumeral cs) :
    lexChars .between (Nat.toDigits 10 n.toNat ++ cs) =
      .scalar (.number (.int n.toNat)) :: lexChars .between cs := by
  rw [← number_toDigits]
  obtain hzero | hpos := Nat.eq_zero_or_pos n.toNat
  · rw [hzero]
    exact lexChars_numeral (.inl rfl) ['0'] h
  · obtain ⟨d, ds, hds, hd⟩ := Text.toDigits_eq_cons hpos
    have hdigits : ∀ c ∈ d :: ds, isDigit c = true := by
      intro c hc
      rw [← hds] at hc
      exact Text.isDigit_of_mem_toDigits hc
    have hstep : LexState.step .between (.char d) = ([], some (.numeral .whole [d])) :=
      start_digit (hdigits d List.mem_cons_self) hd
    rw [hds, List.cons_append, lexChars_cons hstep, List.nil_append,
      lexChars_digits (fun c hc => hdigits c (List.mem_cons_of_mem _ hc)) [d] h]
    rfl

/-! ## Values -/

/-- A layout puts nothing but blanks into a text. -/
structure Layout.Blank (layout : Layout) : Prop where
  lineBreak : ∀ depth, ∀ c ∈ layout.lineBreak depth, IsBetween c
  afterColon : ∀ c ∈ layout.afterColon, IsBetween c

/-- No blanks are blanks. -/
theorem Layout.blank_compact : Layout.compact.Blank where
  lineBreak _ _ hc := absurd hc List.not_mem_nil
  afterColon _ hc := absurd hc List.not_mem_nil

/-- The indented layout breaks lines and puts spaces. -/
theorem Layout.blank_indented : Layout.indented.Blank where
  lineBreak depth c hc := by
    obtain rfl | hc := List.mem_cons.mp hc
    · exact .inr (.inl rfl)
    · exact .inl (List.eq_of_mem_replicate hc)
  afterColon c hc := .inl (List.mem_singleton.mp hc)

/-- No numeral goes on with a mark that is part of no numeral. -/
theorem endsNumeral_cons {mark : Char} (hmark : continuesNumeral mark = false) (cs : List Char) :
    EndsNumeral (mark :: cs) := by
  intro c hc
  obtain rfl := Option.some.inj hc
  exact hmark

/-- No numeral goes on with blanks and then a mark that is part of no numeral. -/
theorem endsNumeral_blanks {blanks : List Char} (hblanks : ∀ c ∈ blanks, IsBetween c) {mark : Char}
    (hmark : continuesNumeral mark = false) (cs : List Char) :
    EndsNumeral (blanks ++ mark :: cs) := by
  cases blanks with
  | nil => exact endsNumeral_cons hmark cs
  | cons blank blanks =>
    apply endsNumeral_cons
    obtain rfl | rfl | rfl | rfl := hblanks blank List.mem_cons_self <;> decide

section Values

variable {layout : Layout} (hlayout : layout.Blank)
include hlayout

/-- No numeral goes on with what follows an item. -/
theorem endsNumeral_writeItems (depth : Nat) (items : List Json) (cs : List Char) :
    EndsNumeral (writeItems layout depth items ++ cs) := by
  cases items with
  | nil =>
    rw [writeItems, List.append_assoc]
    exact endsNumeral_blanks (hlayout.lineBreak depth) (by decide) cs
  | cons item items =>
    rw [writeItems]
    exact endsNumeral_cons (by decide) _

/-- No numeral goes on with what follows a member. -/
theorem endsNumeral_writeMembers (depth : Nat) (members : List (String × Json)) (cs : List Char) :
    EndsNumeral (writeMembers layout depth members ++ cs) := by
  cases members with
  | nil =>
    rw [writeMembers, List.append_assoc]
    exact endsNumeral_blanks (hlayout.lineBreak depth) (by decide) cs
  | cons member members =>
    obtain ⟨key, value⟩ := member
    rw [writeMembers]
    exact endsNumeral_cons (by decide) _

mutual

/-- The text of a value is read as its tokens where no numeral goes on behind it. -/
theorem lexChars_write (depth : Nat) (value : Json) {cs : List Char} (h : EndsNumeral cs) :
    lexChars .between (write layout depth value ++ cs) =
      Token.ofJson value ++ lexChars .between cs := by
  match value with
  | .null => rfl
  | .bool true => rfl
  | .bool false => rfl
  | .num n => exact lexChars_num n h
  | .str s => exact lexChars_quoted s cs
  | .arr [] => rfl
  | .arr (item :: items) =>
    simp only [write, List.cons_append, List.append_assoc]
    rw [lexChars_arrayOpen, lexChars_blanks (hlayout.lineBreak _),
      lexChars_write _ item (endsNumeral_writeItems hlayout _ items cs), lexChars_writeItems]
    simp only [Token.ofJson, List.cons_append, List.append_assoc]
  | .obj [] => rfl
  | .obj ((key, value) :: members) =>
    simp only [write, List.cons_append, List.append_assoc]
    rw [lexChars_objectOpen, lexChars_blanks (hlayout.lineBreak _), lexChars_quoted, lexChars_colon,
      lexChars_blanks hlayout.afterColon,
      lexChars_write _ value (endsNumeral_writeMembers hlayout _ members cs), lexChars_writeMembers]
    simp only [Token.ofJson, List.cons_append, List.append_assoc]

/-- The text behind the first item of an array is read as its tokens. -/
theorem lexChars_writeItems (depth : Nat) (items : List Json) (cs : List Char) :
    lexChars .between (writeItems layout depth items ++ cs) =
      Token.ofItems items ++ lexChars .between cs := by
  match items with
  | [] =>
    rw [writeItems, List.append_assoc, lexChars_blanks (hlayout.lineBreak _)]
    rfl
  | item :: items =>
    simp only [writeItems, List.cons_append, List.append_assoc]
    rw [lexChars_comma, lexChars_blanks (hlayout.lineBreak _),
      lexChars_write _ item (endsNumeral_writeItems hlayout _ items cs), lexChars_writeItems]
    simp only [Token.ofItems, List.cons_append, List.append_assoc]

/-- The text behind the first member of an object is read as its tokens. -/
theorem lexChars_writeMembers (depth : Nat) (members : List (String × Json)) (cs : List Char) :
    lexChars .between (writeMembers layout depth members ++ cs) =
      Token.ofMembers members ++ lexChars .between cs := by
  match members with
  | [] =>
    rw [writeMembers, List.append_assoc, lexChars_blanks (hlayout.lineBreak _)]
    rfl
  | (key, value) :: members =>
    simp only [writeMembers, List.cons_append, List.append_assoc]
    rw [lexChars_comma, lexChars_blanks (hlayout.lineBreak _), lexChars_quoted, lexChars_colon,
      lexChars_blanks hlayout.afterColon,
      lexChars_write _ value (endsNumeral_writeMembers hlayout _ members cs), lexChars_writeMembers]
    simp only [Token.ofMembers, List.cons_append, List.append_assoc]

end

/-- The tokens of a written text are those of the value. -/
theorem tokens_write (depth : Nat) (value : Json) :
    tokens ((write layout depth value).map Glyph.char) = Token.ofJson value := by
  have hend : EndsNumeral [] := by simp [EndsNumeral]
  have h := lexChars_write hlayout depth value hend
  rw [List.append_nil] at h
  exact h.trans (List.append_nil _)

end Values

end Ebms.Json
