/-!
# SHA-256

The SHA-256 digest of a run of bytes. A message is padded to whole blocks of sixteen words. A block
is mixed into eight chaining words in sixty-four rounds, each of which takes the first word of a
window of sixteen schedule words and moves the window on by one.
-/

namespace Ebms.Sha256

/-- The eight words that are carried from block to block. -/
structure Chain where
  a : UInt32
  b : UInt32
  c : UInt32
  d : UInt32
  e : UInt32
  f : UInt32
  g : UInt32
  h : UInt32
  deriving DecidableEq, Repr

/-- The chaining words before the first block. -/
def Chain.initial : Chain :=
  ⟨0x6a09e667, 0xbb67ae85, 0x3c6ef372, 0xa54ff53a,
    0x510e527f, 0x9b05688c, 0x1f83d9ab, 0x5be0cd19⟩

/-- The constants of the sixty-four rounds. -/
def roundConstants : List UInt32 :=
  [ 0x428a2f98, 0x71374491, 0xb5c0fbcf, 0xe9b5dba5, 0x3956c25b, 0x59f111f1, 0x923f82a4, 0xab1c5ed5,
    0xd807aa98, 0x12835b01, 0x243185be, 0x550c7dc3, 0x72be5d74, 0x80deb1fe, 0x9bdc06a7, 0xc19bf174,
    0xe49b69c1, 0xefbe4786, 0x0fc19dc6, 0x240ca1cc, 0x2de92c6f, 0x4a7484aa, 0x5cb0a9dc, 0x76f988da,
    0x983e5152, 0xa831c66d, 0xb00327c8, 0xbf597fc7, 0xc6e00bf3, 0xd5a79147, 0x06ca6351, 0x14292967,
    0x27b70a85, 0x2e1b2138, 0x4d2c6dfc, 0x53380d13, 0x650a7354, 0x766a0abb, 0x81c2c92e, 0x92722c85,
    0xa2bfe8a1, 0xa81a664b, 0xc24b8b70, 0xc76c51a3, 0xd192e819, 0xd6990624, 0xf40e3585, 0x106aa070,
    0x19a4c116, 0x1e376c08, 0x2748774c, 0x34b0bcb5, 0x391c0cb3, 0x4ed8aa4a, 0x5b9cca4f, 0x682e6ff3,
    0x748f82ee, 0x78a5636f, 0x84c87814, 0x8cc70208, 0x90befffa, 0xa4506ceb, 0xbef9a3f7, 0xc67178f2]

/-- A word turned to the right. -/
def rotateRight (x : UInt32) (n : UInt32) : UInt32 :=
  (x >>> n) ||| (x <<< (32 - n))

/-- The word that follows a window of sixteen schedule words. -/
def nextScheduleWord (window : List UInt32) : UInt32 :=
  let w (i : Nat) := window.getD i 0
  let s0 := rotateRight (w 1) 7 ^^^ rotateRight (w 1) 18 ^^^ (w 1 >>> 3)
  let s1 := rotateRight (w 14) 17 ^^^ rotateRight (w 14) 19 ^^^ (w 14 >>> 10)
  w 0 + s0 + w 9 + s1

/-- One round: the chaining words take in a constant and the first word of the window. -/
def round (state : Chain × List UInt32) (constant : UInt32) : Chain × List UInt32 :=
  let (v, window) := state
  let s1 := rotateRight v.e 6 ^^^ rotateRight v.e 11 ^^^ rotateRight v.e 25
  let choice := (v.e &&& v.f) ^^^ (~~~v.e &&& v.g)
  let t1 := v.h + s1 + choice + constant + window.getD 0 0
  let s0 := rotateRight v.a 2 ^^^ rotateRight v.a 13 ^^^ rotateRight v.a 22
  let majority := (v.a &&& v.b) ^^^ (v.a &&& v.c) ^^^ (v.b &&& v.c)
  (⟨t1 + s0 + majority, v.a, v.b, v.c, v.d + t1, v.e, v.f, v.g⟩,
    window.drop 1 ++ [nextScheduleWord window])

/-- The chaining words after a block of sixteen words. -/
def compress (v : Chain) (block : List UInt32) : Chain :=
  let r := (roundConstants.foldl round (v, block)).1
  ⟨v.a + r.a, v.b + r.b, v.c + r.c, v.d + r.d, v.e + r.e, v.f + r.f, v.g + r.g, v.h + r.h⟩

/-- The chaining words after some number of blocks. -/
def absorb : Nat → Chain → List UInt32 → Chain
  | 0, v, _ => v
  | blocks + 1, v, words => absorb blocks (compress v (words.take 16)) (words.drop 16)

/-- The eight bytes of a number, the highest first. -/
def bytesOfNat (n : Nat) : List UInt8 :=
  (List.range 8).map fun i => UInt8.ofNat (n >>> (8 * (7 - i)))

/-- The message with a bit, zeros up to the last eight bytes of a block, and its length in bits. -/
def pad (message : List UInt8) : List UInt8 :=
  message ++ 0x80 :: (List.replicate ((119 - message.length % 64) % 64) 0 ++
    bytesOfNat (8 * message.length))

/-- The words that bytes form, four to a word, the highest first. -/
def wordsOfBytes : List UInt8 → List UInt32
  | a :: b :: c :: d :: rest =>
      ((a.toUInt32 <<< 24) ||| (b.toUInt32 <<< 16) ||| (c.toUInt32 <<< 8) ||| d.toUInt32) ::
        wordsOfBytes rest
  | _ => []

/-- The words of the digest of a message. -/
def digestWords (message : List UInt8) : List UInt32 :=
  let words := wordsOfBytes (pad message)
  let v := absorb (words.length / 16) .initial words
  [v.a, v.b, v.c, v.d, v.e, v.f, v.g, v.h]

/-- The eight hexadecimal digits of a word. -/
def hexOfWord (x : UInt32) : List Char :=
  (List.range 8).map fun i => Nat.digitChar (x.toNat >>> (4 * (7 - i)) % 16)

/-- The digest of a message in sixty-four small hexadecimal digits. -/
def hexDigest (message : List UInt8) : String :=
  String.ofList ((digestWords message).flatMap hexOfWord)

/-- The digest of the UTF-8 bytes of a text. -/
def hexDigestOfText (text : String) : String :=
  hexDigest text.toUTF8.toList

end Ebms.Sha256
