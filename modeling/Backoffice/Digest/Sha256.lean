/-!
# SHA-256

The hash function of the SHA-2 family with 256 bits of output, on lists of octets.  The state
between blocks is a value of its own, so a hash can be continued from the state after a fixed
first block.
-/

namespace Backoffice.Sha256

-- Powers are those of the standard library, whatever else is imported.
attribute [local instance (high)] instPowNat

/-- Eight words: the state between blocks, and at the end the hash itself. -/
structure Words where
  a : UInt32
  b : UInt32
  c : UInt32
  d : UInt32
  e : UInt32
  f : UInt32
  g : UInt32
  h : UInt32
deriving Repr, DecidableEq, Inhabited

namespace Words

/-- The words of two values added one by one. -/
def add (x y : Words) : Words :=
  ⟨x.a + y.a, x.b + y.b, x.c + y.c, x.d + y.d, x.e + y.e, x.f + y.f, x.g + y.g, x.h + y.h⟩

/-- The exclusive or of the words one by one. -/
def xor (x y : Words) : Words :=
  ⟨x.a ^^^ y.a, x.b ^^^ y.b, x.c ^^^ y.c, x.d ^^^ y.d, x.e ^^^ y.e, x.f ^^^ y.f, x.g ^^^ y.g,
    x.h ^^^ y.h⟩

/-- The words in order. -/
def toList (x : Words) : List UInt32 :=
  [x.a, x.b, x.c, x.d, x.e, x.f, x.g, x.h]

end Words

/-- The four octets of a word, most significant first. -/
def wordOctets (w : UInt32) : List UInt8 :=
  [(w >>> 24).toUInt8, (w >>> 16).toUInt8, (w >>> 8).toUInt8, w.toUInt8]

/-- The word of four octets. -/
def wordOf (a b c d : UInt8) : UInt32 :=
  a.toUInt32 <<< 24 ||| b.toUInt32 <<< 16 ||| c.toUInt32 <<< 8 ||| d.toUInt32

/-- The words of a list of octets; up to three octets at the end are left out. -/
def wordsOf : List UInt8 → List UInt32
  | a :: b :: c :: d :: rest => wordOf a b c d :: wordsOf rest
  | _ => []

/-- The octets of the words. -/
def Words.octets (x : Words) : List UInt8 :=
  x.toList.flatMap wordOctets

/-- The state before the first block. -/
def initial : Words :=
  ⟨0x6a09e667, 0xbb67ae85, 0x3c6ef372, 0xa54ff53a, 0x510e527f, 0x9b05688c, 0x1f83d9ab, 0x5be0cd19⟩

/-- The constants of the sixty-four rounds. -/
def roundConstants : Array UInt32 :=
  #[
    0x428a2f98, 0x71374491, 0xb5c0fbcf, 0xe9b5dba5, 0x3956c25b, 0x59f111f1, 0x923f82a4, 0xab1c5ed5,
    0xd807aa98, 0x12835b01, 0x243185be, 0x550c7dc3, 0x72be5d74, 0x80deb1fe, 0x9bdc06a7, 0xc19bf174,
    0xe49b69c1, 0xefbe4786, 0x0fc19dc6, 0x240ca1cc, 0x2de92c6f, 0x4a7484aa, 0x5cb0a9dc, 0x76f988da,
    0x983e5152, 0xa831c66d, 0xb00327c8, 0xbf597fc7, 0xc6e00bf3, 0xd5a79147, 0x06ca6351, 0x14292967,
    0x27b70a85, 0x2e1b2138, 0x4d2c6dfc, 0x53380d13, 0x650a7354, 0x766a0abb, 0x81c2c92e, 0x92722c85,
    0xa2bfe8a1, 0xa81a664b, 0xc24b8b70, 0xc76c51a3, 0xd192e819, 0xd6990624, 0xf40e3585, 0x106aa070,
    0x19a4c116, 0x1e376c08, 0x2748774c, 0x34b0bcb5, 0x391c0cb3, 0x4ed8aa4a, 0x5b9cca4f, 0x682e6ff3,
    0x748f82ee, 0x78a5636f, 0x84c87814, 0x8cc70208, 0x90befffa, 0xa4506ceb, 0xbef9a3f7, 0xc67178f2
  ]

/-- The word rotated to the right by `n` bits. -/
@[inline] def rotate (w n : UInt32) : UInt32 :=
  w >>> n ||| w <<< (32 - n)

/-- The word that follows the others in the schedule of a block. -/
def nextWord (w : Array UInt32) : UInt32 :=
  let n := w.size
  let x := w.getD (n - 15) 0
  let y := w.getD (n - 2) 0
  w.getD (n - 16) 0 + (rotate x 7 ^^^ rotate x 18 ^^^ x >>> 3) + w.getD (n - 7) 0 +
    (rotate y 17 ^^^ rotate y 19 ^^^ y >>> 10)

/-- The words that a block of sixteen words gives to the rounds. -/
def schedule (block : Array UInt32) : Array UInt32 :=
  Nat.repeat (fun w => w.push (nextWord w)) 48 block

/-- One round with the constant `k` and the word `w` of the schedule. -/
@[inline] def round (k w : UInt32) (s : Words) : Words :=
  let t := s.h + (rotate s.e 6 ^^^ rotate s.e 11 ^^^ rotate s.e 25) +
    ((s.e &&& s.f) ^^^ (~~~s.e &&& s.g)) + k + w
  let u := (rotate s.a 2 ^^^ rotate s.a 13 ^^^ rotate s.a 22) +
    ((s.a &&& s.b) ^^^ (s.a &&& s.c) ^^^ (s.b &&& s.c))
  ⟨t + u, s.a, s.b, s.c, s.d + t, s.e, s.f, s.g⟩

/-- The state after `n` rounds. -/
def rounds (schedule : Array UInt32) (n : Nat) (s : Words) : Words :=
  n.fold (fun i _ s => round (roundConstants.getD i 0) (schedule.getD i 0) s) s

/-- The state after a block of sixteen words. -/
def compress (s : Words) (block : Array UInt32) : Words :=
  s.add (rounds (schedule block) 64 s)

/-- What is put after a message of `n` octets to fill its last block: a one bit, zeros, and the
number of bits. -/
def padding (n : Nat) : List UInt8 :=
  0x80 :: List.replicate ((119 - n % 64) % 64) 0 ++
    wordOctets (UInt32.ofNat (8 * n / 2 ^ (32 : Nat))) ++ wordOctets (UInt32.ofNat (8 * n))

/-- The state after whole blocks, given as words. -/
def absorb (s : Words) (words : List UInt32) : Words :=
  match words with
  | [] => s
  | w :: ws => absorb (compress s ((w :: ws).take 16).toArray) (ws.drop 15)
termination_by words.length
decreasing_by simp only [List.length_drop, List.length_cons]; omega

/-- The hash of a message whose first `before` octets, which are whole blocks, have led to the
state `s`. -/
def continued (s : Words) (before : Nat) (message : List UInt8) : Words :=
  absorb s (wordsOf (message ++ padding (before + message.length)))

/-- The hash of a message. -/
def hash (message : List UInt8) : Words :=
  continued initial 0 message

theorem length_octets (x : Words) : x.octets.length = 32 := rfl

/-- The words are those of their octets. -/
theorem wordsOf_wordOctets_append (w : UInt32) (rest : List UInt8) :
    wordsOf (wordOctets w ++ rest) = wordOf (w >>> 24).toUInt8 (w >>> 16).toUInt8 (w >>> 8).toUInt8
      w.toUInt8 :: wordsOf rest := rfl

end Backoffice.Sha256
