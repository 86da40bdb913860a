import Mathlib
import Backoffice.Digest.Hmac

/-!
# Keyed hashes and derived octets by their definitions

A key is kept as the states after its two blocks, and each round of a derivation works on words.  What comes
out is the same as by the definitions on octets: the keyed hash is a hash of a hash (`HmacKey.octets_tag`), and
the octets that are derived are the sum of as many keyed hashes as there are rounds, each of the one before it
(`octets_pbkdf2`).
-/

namespace Backoffice

namespace Sha256

/-! ### Words of octets -/

/-- A word is read back from its octets. -/
theorem wordOf_wordOctets (w : UInt32) :
    wordOf (w >>> 24).toUInt8 (w >>> 16).toUInt8 (w >>> 8).toUInt8 w.toUInt8 = w := by
  unfold wordOf
  rw [← UInt32.toBitVec_inj]
  ext i hi
  -- bit by bit: each bit comes from the one octet that covers its place
  simp only [UInt32.toBitVec_or, UInt32.toBitVec_shiftLeft, UInt8.toBitVec_toUInt32, UInt32.toBitVec_toUInt8,
    UInt32.toBitVec_shiftRight, UInt32.toBitVec_ofNat, BitVec.ofNat_eq_ofNat, BitVec.reduceMod,
    BitVec.ushiftRight_eq', BitVec.toNat_ofNat, Nat.reducePow, Nat.reduceMod, BitVec.shiftLeft_eq',
    BitVec.getElem_or, BitVec.getElem_shiftLeft, BitVec.getElem_setWidth, BitVec.getLsbD_setWidth,
    BitVec.getLsbD_ushiftRight]
  rw [← BitVec.getLsbD_eq_getElem]
  grind

/-- The words of a hash are read back from its octets, whatever follows them. -/
theorem wordsOf_octets_append (x : Words) (rest : List UInt8) :
    wordsOf (x.octets ++ rest) = x.toList ++ wordsOf rest := by
  unfold Words.octets Words.toList
  simp only [List.flatMap_cons, List.flatMap_nil, List.append_nil, List.append_assoc,
    wordsOf_wordOctets_append, wordOf_wordOctets, List.cons_append, List.nil_append]

/-- Whole words and what follows them are read one after the other. -/
theorem wordsOf_append {front : List UInt8} (h : front.length % 4 = 0) (back : List UInt8) :
    wordsOf (front ++ back) = wordsOf front ++ wordsOf back := by
  fun_induction wordsOf front with
  | case1 a b c d rest ih =>
    simp only [List.length_cons] at h
    simp only [List.cons_append, wordsOf, ih (by omega)]
  | case2 front hshort =>
    match front, h, hshort with
    | [], _, _ => rfl
    | a :: b :: c :: d :: rest, _, hshort => exact absurd rfl (hshort a b c d rest)

/-- A word has four octets. -/
theorem length_wordsOf (bytes : List UInt8) : (wordsOf bytes).length = bytes.length / 4 := by
  fun_induction wordsOf bytes with
  | case1 a b c d rest ih =>
    simp only [List.length_cons, ih]
    omega
  | case2 bytes hshort =>
    match bytes, hshort with
    | [], _ | [_], _ | [_, _], _ | [_, _, _], _ => simp
    | a :: b :: c :: d :: rest, hshort => exact absurd rfl (hshort a b c d rest)

/-- The octets of an exclusive or of words are those of the words, combined one by one. -/
theorem octets_xor (x y : Words) : (x.xor y).octets = List.zipWith (· ^^^ ·) x.octets y.octets := by
  simp [Words.octets, Words.xor, Words.toList, wordOctets, UInt32.shiftRight_xor]

/-! ### Blocks -/

/-- A block leads to the next state, and what follows it leads on from there. -/
theorem absorb_append {block : List UInt32} (h : block.length = 16) (s : Words) (rest : List UInt32) :
    absorb s (block ++ rest) = absorb (compress s block.toArray) rest := by
  cases block with
  | nil => cases h
  | cons w ws =>
    have hws : ws.length = 15 := Nat.succ.inj h
    rw [List.cons_append, absorb, List.take_succ_cons, List.take_left' hws, List.drop_left' hws]

/-- A single block leads to the next state. -/
theorem absorb_block {block : List UInt32} (h : block.length = 16) (s : Words) :
    absorb s block = compress s block.toArray := by
  rw [← List.append_nil block, absorb_append h, List.append_nil, absorb]

/-- A message after a first block is hashed from the state that the block leads to. -/
theorem hash_append {block : List UInt8} (h : block.length = 64) (message : List UInt8) :
    hash (block ++ message) = continued (absorb initial (wordsOf block)) 64 message := by
  have hwords : (wordsOf block).length = 16 := by rw [length_wordsOf, h]
  unfold hash continued
  rw [List.append_assoc, wordsOf_append (by rw [h]), absorb_append hwords, absorb_block hwords,
    List.length_append, h, Nat.zero_add]

/-- A hash after a first block fills the last block with its padding. -/
theorem continued_octets (s x : Words) : continued s 64 x.octets = compress s (HmacKey.lastBlock x) := by
  unfold continued
  rw [wordsOf_octets_append, length_octets]
  exact absorb_block rfl s

end Sha256

/-! ### Keyed hashes -/

/-- The octets of the hash of a message. -/
def hashOctets (message : List UInt8) : List UInt8 :=
  (Sha256.hash message).octets

/-- The keyed hash of a message by its definition: the key fills a block, and the block, masked in two ways, is
put in front of the message and in front of the hash of both. -/
def keyedHash (key message : List UInt8) : List UInt8 :=
  let masked (mask : UInt8) := (HmacKey.block key).map (· ^^^ mask)
  hashOctets (masked 0x5c ++ hashOctets (masked 0x36 ++ message))

namespace HmacKey

/-- A key fills a block. -/
theorem length_block (key : List UInt8) : (block key).length = 64 := by
  unfold block
  dsimp only
  split_ifs with hlong
  · rfl
  · rw [List.length_append, List.length_replicate]
    omega

/-- The hash that goes on from the states of a key is the keyed hash. -/
theorem octets_tag (key message : List UInt8) :
    ((ofOctets key).tag message).octets = keyedHash key message := by
  have hmasked : ∀ (mask : UInt8) (message : List UInt8),
      Sha256.hash ((block key).map (· ^^^ mask) ++ message) = Sha256.continued (masked mask key) 64 message :=
    fun mask message => Sha256.hash_append (by rw [List.length_map, length_block]) message
  unfold keyedHash hashOctets tag ofOctets
  dsimp only
  rw [hmasked, hmasked]

/-- The keyed hash of words is that of their octets. -/
theorem tagWords_eq (key : HmacKey) (x : Sha256.Words) : key.tagWords x = key.tag x.octets := by
  unfold tagWords tag
  rw [Sha256.continued_octets, Sha256.continued_octets]

end HmacKey

/-! ### Derived octets -/

/-- What is derived in a round: a keyed hash of the salt and of the number of the first block, then of what was
derived in the round before. -/
def derivedIn (secret salt : List UInt8) : ℕ → List UInt8
  | 0 => keyedHash secret (salt ++ [0, 0, 0, 1])
  | n + 1 => keyedHash secret (derivedIn secret salt n)

/-- The first 32 octets that are derived from a secret and a salt, by their definition: the exclusive or of what
is derived in each round. -/
def derivedOctets (secret salt : List UInt8) (rounds : ℕ) : List UInt8 :=
  (List.range rounds).foldl (fun sum n => List.zipWith (· ^^^ ·) sum (derivedIn secret salt n))
    (List.replicate 32 0)

/-- One more round adds what is derived in it. -/
theorem derivedOctets_succ (secret salt : List UInt8) (n : ℕ) : derivedOctets secret salt (n + 1) =
    List.zipWith (· ^^^ ·) (derivedOctets secret salt n) (derivedIn secret salt n) := by
  unfold derivedOctets
  rw [List.range_succ, List.foldl_append, List.foldl_cons, List.foldl_nil]

/-- In the first round the sum is what is derived in it. -/
theorem derivedOctets_one (secret salt : List UInt8) :
    derivedOctets secret salt 1 = derivedIn secret salt 0 := by
  have hzero : ∀ x : Sha256.Words,
      List.zipWith (· ^^^ ·) (List.replicate 32 (0 : UInt8)) x.octets = x.octets := by
    intro x
    have hadd := Sha256.octets_xor ⟨0, 0, 0, 0, 0, 0, 0, 0⟩ x
    have hself : Sha256.Words.xor ⟨0, 0, 0, 0, 0, 0, 0, 0⟩ x = x := by simp [Sha256.Words.xor]
    rw [hself] at hadd
    exact hadd.symm
  exact hzero _

/-- The rounds that are left add what is derived in them. -/
theorem octets_stretch {secret salt : List UInt8} (n done : ℕ) {u t : Sha256.Words}
    (hu : u.octets = derivedIn secret salt done) (ht : t.octets = derivedOctets secret salt (done + 1)) :
    (stretch (.ofOctets secret) n u t).octets = derivedOctets secret salt (done + 1 + n) := by
  induction n generalizing done u t with
  | zero => exact ht
  | succ n ih =>
    have hnext : ((HmacKey.ofOctets secret).tagWords u).octets = derivedIn secret salt (done + 1) := by
      rw [HmacKey.tagWords_eq, HmacKey.octets_tag, hu, derivedIn]
    have hsum : (t.xor ((HmacKey.ofOctets secret).tagWords u)).octets =
        derivedOctets secret salt (done + 1 + 1) := by
      rw [Sha256.octets_xor, ht, hnext, derivedOctets_succ secret salt (done + 1)]
    rw [stretch, ih (done + 1) hnext hsum]
    congr 1
    omega

/-- What is derived with words and kept states are the derived octets. -/
theorem octets_pbkdf2 (secret salt : List UInt8) {rounds : ℕ} (h : 1 ≤ rounds) :
    (pbkdf2 secret salt rounds).octets = derivedOctets secret salt rounds := by
  have hfirst : ((HmacKey.ofOctets secret).tag (salt ++ [0, 0, 0, 1])).octets = derivedIn secret salt 0 := by
    rw [HmacKey.octets_tag, derivedIn]
  unfold pbkdf2
  dsimp only
  rw [octets_stretch (rounds - 1) 0 hfirst (by rw [derivedOctets_one, hfirst])]
  congr 1
  omega

end Backoffice
