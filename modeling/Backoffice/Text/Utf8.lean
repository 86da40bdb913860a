/-!
# UTF-8

Writing characters as octets, and reading octets as characters.  Reading is a run of a small
machine that takes one octet at a time: it yields a character at the last octet of its form,
and `none` for each maximal ill-formed part, that is for the longest stretch of octets that
begins some form and is then broken off.
-/

namespace Backoffice.Text.Utf8

/-- The octets of a text. -/
def encode (cs : List Char) : List UInt8 :=
  cs.flatMap String.utf8EncodeChar

/-- What the machine has read of a character. -/
inductive State
  /-- Between characters. -/
  | idle
  /-- Inside a form: its bits so far, how many octets are due after the next one, and the
  bounds of the next one. -/
  | inside (bits : Nat) (due : Nat) (low high : Nat)
deriving Repr, DecidableEq

/-- Takes the first octet of a form. -/
def start (b : UInt8) : List (Option Char) × State :=
  let n := b.toNat
  if n < 0x80 then ([some (Char.ofNat n)], .idle)
  else if n < 0xC2 then ([none], .idle)
  else if n < 0xE0 then ([], .inside (n - 0xC0) 0 0x80 0xBF)
  else if n < 0xF0 then
    ([], .inside (n - 0xE0) 1 (if n = 0xE0 then 0xA0 else 0x80) (if n = 0xED then 0x9F else 0xBF))
  else if n < 0xF5 then
    ([], .inside (n - 0xF0) 2 (if n = 0xF0 then 0x90 else 0x80) (if n = 0xF4 then 0x8F else 0xBF))
  else ([none], .idle)

/-- Takes one octet: what is read with it, and the state after it. -/
def feed : State → UInt8 → List (Option Char) × State
  | .idle, b => start b
  | .inside bits due low high, b =>
    if low ≤ b.toNat ∧ b.toNat ≤ high then
      let bits := bits * 64 + (b.toNat - 0x80)
      match due with
      | 0 => ([some (Char.ofNat bits)], .idle)
      | due + 1 => ([], .inside bits due 0x80 0xBF)
    else
      let (read, state) := start b
      (none :: read, state)

/-- What the end of the octets adds: an unfinished form is ill-formed. -/
def finish : State → List (Option Char)
  | .idle => []
  | .inside .. => [none]

/-- Everything read from the state `s` on. -/
def readFrom (s : State) : List UInt8 → List (Option Char)
  | [] => finish s
  | b :: bs => (feed s b).1 ++ readFrom (feed s b).2 bs

/-- The characters of the octets, with `none` for each maximal ill-formed part. -/
def read (bs : List UInt8) : List (Option Char) :=
  readFrom .idle bs

/-- The text of the octets, if they are well formed. -/
def decode? (bs : List UInt8) : Option (List Char) :=
  (read bs).mapM id

/-- The text of the octets, with the replacement character for each ill-formed part. -/
def decodeLossy (bs : List UInt8) : List Char :=
  (read bs).map (·.getD '\uFFFD')

end Backoffice.Text.Utf8
