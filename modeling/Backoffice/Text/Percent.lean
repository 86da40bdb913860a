import Backoffice.Text.Hex
import Backoffice.Text.Utf8

/-!
# Percent coding

A percent sign and two hexadecimal digits stand for one octet of the UTF-8 form of a text.
`encode` writes every octet so, apart from the unreserved characters; `decode` reads any
text, leaves a percent sign without its digits as it is, and puts the replacement character
for octets that form no character.
-/

namespace Backoffice.Text.Percent

/-- The octets that the characters stand for. -/
def octets : List Char → List UInt8
  | [] => []
  | '%' :: a :: b :: rest =>
    match hexValue? a, hexValue? b with
    | some x, some y => UInt8.ofNat (16 * x + y) :: octets rest
    | _, _ => String.utf8EncodeChar '%' ++ octets (a :: b :: rest)
  | c :: rest => String.utf8EncodeChar c ++ octets rest

/-- Reads percent coding once. -/
def decode (s : String) : String :=
  String.ofList (Utf8.decodeLossy (octets s.toList))

/-- The characters that stand for themselves: ASCII letters and digits and four marks. -/
def isUnreserved (c : Char) : Bool :=
  c.isAlphanum || c == '-' || c == '_' || c == '.' || c == '~'

/-- The three characters that stand for an octet. -/
def encodeOctet (b : UInt8) : List Char :=
  ['%', hexDigit 'A' (b.toNat / 16), hexDigit 'A' (b.toNat % 16)]

/-- The percent coding of one character. -/
def encodeChar (c : Char) : List Char :=
  if isUnreserved c then [c] else (String.utf8EncodeChar c).flatMap encodeOctet

/-- Writes the text in percent coding. -/
def encode (s : String) : String :=
  String.ofList (s.toList.flatMap encodeChar)

end Backoffice.Text.Percent
