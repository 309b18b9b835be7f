import Edn.Text.Utf8

/-!
The two encodings in which raw text may be handed over. Both are exact: `Encoding.decode?` accepts
what `Encoding.encode` writes and nothing else.
-/

namespace Edn

/-- How raw text is encoded. -/
inductive Encoding
  | utf8
  /-- Units of four bytes, the least significant byte first, one for each character. -/
  | utf32le
  deriving Repr, DecidableEq

namespace Utf32

/-- The character with this code point, unless it is a surrogate or too large. -/
def scalar? (point : Nat) : Option Char :=
  if h : point.isValidChar then some (Char.ofNatAux point h) else none

/-- The unit of one character. -/
def encodeChar (c : Char) : List UInt8 :=
  let v := c.toNat
  [UInt8.ofNat v, UInt8.ofNat (v / 0x100), UInt8.ofNat (v / 0x10000), UInt8.ofNat (v / 0x1000000)]

/-- The characters of whole units, or none if a unit is cut short or no scalar value. -/
def decode? : List UInt8 → Option (List Char)
  | [] => some []
  | a :: b :: c :: d :: bytes =>
    (scalar? (a.toNat + b.toNat * 0x100 + c.toNat * 0x10000 + d.toNat * 0x1000000)).bind
      fun char => (decode? bytes).map (char :: ·)
  | _ => none

end Utf32

namespace Encoding

/-- The bytes of a text. -/
def encode (encoding : Encoding) (text : String) : List UInt8 :=
  match encoding with
  | utf8 => Utf8.encode text.toList
  | utf32le => text.toList.flatMap Utf32.encodeChar

/-- The text that the bytes stand for, or none if they are not valid in the encoding. -/
def decode? (encoding : Encoding) (bytes : List UInt8) : Option String :=
  match encoding with
  | utf8 => (Utf8.decode? bytes).map String.ofList
  | utf32le => (Utf32.decode? bytes).map String.ofList

end Encoding

end Edn
