/-!
Percent encoding of URL components.

A `PercentCodec` escapes a component for a URL and reads an escaped one back; reading fails when
the escapes name bytes that are not UTF-8. URL text is written and read over any codec, and what
is proved of it uses only `PercentCodec.Lawful`: reading an escaped component gives it back, the
empty component is written as nothing, and escaped text holds only `%`, ASCII letters and digits,
`-`, `.`, `_` and `~`.

The codec URLs are written with, `Percent.standard`, keeps the unreserved bytes (ASCII letters
and digits, `-`, `.`, `_`, `~`) and writes every other byte of the text's UTF-8 form as `%` and
two uppercase hex digits. Reading turns `%` followed by two hex digits of either case into that
byte and keeps every other `%` as it stands.
-/
namespace PageRoutes

/-- How the components of a URL are escaped, and read back when the escapes name text. -/
structure PercentCodec where
  encode : String → String
  decode? : String → Option String

/-- What URL text relies on of a codec: escaped components read back, the empty component is
written as nothing, and escaped text holds no character that separates the parts of a URL. -/
structure PercentCodec.Lawful (c : PercentCodec) : Prop where
  decode?_encode : ∀ s, c.decode? (c.encode s) = some s
  encode_empty : c.encode "" = ""
  escaped : ∀ s, ∀ ch ∈ (c.encode s).toList,
    ch = '%' ∨ ch.isAlphanum = true ∨ ch ∈ ['-', '.', '_', '~']

end PageRoutes

namespace PageRoutes.Percent

/-- The UTF-8 bytes of a text, character by character. -/
def utf8 (s : String) : List UInt8 :=
  s.toList.flatMap String.utf8EncodeChar

/-- The value of a hex digit of either case. -/
def hexValue? (b : UInt8) : Option Nat :=
  if 48 ≤ b.toNat ∧ b.toNat ≤ 57 then some (b.toNat - 48)
  else if 65 ≤ b.toNat ∧ b.toNat ≤ 70 then some (b.toNat - 55)
  else if 97 ≤ b.toNat ∧ b.toNat ≤ 102 then some (b.toNat - 87)
  else none

/-- The byte of the percent sign. -/
def percentByte : UInt8 := 37

/-- Reads every `%` with two hex digits after it as one byte; any other byte,
a lone `%` included, stands for itself. -/
def decodeBytes : List UInt8 → List UInt8
  | [] => []
  | b :: rest@(hi :: lo :: more) =>
    if b = percentByte then
      match hexValue? hi, hexValue? lo with
      | some h, some l => UInt8.ofNat (h * 16 + l) :: decodeBytes more
      | _, _ => b :: decodeBytes rest
    else b :: decodeBytes rest
  | b :: rest => b :: decodeBytes rest

/-- Reads a component. Without a `%` it is its own reading; otherwise the escapes
are read, and the reading fails when the bytes are then not UTF-8. -/
def decode? (s : String) : Option String :=
  if '%' ∈ s.toList then String.fromUTF8? ⟨(decodeBytes (utf8 s)).toArray⟩
  else some s

/-- Whether a byte is written as itself: an ASCII letter or digit, `-`, `.`, `_`
or `~`. -/
def isUnreserved (b : UInt8) : Bool :=
  (48 ≤ b.toNat && b.toNat ≤ 57) || (65 ≤ b.toNat && b.toNat ≤ 90) ||
  (97 ≤ b.toNat && b.toNat ≤ 122) || b.toNat == 45 || b.toNat == 46 ||
  b.toNat == 95 || b.toNat == 126

/-- An uppercase hex digit. -/
def hexDigit (n : Nat) : Char :=
  if n < 10 then Char.ofNat (48 + n) else Char.ofNat (55 + n)

/-- How one byte is written. -/
def encodeByte (b : UInt8) : List Char :=
  if isUnreserved b then [Char.ofNat b.toNat]
  else ['%', hexDigit (b.toNat / 16), hexDigit (b.toNat % 16)]

/-- Writes a component. -/
def encode (s : String) : String :=
  String.ofList ((utf8 s).flatMap encodeByte)

/-- The codec URLs are written with. -/
def standard : PercentCodec := ⟨encode, decode?⟩

@[simp] theorem standard_encode : standard.encode = encode := rfl

@[simp] theorem standard_decode? : standard.decode? = decode? := rfl

end PageRoutes.Percent
