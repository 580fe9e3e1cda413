import PageRoutes.Config.Value
import PageRoutes.Number.Decimal
/-!
Reading a configuration document from its JSON text.

The text is read byte by byte from its UTF-8 encoding. Blanks, tabs, line feeds and
carriage returns may stand between the parts. A text may not hold a control character;
its escapes are those of JSON, and a `\u` escape of a surrogate must be a high one
followed by an escaped low one. A number has no leading zero and at least one digit
after a point and in an exponent. Arrays and objects nest at most 127 deep. When an
object names a field twice, the later value counts. Nothing but blanks may follow the
document.

A text that breaks a rule fails with the reason and the place: the line, and the column
in bytes. The place is the end of what was read when the reason was found, or one byte
further when the reason is the byte that was looked at next.
-/
namespace PageRoutes

/-- Why a text is no document. -/
inductive ReadErrorCode where
  | eofWhileParsingList
  | eofWhileParsingObject
  | eofWhileParsingString
  | eofWhileParsingValue
  | expectedColon
  | expectedListCommaOrEnd
  | expectedObjectCommaOrEnd
  | expectedSomeIdent
  | expectedSomeValue
  | invalidEscape
  | invalidNumber
  | numberOutOfRange
  | controlCharacterWhileParsingString
  | keyMustBeAString
  | loneLeadingSurrogateInHexEscape
  | trailingComma
  | trailingCharacters
  | unexpectedEndOfHexEscape
  | recursionLimitExceeded
deriving DecidableEq, Inhabited, Repr

/-- The reason's text. -/
def ReadErrorCode.message : ReadErrorCode → String
  | .eofWhileParsingList => "EOF while parsing a list"
  | .eofWhileParsingObject => "EOF while parsing an object"
  | .eofWhileParsingString => "EOF while parsing a string"
  | .eofWhileParsingValue => "EOF while parsing a value"
  | .expectedColon => "expected \x60:\x60"
  | .expectedListCommaOrEnd => "expected \x60,\x60 or \x60]\x60"
  | .expectedObjectCommaOrEnd => "expected \x60,\x60 or \x60\x7d\x60"
  | .expectedSomeIdent => "expected ident"
  | .expectedSomeValue => "expected value"
  | .invalidEscape => "invalid escape"
  | .invalidNumber => "invalid number"
  | .numberOutOfRange => "number out of range"
  | .controlCharacterWhileParsingString =>
    "control character (\\u0000-\\u001F) found while parsing a string"
  | .keyMustBeAString => "key must be a string"
  | .loneLeadingSurrogateInHexEscape => "lone leading surrogate in hex escape"
  | .trailingComma => "trailing comma"
  | .trailingCharacters => "trailing characters"
  | .unexpectedEndOfHexEscape => "unexpected end of hex escape"
  | .recursionLimitExceeded => "recursion limit exceeded"

/-- A reason and the line and byte column it was found at. -/
structure ReadError where
  code : ReadErrorCode
  line : Nat
  column : Nat
deriving DecidableEq, Inhabited, Repr

/-- The error's text. -/
def ReadError.message (e : ReadError) : String :=
  e.code.message ++ " at line " ++ toString e.line ++ " column " ++ toString e.column

/-- A place in the bytes of a text: the bytes left, and the line and the byte column that
the bytes read so far end on. -/
structure Cursor where
  rest : List UInt8
  line : Nat := 1
  column : Nat := 0
deriving DecidableEq, Inhabited, Repr

namespace Cursor

/-- The place after one more byte. -/
def advance (c : Cursor) : Cursor :=
  match c.rest with
  | [] => c
  | b :: more =>
    if b = 10 then { rest := more, line := c.line + 1, column := 0 }
    else { rest := more, line := c.line, column := c.column + 1 }

/-- The place after `n` more bytes, or at the end. -/
def advanceBy : Nat → Cursor → Cursor
  | 0, c => c
  | n + 1, c => advanceBy n c.advance

/-- Whether a byte is a blank between the parts. -/
def isSpace (b : UInt8) : Bool := b = 32 || b = 10 || b = 9 || b = 13

/-- The place after the blanks that follow. -/
def skipSpaceFrom (line column : Nat) : List UInt8 → Cursor
  | b :: more =>
    if b = 10 then skipSpaceFrom (line + 1) 0 more
    else if isSpace b then skipSpaceFrom line (column + 1) more
    else { rest := b :: more, line, column }
  | [] => { rest := [], line, column }

/-- The place after the blanks that follow. -/
def skipSpace (c : Cursor) : Cursor := skipSpaceFrom c.line c.column c.rest

/-- An error found at the end of what was read. -/
def errorHere (c : Cursor) (code : ReadErrorCode) : ReadError := { code, line := c.line, column := c.column }

/-- An error found in the byte looked at next: one byte further, but not past the end. -/
def errorAhead (c : Cursor) (code : ReadErrorCode) : ReadError :=
  match c.rest with
  | [] => { code, line := c.line, column := c.column }
  | b :: _ => if b = 10 then { code, line := c.line + 1, column := 0 } else { code, line := c.line, column := c.column + 1 }

end Cursor

/-- A step of reading: from a place to a value and the place after it, or an error. -/
abbrev Reader := StateT Cursor (Except ReadError)

namespace Reader

/-- The byte looked at next, if any. -/
def peek : Reader (Option UInt8) := fun c => .ok (c.rest.head?, c)

/-- Moves past one byte. -/
def eat : Reader Unit := fun c => .ok ((), c.advance)

/-- Moves past the blanks and looks at the byte after them. -/
def peekAfterSpace : Reader (Option UInt8) := fun c => .ok (c.skipSpace.rest.head?, c.skipSpace)

/-- Fails at the end of what was read. -/
def failHere {α : Type} (code : ReadErrorCode) : Reader α := fun c => .error (c.errorHere code)

/-- Fails at the byte looked at next. -/
def failAhead {α : Type} (code : ReadErrorCode) : Reader α := fun c => .error (c.errorAhead code)

/-- The current place. -/
def place : Reader Cursor := fun c => .ok (c, c)

/-- Whether a byte is a decimal digit. -/
def isDigit (b : UInt8) : Bool := 48 ≤ b && b ≤ 57

/-- Reads the bytes of a word after its first letter; a different byte fails after it. -/
def readWord : List UInt8 → Reader Unit
  | [] => pure ()
  | b :: bs => do
    match ← peek with
    | none => failHere .eofWhileParsingValue
    | some x =>
      eat
      if x = b then readWord bs else failHere .expectedSomeIdent

/-- Reads decimal digits, at most `fuel` of them. -/
def readDigits : Nat → Reader (List Nat)
  | 0 => pure []
  | fuel + 1 => do
    match ← peek with
    | some b =>
      if isDigit b then do
        eat
        return (b.toNat - 48) :: (← readDigits fuel)
      else pure []
    | none => pure []

/-- The value of a hex digit of either case. -/
def hexValue? (b : UInt8) : Option Nat :=
  if isDigit b then some (b.toNat - 48)
  else if 65 ≤ b && b ≤ 70 then some (b.toNat - 55)
  else if 97 ≤ b && b ≤ 102 then some (b.toNat - 87)
  else none

/-- Reads the four hex digits of a `\u` escape. Fewer than four bytes left is the end of
the text; the four bytes are passed before a bad digit fails. -/
def readHex4 : Reader Nat := fun c =>
  match c.rest with
  | a :: b :: d :: e :: _ =>
    let after := c.advanceBy 4
    match hexValue? a, hexValue? b, hexValue? d, hexValue? e with
    | some w, some x, some y, some z => .ok (((w * 16 + x) * 16 + y) * 16 + z, after)
    | _, _, _, _ => .error (after.errorHere .invalidEscape)
  | rest => .error ((c.advanceBy rest.length).errorHere .eofWhileParsingString)

/-- The UTF-8 bytes of a code point. -/
def encodePoint (n : Nat) : List UInt8 := String.utf8EncodeChar (Char.ofNat n)

/-- Reads a `\u` escape after its `u`: a code point outside the surrogates, or a high
surrogate followed by an escaped low one. Gives the UTF-8 bytes of the character. -/
def readUnicodeEscape : Reader (List UInt8) := do
  let n ← readHex4
  if 0xDC00 ≤ n && n ≤ 0xDFFF then failHere .loneLeadingSurrogateInHexEscape
  else if n < 0xD800 || 0xDBFF < n then pure (encodePoint n)
  else
    match ← peek with
    | none => failHere .eofWhileParsingString
    | some b =>
      eat
      if b ≠ 92 then failHere .unexpectedEndOfHexEscape
      else
        match ← peek with
        | none => failHere .eofWhileParsingString
        | some u =>
          eat
          if u ≠ 117 then failHere .unexpectedEndOfHexEscape
          else
            let m ← readHex4
            if m < 0xDC00 || 0xDFFF < m then failHere .loneLeadingSurrogateInHexEscape
            else pure (encodePoint (0x10000 + (n - 0xD800) * 0x400 + (m - 0xDC00)))

/-- Reads an escape after its backslash, giving the bytes it stands for. -/
def readEscape : Reader (List UInt8) := do
  match ← peek with
  | none => failHere .eofWhileParsingString
  | some e =>
    eat
    if e = 34 then pure [34]
    else if e = 92 then pure [92]
    else if e = 47 then pure [47]
    else if e = 98 then pure [8]
    else if e = 102 then pure [12]
    else if e = 110 then pure [10]
    else if e = 114 then pure [13]
    else if e = 116 then pure [9]
    else if e = 117 then readUnicodeEscape
    else failHere .invalidEscape

/-- Reads the rest of a text after its opening quote, up to and past the closing one,
giving its bytes; `acc` holds the bytes before, reversed. -/
def readStringBytes : Nat → List UInt8 → Reader (List UInt8)
  | 0, _ => failHere .eofWhileParsingString
  | fuel + 1, acc => do
    match ← peek with
    | none => failHere .eofWhileParsingString
    | some b =>
      eat
      if b = 34 then pure acc.reverse
      else if b = 92 then
        let bytes ← readEscape
        readStringBytes fuel (bytes.reverse ++ acc)
      else if b < 32 then failHere .controlCharacterWhileParsingString
      else readStringBytes fuel (b :: acc)

/-- Reads the rest of a text after its opening quote. -/
def readString (fuel : Nat) : Reader String := do
  let bytes ← readStringBytes fuel []
  pure ((String.fromUTF8? ⟨bytes.toArray⟩).getD "")

/-- Reads the exponent of a number after its `e`: its sign, and the place before and the
digits of its magnitude. -/
def readExponent (fuel : Nat) : Reader (Bool × Cursor × List Nat) := do
  let negative ← match ← peek with
    | some 43 => do eat; pure false
    | some 45 => do eat; pure true
    | _ => pure false
  let start ← place
  match ← peek with
  | none => failHere .eofWhileParsingValue
  | some b =>
    eat
    if isDigit b then pure (negative, start, (b.toNat - 48) :: (← readDigits fuel))
    else failHere .invalidNumber

/-- Reads a number after its sign. A value out of range fails at the end of the number,
or, when its exponent is too long to count, just after the exponent digit that makes it
so. -/
def readNumber (fuel : Nat) (negative : Bool) : Reader ConfigValue := do
  let whole ← match ← peek with
    | none => failHere .eofWhileParsingValue
    | some b => do
      eat
      if b = 48 then
        match ← peek with
        | some d => if isDigit d then failAhead .invalidNumber else pure [0]
        | none => pure [0]
      else if isDigit b then pure ((b.toNat - 48) :: (← readDigits fuel))
      else failHere .invalidNumber
  let fraction ← match ← peek with
    | some 46 => do
      eat
      match ← readDigits fuel with
      | [] =>
        match ← peek with
        | some _ => failAhead .invalidNumber
        | none => failAhead .eofWhileParsingValue
      | digits => pure (some digits)
    | _ => pure none
  let exponent ← match ← peek with
    | some e =>
      if e = 101 || e = 69 then do
        eat
        pure (some (← readExponent fuel))
      else pure none
    | none => pure none
  let text : NumberText :=
    { negative, whole, fraction, exponent := exponent.map fun e => (e.1, e.2.2) }
  match text.value with
  | some v => pure (ConfigValue.ofNumber v)
  | none =>
    match exponent with
    | some (_, start, digits) =>
      match NumberText.gather NumberText.maxExponent 0 digits with
      | (_, []) => failHere .numberOutOfRange
      | (_, rest) =>
        fun _ => .error ((start.advanceBy (digits.length - rest.length + 1)).errorHere .numberOutOfRange)
    | none => failHere .numberOutOfRange

mutual

/-- Reads a value. `depth` is how many more arrays and objects may open; the fuel bounds
the steps of the reading, each of which takes at least one byte. -/
def readValue : Nat → Nat → Reader ConfigValue
  | 0, _ => failAhead .eofWhileParsingValue
  | fuel + 1, depth => do
    match ← peekAfterSpace with
    | none => failAhead .eofWhileParsingValue
    | some b =>
      if b = 110 then do eat; readWord [117, 108, 108]; pure .null
      else if b = 116 then do eat; readWord [114, 117, 101]; pure (.bool true)
      else if b = 102 then do eat; readWord [97, 108, 115, 101]; pure (.bool false)
      else if b = 45 then do eat; readNumber fuel true
      else if isDigit b then readNumber fuel false
      else if b = 34 then do eat; pure (.str (← readString fuel))
      else if b = 91 then
        if depth ≤ 1 then failAhead .recursionLimitExceeded
        else do eat; readItems fuel (depth - 1) true []
      else if b = 123 then
        if depth ≤ 1 then failAhead .recursionLimitExceeded
        else do eat; readFields fuel (depth - 1) true []
      else failAhead .expectedSomeValue

/-- Reads the items of an array from the next one on and its closing bracket; `acc`
holds the items before, reversed. -/
def readItems : Nat → Nat → Bool → List ConfigValue → Reader ConfigValue
  | 0, _, _, _ => failAhead .eofWhileParsingList
  | fuel + 1, depth, first, acc => do
    match ← peekAfterSpace with
    | none => failAhead .eofWhileParsingList
    | some b =>
      if b = 93 then do eat; pure (.array acc.reverse)
      else if first then do
        let v ← readValue fuel depth
        readItems fuel depth false (v :: acc)
      else if b = 44 then do
        eat
        match ← peekAfterSpace with
        | some 93 => failAhead .trailingComma
        | some _ => do
          let v ← readValue fuel depth
          readItems fuel depth false (v :: acc)
        | none => failAhead .eofWhileParsingValue
      else failAhead .expectedListCommaOrEnd

/-- Reads the fields of an object from the next one on and its closing brace; `acc`
holds the fields before. -/
def readFields : Nat → Nat → Bool → List (String × ConfigValue) → Reader ConfigValue
  | 0, _, _, _ => failAhead .eofWhileParsingObject
  | fuel + 1, depth, first, acc => do
    match ← peekAfterSpace with
    | none => failAhead .eofWhileParsingObject
    | some b =>
      if b = 125 then do eat; pure (.object acc)
      else if first then
        if b = 34 then readField fuel depth acc else failAhead .keyMustBeAString
      else if b = 44 then do
        eat
        match ← peekAfterSpace with
        | some 34 => readField fuel depth acc
        | some 125 => failAhead .trailingComma
        | some _ => failAhead .keyMustBeAString
        | none => failAhead .eofWhileParsingValue
      else failAhead .expectedObjectCommaOrEnd

/-- Reads one field from its opening quote on, then the fields after it. -/
def readField : Nat → Nat → List (String × ConfigValue) → Reader ConfigValue
  | 0, _, _ => failAhead .eofWhileParsingObject
  | fuel + 1, depth, acc => do
    eat
    let name ← readString fuel
    match ← peekAfterSpace with
    | some 58 => do
      eat
      let v ← readValue fuel depth
      readFields fuel depth false (ConfigValue.setField acc name v)
    | some _ => failAhead .expectedColon
    | none => failAhead .eofWhileParsingObject

end

end Reader

namespace ConfigValue

/-- Reads a whole document. -/
def parse (s : String) : Except ReadError ConfigValue :=
  let bytes := s.toUTF8.toList
  match (Reader.readValue (2 * bytes.length + 4) 128).run { rest := bytes } with
  | .error e => .error e
  | .ok (v, c) =>
    let after := c.skipSpace
    if after.rest.isEmpty then .ok v else .error (after.errorAhead .trailingCharacters)

end ConfigValue

end PageRoutes
