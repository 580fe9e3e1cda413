import Mathlib
import PageRoutes.Text.Percent
/-!
The standard codec is lawful.

`encode` writes each byte of a text's UTF-8 form as itself when it is unreserved and as `%`
with two hex digits otherwise, so what it writes is `%` and unreserved ASCII characters
(`encode_escaped`), and reads back byte by byte (`decodeBytes_encodeByte`); the bytes read are the
text's own UTF-8 form, which decodes to the text (`decode?_encode`). With the empty text written
as nothing, these are the laws URL text relies on (`standard_lawful`).
-/
namespace PageRoutes.Percent

/-! ## Bytes of ASCII text -/

theorem toNat_ofNat_ascii {n : Nat} (small : n < 128) : (Char.ofNat n).toNat = n := by
  have valid : n.isValidChar := Or.inl (by omega)
  simp [Char.ofNat, valid, Char.ofNatAux, Char.toNat]

/-- An ASCII character is one byte in UTF-8. -/
theorem utf8EncodeChar_ascii {c : Char} (ascii : c.toNat < 128) :
    String.utf8EncodeChar c = [UInt8.ofNat c.toNat] := by
  have small : c.val.toNat < 128 := ascii
  have single : c.utf8Size = 1 := Char.utf8Size_eq_one_iff.2 (UInt32.le_iff_toNat_le.2 (by
    show c.val.toNat ≤ 127
    omega))
  rw [String.utf8EncodeChar_eq_singleton single]
  rfl

theorem flatMap_utf8EncodeChar_ascii : ∀ (cs : List Char), (∀ c ∈ cs, c.toNat < 128) →
    cs.flatMap String.utf8EncodeChar = cs.map fun c => UInt8.ofNat c.toNat
  | [], _ => rfl
  | c :: cs, ascii => by
    rw [List.flatMap_cons, utf8EncodeChar_ascii (ascii c List.mem_cons_self),
      flatMap_utf8EncodeChar_ascii cs fun d member => ascii d (List.mem_cons_of_mem c member)]
    rfl

theorem utf8_ascii {t : String} (ascii : ∀ c ∈ t.toList, c.toNat < 128) :
    utf8 t = t.toList.map fun c => UInt8.ofNat c.toNat :=
  flatMap_utf8EncodeChar_ascii _ ascii

/-- Every text is read back from its own UTF-8 bytes. -/
theorem fromUTF8?_utf8 (s : String) : String.fromUTF8? ⟨(utf8 s).toArray⟩ = some s := by
  have listed : s.toByteArray = (String.ofList s.toList).toByteArray := by
    rw [String.ofList_toList]
  have bytes : (⟨(utf8 s).toArray⟩ : ByteArray) = s.toByteArray := by
    rw [listed, String.toByteArray_ofList, List.utf8Encode, ← List.data_toByteArray]
    rfl
  rw [bytes, String.fromUTF8?, dif_pos s.isValidUTF8]
  rfl

theorem utf8_injective {s t : String} (same : utf8 s = utf8 t) : s = t := by
  have read := fromUTF8?_utf8 s
  rw [same, fromUTF8?_utf8 t] at read
  exact (Option.some.inj read).symm

/-! ## What one byte is written as -/

theorem hexValue?_hexDigit : ∀ n, n < 16 → hexValue? (UInt8.ofNat (hexDigit n).toNat) = some n := by
  decide

theorem hexDigit_ascii : ∀ n, n < 16 → (hexDigit n).toNat < 128 := by
  decide

/-- Hex digits are unreserved, so they are written as themselves. -/
theorem hexDigit_unreserved : ∀ n, n < 16 → isUnreserved (UInt8.ofNat (hexDigit n).toNat) = true := by
  decide

theorem unreserved_lt {b : UInt8} (unreserved : isUnreserved b = true) : b.toNat < 128 := by
  simp [isUnreserved] at unreserved
  omega

theorem percent_reserved : isUnreserved percentByte = false := by decide

theorem encodeByte_ascii (b : UInt8) : ∀ c ∈ encodeByte b, c.toNat < 128 := by
  unfold encodeByte
  split
  · rename_i unreserved
    have small := unreserved_lt unreserved
    simp [toNat_ofNat_ascii small, small]
  · have small : b.toNat < 256 := b.toNat_lt
    simp only [List.mem_cons, List.not_mem_nil, or_false, forall_eq_or_imp, forall_eq]
    exact ⟨by decide, hexDigit_ascii _ (by omega), hexDigit_ascii _ (by omega)⟩

/-- The bytes written for one byte. -/
theorem encodeByte_bytes (b : UInt8) :
    (encodeByte b).map (fun c => UInt8.ofNat c.toNat) =
      if isUnreserved b then [b]
      else [percentByte, UInt8.ofNat (hexDigit (b.toNat / 16)).toNat,
        UInt8.ofNat (hexDigit (b.toNat % 16)).toNat] := by
  unfold encodeByte
  split
  · rename_i unreserved
    simp [toNat_ofNat_ascii (unreserved_lt unreserved), UInt8.ofNat_toNat]
  · rfl

@[simp] theorem decodeBytes_nil : decodeBytes [] = [] := by
  simp [decodeBytes]

theorem decodeBytes_cons_of_ne {b : UInt8} (other : b ≠ percentByte) (rest : List UInt8) :
    decodeBytes (b :: rest) = b :: decodeBytes rest := by
  match rest with
  | [] => simp [decodeBytes]
  | [_] => simp [decodeBytes]
  | _ :: _ :: _ => simp [decodeBytes, other]

/-- A written byte reads back as itself, whatever follows it. -/
theorem decodeBytes_encodeByte (b : UInt8) (rest : List UInt8) :
    decodeBytes ((encodeByte b).map (fun c => UInt8.ofNat c.toNat) ++ rest) =
      b :: decodeBytes rest := by
  rw [encodeByte_bytes]
  split
  · rename_i unreserved
    have other : b ≠ percentByte := fun same => by
      rw [same, percent_reserved] at unreserved
      cases unreserved
    exact decodeBytes_cons_of_ne other rest
  · have high : b.toNat / 16 < 16 := by have := b.toNat_lt; omega
    have low : b.toNat % 16 < 16 := Nat.mod_lt _ (by omega)
    simp only [List.cons_append, List.nil_append, decodeBytes, if_true,
      hexValue?_hexDigit _ high, hexValue?_hexDigit _ low]
    rw [show b.toNat / 16 * 16 + b.toNat % 16 = b.toNat by omega, UInt8.ofNat_toNat]

/-! ## Written text -/

theorem toList_encode (s : String) : (encode s).toList = (utf8 s).flatMap encodeByte :=
  String.toList_ofList

theorem encode_ascii (s : String) : ∀ c ∈ (encode s).toList, c.toNat < 128 := by
  intro c member
  rw [toList_encode, List.mem_flatMap] at member
  obtain ⟨b, -, written⟩ := member
  exact encodeByte_ascii b c written

/-- A written character is `%` or an unreserved ASCII character. -/
theorem mem_encode {s : String} {c : Char} (member : c ∈ (encode s).toList) :
    c = '%' ∨ (c.toNat < 128 ∧ isUnreserved (UInt8.ofNat c.toNat) = true) := by
  rw [toList_encode, List.mem_flatMap] at member
  obtain ⟨b, -, written⟩ := member
  unfold encodeByte at written
  split at written
  · rename_i unreserved
    rw [List.mem_singleton] at written
    subst written
    have small := unreserved_lt unreserved
    rw [toNat_ofNat_ascii small, UInt8.ofNat_toNat]
    exact Or.inr ⟨small, unreserved⟩
  · have small : b.toNat < 256 := b.toNat_lt
    simp only [List.mem_cons, List.not_mem_nil, or_false] at written
    rcases written with percent | high | low
    · exact Or.inl percent
    · subst high
      exact Or.inr ⟨hexDigit_ascii _ (by omega), hexDigit_unreserved _ (by omega)⟩
    · subst low
      exact Or.inr ⟨hexDigit_ascii _ (by omega), hexDigit_unreserved _ (by omega)⟩

theorem encode_eq_empty_iff {s : String} : encode s = "" ↔ s = "" := by
  rw [← String.toList_inj, toList_encode, ← String.toList_inj, String.toList_empty,
    List.flatMap_eq_nil_iff]
  constructor
  · intro none
    cases chars : s.toList with
    | nil => rfl
    | cons c cs =>
      obtain ⟨b, bs, bytes⟩ := List.exists_cons_of_ne_nil (String.utf8EncodeChar_ne_nil (c := c))
      have := none b (by simp [utf8, chars, bytes])
      unfold encodeByte at this
      split at this <;> simp at this
  · intro empty b member
    simp [utf8, empty] at member

/-! ## Reading back -/

theorem utf8_encode (s : String) :
    utf8 (encode s) = (utf8 s).flatMap fun b => (encodeByte b).map fun c => UInt8.ofNat c.toNat := by
  rw [utf8_ascii (encode_ascii s), toList_encode, List.map_flatMap]

theorem decodeBytes_encodeBytes : ∀ (bs rest : List UInt8),
    decodeBytes ((bs.flatMap fun b => (encodeByte b).map fun c => UInt8.ofNat c.toNat) ++ rest) =
      bs ++ decodeBytes rest
  | [], rest => rfl
  | b :: bs, rest => by
    rw [List.flatMap_cons, List.append_assoc, decodeBytes_encodeByte, decodeBytes_encodeBytes bs rest,
      List.cons_append]

theorem decodeBytes_of_not_mem : ∀ {bs : List UInt8}, percentByte ∉ bs → decodeBytes bs = bs
  | [], _ => decodeBytes_nil
  | b :: bs, absent => by
    rw [List.mem_cons, not_or] at absent
    rw [decodeBytes_cons_of_ne (Ne.symm absent.1), decodeBytes_of_not_mem absent.2]

/-- Reading a written component gives it back. -/
theorem decode?_encode (s : String) : decode? (encode s) = some s := by
  have read : decodeBytes (utf8 (encode s)) = utf8 s := by
    have each := decodeBytes_encodeBytes (utf8 s) []
    rw [List.append_nil, decodeBytes_nil, List.append_nil] at each
    rw [utf8_encode]
    exact each
  unfold decode?
  split
  · rw [read, fromUTF8?_utf8]
  · rename_i noPercent
    -- without a `%` nothing was escaped, so the text was written as itself
    congr 1
    apply utf8_injective
    rw [← read, decodeBytes_of_not_mem]
    intro member
    rw [utf8_ascii (encode_ascii s), List.mem_map] at member
    obtain ⟨c, written, byte⟩ := member
    have ascii := encode_ascii s c written
    have same : c = '%' := by
      apply Char.ext
      apply UInt32.toNat_inj.1
      have := congrArg UInt8.toNat byte
      simp [percentByte, Nat.mod_eq_of_lt (show c.toNat < 256 by omega)] at this
      exact this
    exact noPercent (same ▸ written)

/-! ## The laws -/

/-- An unreserved ASCII character is an ASCII letter or digit, `-`, `.`, `_` or `~`. -/
theorem unreserved_char {c : Char} (ascii : c.toNat < 128)
    (unreserved : isUnreserved (UInt8.ofNat c.toNat) = true) :
    c.isAlphanum = true ∨ c ∈ ['-', '.', '_', '~'] := by
  have byte : (UInt8.ofNat c.toNat).toNat = c.toNat := by
    simp [Nat.mod_eq_of_lt (show c.toNat < 256 by omega)]
  simp only [isUnreserved, byte] at unreserved
  simp only [Char.isAlphanum, Char.isAlpha, Char.isUpper, Char.isLower, Char.isDigit,
    List.mem_cons, List.not_mem_nil, or_false, ← Char.toNat_inj]
  simp only [Bool.or_eq_true, Bool.and_eq_true, decide_eq_true_eq, beq_iff_eq] at unreserved ⊢
  simp only [UInt32.le_iff_toNat_le, ge_iff_le, Char.toNat_val, Char.reduceToNat]
  omega

theorem encode_escaped (s : String) : ∀ c ∈ (encode s).toList,
    c = '%' ∨ c.isAlphanum = true ∨ c ∈ ['-', '.', '_', '~'] := by
  intro c member
  rcases mem_encode member with percent | ⟨ascii, unreserved⟩
  · exact .inl percent
  · exact .inr (unreserved_char ascii unreserved)

theorem standard_lawful : standard.Lawful where
  decode?_encode s := by
    rw [standard_decode?, standard_encode]
    exact decode?_encode s
  encode_empty := by
    rw [standard_encode]
    exact encode_eq_empty_iff.2 rfl
  escaped s := by
    rw [standard_encode]
    exact encode_escaped s

end PageRoutes.Percent
