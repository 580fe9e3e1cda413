import PageRoutes.PageRef
import PageRoutes.Proofs.Text
/-!
Page reference tokens read back as they were written.

A token is written exactly for a reference with a page id whose listener part, if it has
one, is `Writable`: a listener name, a non-empty component path and no `~` in that path
(`encode_isSome_iff`). Reading a written token gives the reference back
(`decode_encode`). The numbers are decimal digits, which hold neither `-` nor `.`, so the
first `-` ends the page id and the next one ends the head; a listener name never starts
with a digit, so a lone number beside it is a render count before it and a behavior index
after it (`decodeHead_fields`); and a path without `~` reads back through the escapes. A URL
that carries a written token first in its query gives the reference back (`ofUrl_writeTo`).
-/
namespace PageRoutes.PageRef

/-! ## Numbers -/

theorem toString_toList_eq_toDigits (n : UInt32) :
    (toString n).toList = Nat.toDigits 10 n.toNat := by
  simp [toString, Nat.toList_repr]

theorem isDigit_of_mem_toString {n : UInt32} {c : Char} (mem : c ∈ (toString n).toList) :
    c.isDigit = true := by
  rw [toString_toList_eq_toDigits] at mem
  exact Nat.isDigit_of_mem_toDigits (by decide) (by decide) mem

theorem not_mem_toString {n : UInt32} {c : Char} (notDigit : c.isDigit = false) :
    c ∉ (toString n).toList := fun mem => by
  simp [isDigit_of_mem_toString mem] at notDigit

/-- The reader's fold is `Nat.ofDigitChars` with the factors the other way round. -/
theorem digitFold_eq_ofDigitChars (cs : List Char) :
    cs.foldl (fun acc c => acc * 10 + (c.toNat - 48)) 0 = Nat.ofDigitChars 10 cs 0 := by
  rw [Nat.ofDigitChars_eq_foldl]
  congr 1
  funext acc c
  rw [Nat.mul_comm]
  rfl

theorem parseNumber?_toString (n : UInt32) : parseNumber? (toString n).toList = some n := by
  have digits : (toString n).toList.all Char.isDigit = true :=
    List.all_eq_true.2 fun c mem => isDigit_of_mem_toString mem
  have value : (toString n).toList.foldl (fun acc c => acc * 10 + (c.toNat - 48)) 0 = n.toNat := by
    rw [digitFold_eq_ofDigitChars, toString_toList_eq_toDigits, Nat.ofDigitChars_ten_toDigits]
  have nonempty : (toString n).toList.isEmpty = false := by
    simp [toString_toList_eq_toDigits, Nat.toDigits_ne_nil]
  have bound : n.toNat < 4294967296 := n.toNat_lt
  simp [parseNumber?, nonempty, digits, value, bound]

/-- `ds` is a numeral of `n`: at least one ASCII digit, with decimal value `n`. -/
def Numeral (ds : List Char) (n : UInt32) : Prop :=
  ds ≠ [] ∧ (∀ c ∈ ds, c.isDigit = true) ∧ Nat.ofDigitChars 10 ds 0 = n.toNat

theorem parseNumber?_eq_some_iff {ds : List Char} {n : UInt32} :
    parseNumber? ds = some n ↔ Numeral ds n := by
  unfold parseNumber? Numeral
  rw [digitFold_eq_ofDigitChars]
  by_cases empty : ds = []
  · simp [empty]
  by_cases digits : ∀ c ∈ ds, c.isDigit = true
  · by_cases small : Nat.ofDigitChars 10 ds 0 < 4294967296
    · have value :
          (Nat.ofDigitChars 10 ds 0).toUInt32 = n ↔ Nat.ofDigitChars 10 ds 0 = n.toNat := by
        constructor
        · rintro rfl
          simp [Nat.toUInt32, Nat.mod_eq_of_lt small]
        · intro same
          rw [same]
          exact UInt32.ofNat_toNat
      simp only [← value]
      simp [empty, small]
    · -- a value past 32 bits is no number's
      have large : ∀ n : UInt32, Nat.ofDigitChars 10 ds 0 ≠ n.toNat := fun n same =>
        small (same ▸ n.toNat_lt)
      simp [empty, small, large]
  · simp [empty, digits]

theorem numeral_toString (n : UInt32) : Numeral (toString n).toList n :=
  parseNumber?_eq_some_iff.1 (parseNumber?_toString n)

theorem Numeral.not_mem {ds : List Char} {n : UInt32} (numeral : Numeral ds n) {c : Char}
    (notDigit : c.isDigit = false) : c ∉ ds := fun mem => by
  simp [numeral.2.1 c mem] at notDigit

/-! ## Listener names -/

/-- The characters a listener name is made of. -/
def isListenerChar (c : Char) : Bool := c.isAlphanum || c = '_' || c = '$'

theorem isListenerChar_of_mem {name : String} (valid : isListenerName name = true) {c : Char}
    (mem : c ∈ name.toList) : isListenerChar c = true := by
  unfold isListenerName at valid
  split at valid
  · simp_all
  · rename_i first rest chars
    simp only [Bool.and_eq_true, List.all_eq_true] at valid
    rw [chars, List.mem_cons] at mem
    rcases mem with rfl | later
    · simp only [isListenerChar, Char.isAlphanum, Bool.or_eq_true] at valid ⊢
      rcases valid.1 with (alpha | underscore) | dollar
      · exact Or.inl (Or.inl (Or.inl alpha))
      · exact Or.inl (Or.inr underscore)
      · exact Or.inr dollar
    · exact valid.2 c later

theorem dot_not_mem_listener {name : String} (valid : isListenerName name = true) :
    '.' ∉ name.toList := fun mem => by
  simpa [isListenerChar] using isListenerChar_of_mem valid mem

theorem dash_not_mem_listener {name : String} (valid : isListenerName name = true) :
    '-' ∉ name.toList := fun mem => by
  simpa [isListenerChar] using isListenerChar_of_mem valid mem

/-- A listener name starts with a letter, `_` or `$`, never with a digit, so it is no
number: this is what tells a render count from a behavior index. -/
theorem parseNumber?_listener {name : String} (valid : isListenerName name = true) :
    parseNumber? name.toList = none := by
  unfold isListenerName at valid
  split at valid
  · simp_all
  · rename_i first rest chars
    simp only [Bool.and_eq_true] at valid
    have notDigit : first.isDigit = false := by
      have start := valid.1
      simp only [Char.isDigit, Char.isAlpha, Char.isUpper, Char.isLower, Bool.or_eq_true,
        Bool.and_eq_true, decide_eq_true_eq] at start ⊢
      rcases start with ((⟨low, high⟩ | ⟨low, high⟩) | rfl) | rfl
      · simp only [ge_iff_le, UInt32.le_iff_toNat_le] at low high ⊢
        simp at low high ⊢
        omega
      · simp only [ge_iff_le, UInt32.le_iff_toNat_le] at low high ⊢
        simp at low high ⊢
        omega
      · decide
      · decide
    simp [parseNumber?, chars, notDigit]

/-! ## Listener references -/

/-- What a listener reference must be for its part of a token to be written. -/
structure Writable (l : ListenerRef) : Prop where
  name : isListenerName l.listener = true
  path_ne : l.componentPath ≠ ""
  no_tilde : '~' ∉ l.componentPath.toList

/-- The characters of a written listener reference before the `-` that opens its path. -/
def headChars (l : ListenerRef) : List Char :=
  (match l.renderCount with
    | some n => (toString n).toList ++ ['.']
    | none => []) ++
  l.listener.toList ++
  (match l.behaviorIndex with
    | some n => '.' :: (toString n).toList
    | none => [])

theorem encodeListener_of_writable {l : ListenerRef} (w : Writable l) :
    encodeListener l =
      some (String.ofList (headChars l ++ '-' :: encodePath l.componentPath.toList)) := by
  have nonempty : l.componentPath.isEmpty = false := String.isEmpty_eq_false_iff.2 w.path_ne
  simp only [encodeListener, w.name, nonempty, w.no_tilde, Bool.not_true, decide_false,
    Bool.or_false, Bool.false_eq_true, if_false]
  congr 1
  rw [← String.toList_inj]
  obtain ⟨rc, name, bi, path⟩ := l
  cases rc <;> cases bi <;> simp [headChars]

theorem encodeListener_isSome_iff (l : ListenerRef) : (encodeListener l).isSome ↔ Writable l := by
  constructor
  · intro written
    unfold encodeListener at written
    split at written
    · simp at written
    · rename_i allowed
      simp only [Bool.or_eq_true, Bool.not_eq_true', decide_eq_true_eq, not_or] at allowed
      obtain ⟨⟨name, path⟩, tilde⟩ := allowed
      exact ⟨by simpa using name, by simpa [String.isEmpty_iff] using path, tilde⟩
  · intro w
    simp [encodeListener_of_writable w]

theorem dash_not_mem_headChars {l : ListenerRef} (w : Writable l) : '-' ∉ headChars l := by
  have digits : ∀ n : UInt32, '-' ∉ (toString n).toList := fun _ => not_mem_toString (by decide)
  obtain ⟨rc, name, bi, path⟩ := l
  have listener := dash_not_mem_listener w.name
  cases rc <;> cases bi <;> simp_all [headChars]

/-- The render count before a listener name: nothing, or a numeral and a `.`. -/
inductive CountField : List Char → Option UInt32 → Prop
  | absent : CountField [] none
  | present {ds : List Char} {n : UInt32} : Numeral ds n → CountField (ds ++ ['.']) (some n)

/-- The behavior index after a listener name: nothing, or a `.` and a numeral. -/
inductive IndexField : List Char → Option UInt32 → Prop
  | absent : IndexField [] none
  | present {ds : List Char} {n : UInt32} : Numeral ds n → IndexField ('.' :: ds) (some n)

theorem CountField.dash_not_mem {count : List Char} {rc : Option UInt32}
    (field : CountField count rc) : '-' ∉ count := by
  cases field with
  | absent => simp
  | present numeral => simp [numeral.not_mem (c := '-') (by decide)]

theorem IndexField.dash_not_mem {index : List Char} {bi : Option UInt32}
    (field : IndexField index bi) : '-' ∉ index := by
  cases field with
  | absent => simp
  | present numeral => simp [numeral.not_mem (c := '-') (by decide)]

/-- Whichever numbers stand around a listener name, the head reads back as its three fields: a
lone number before the name is a render count, after it a behavior index. -/
theorem decodeHead_fields {count index : List Char} {rc bi : Option UInt32} {name : String}
    (countField : CountField count rc) (valid : isListenerName name = true)
    (indexField : IndexField index bi) :
    decodeHead ((count ++ (name.toList ++ index)).splitOn '.') = some (rc, name.toList, bi) := by
  have listener : '.' ∉ name.toList := dot_not_mem_listener valid
  have notNumber : parseNumber? name.toList = none := parseNumber?_listener valid
  cases countField with
  | absent =>
    cases indexField with
    | absent => simp [List.splitOn_eq_singleton listener, decodeHead]
    | present bi =>
      have digits := bi.not_mem (c := '.') (by decide)
      simp [List.splitOn_append_cons_self_of_not_mem listener, List.splitOn_eq_singleton digits,
        decodeHead, notNumber, parseNumber?_eq_some_iff.2 bi]
  | present rc =>
    have countDigits := rc.not_mem (c := '.') (by decide)
    cases indexField with
    | absent =>
      simp [List.splitOn_append_cons_self_of_not_mem countDigits,
        List.splitOn_eq_singleton listener, decodeHead, parseNumber?_eq_some_iff.2 rc]
    | present bi =>
      have digits := bi.not_mem (c := '.') (by decide)
      simp [List.splitOn_append_cons_self_of_not_mem countDigits,
        List.splitOn_append_cons_self_of_not_mem listener, List.splitOn_eq_singleton digits,
        decodeHead, parseNumber?_eq_some_iff.2 rc, parseNumber?_eq_some_iff.2 bi]

/-- The head of a written listener reference reads back as its three fields, whichever of
the two numbers it carries. -/
theorem decodeHead_headChars {l : ListenerRef} (w : Writable l) :
    decodeHead ((headChars l).splitOn '.') =
      some (l.renderCount, l.listener.toList, l.behaviorIndex) := by
  obtain ⟨rc, name, bi, path⟩ := l
  have valid : isListenerName name = true := w.name
  clear w
  -- the written numbers are numerals of their values
  have count : CountField (match rc with
      | some n => (toString n).toList ++ ['.']
      | none => []) rc := by
    cases rc with
    | none => exact .absent
    | some n => exact .present (numeral_toString n)
  have index : IndexField (match bi with
      | some n => '.' :: (toString n).toList
      | none => []) bi := by
    cases bi with
    | none => exact .absent
    | some n => exact .present (numeral_toString n)
  simpa [headChars] using decodeHead_fields count valid index

theorem decodePath_encodePath {path : List Char} (noTilde : '~' ∉ path) :
    decodePath (encodePath path) = path := by
  induction path with
  | nil => rfl
  | cons c rest ih =>
    have notTilde : c ≠ '~' := fun same => noTilde (same ▸ List.mem_cons_self)
    have restClean : '~' ∉ rest := fun mem => noTilde (List.mem_cons_of_mem c mem)
    simp only [encodePath, decodePath, List.map_cons] at ih ⊢
    rw [ih restClean]
    by_cases colon : c = ':'
    · simp [colon]
    · by_cases dash : c = '-'
      · simp [dash]
      · simp [colon, dash, notTilde]

theorem decodeListener_written {l : ListenerRef} (w : Writable l) :
    decodeListener (headChars l ++ '-' :: encodePath l.componentPath.toList) = some l := by
  have pathNonempty : encodePath l.componentPath.toList ≠ [] := by
    have nonempty : l.componentPath.toList ≠ [] := fun empty =>
      w.path_ne (String.toList_eq_nil_iff.1 empty)
    simpa [encodePath] using nonempty
  simp [decodeListener, Text.splitOnce_append_cons (dash_not_mem_headChars w), pathNonempty,
    decodeHead_headChars w, w.name, decodePath_encodePath w.no_tilde]

/-! ## Tokens -/

theorem encode_isSome_iff (r : PageRef) :
    (encode r).isSome ↔ r.pageId.isSome ∧ ∀ l ∈ r.component, Writable l := by
  obtain ⟨pageId, component⟩ := r
  cases pageId with
  | none => simp [encode]
  | some id =>
    cases component with
    | none => simp [encode]
    | some l =>
      have listener := encodeListener_isSome_iff l
      cases written : encodeListener l <;> simp_all [encode]

theorem decode_encode {r : PageRef} {token : String} (written : encode r = some token) :
    decode token = some r := by
  obtain ⟨pageId, component⟩ := r
  have digits : ∀ n : UInt32, '-' ∉ (toString n).toList := fun _ => not_mem_toString (by decide)
  cases pageId with
  | none => simp [encode] at written
  | some id =>
    cases component with
    | none =>
      simp only [encode, Option.pure_def, Option.bind_eq_bind, Option.bind_some,
        Option.some.injEq] at written
      subst written
      simp [decode, Text.splitOnce_eq_none (digits id), parseNumber?_toString]
    | some l =>
      have w : Writable l := by
        rw [← encodeListener_isSome_iff]
        cases listener : encodeListener l <;> simp_all [encode]
      simp only [encode, encodeListener_of_writable w, Option.pure_def, Option.bind_eq_bind,
        Option.bind_some, Option.some.injEq] at written
      subst written
      simp [decode, Text.splitOnce_append_cons (digits id), parseNumber?_toString,
        decodeListener_written w]

theorem ofUrl_writeTo {r : PageRef} {token : String} (written : encode r = some token) (u : Url) :
    ofUrl (writeTo r u) = some r := by
  simp [writeTo, written, ofUrl, decode_encode written]

/-- A token is written exactly for a reference with a page id and a writable listener part,
if any; a written token, alone or first in the query of any URL, reads back as the
reference. -/
theorem token_round_trip (r : PageRef) :
    ((encode r).isSome ↔ r.pageId.isSome ∧ ∀ l ∈ r.component, Writable l) ∧
    ∀ token, encode r = some token →
      decode token = some r ∧ ∀ u : Url, ofUrl (writeTo r u) = some r :=
  ⟨encode_isSome_iff r, fun _ written => ⟨decode_encode written, ofUrl_writeTo written⟩⟩

/-- The largest page id, both numbers at zero and a path holding `:` and `-`. -/
theorem token_round_trip_boundary :
    decode "4294967295-0.ILinkListener.0-foo-my~bar" =
      some { pageId := some 4294967295,
             component := some { renderCount := some 0, listener := "ILinkListener",
                                 behaviorIndex := some 0, componentPath := "foo:my-bar" } } :=
  ((token_round_trip _).2 _ (by decide)).1

end PageRoutes.PageRef
