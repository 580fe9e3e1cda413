import Mathlib.Data.List.Forall2
import PageRoutes.Proofs.TemplateLayout
/-!
# Compiling mount paths

The grammar a mount path is compiled by, stated on its own: a non-empty segment that is wrapped
whole in `${` and `}` or `#{` and `}` is a placeholder and needs a valid name, every other
segment is a literal of its own text (`Reads`), and no two placeholders share a name. A refused
path is refused for its leftmost bad segment, at the byte offset of the first bad byte of the
name, or of the segment itself for an empty name (`Refused`). The segments are the non-empty
runs between slashes, each at its byte offset in the path (`segmentsOf`, `segmentsOf_sits`).
The main statement, `compile_exact_grammar`, says that compiling succeeds exactly on this
grammar, with these parts or this error, and that the written template compiles back to itself.

Compiling given segments classifies each by stripping its wrapper and counts offsets as it
goes, and still agrees with compiling the segments joined by slashes
(`ofSegments_eq_compile`).
-/
namespace PageRoutes.Template

/-! ## The segment grammar -/

/-- The characters that open a placeholder: `$` for a required one, `#` for an optional one. -/
def IsOpener (o : Char) : Prop := o = '$' ∨ o = '#'

/-- A placeholder segment: the opener, `{`, the name and `}`. -/
def wrap (opener : Char) (name : List Char) : List Char := opener :: '{' :: name ++ ['}']

/-- A placeholder name: an ASCII letter or `_`, then ASCII letters, digits, `_`, `-` and `.`. -/
def validName : List Char → Bool
  | [] => false
  | c :: rest => isNameStart c && rest.all isNameChar

/-- How a non-empty segment reads as a part. -/
inductive Reads : List Char → Part → Prop
  | required {name : List Char} : validName name = true →
      Reads (wrap '$' name) (.required (String.ofList name))
  | optional {name : List Char} : validName name = true →
      Reads (wrap '#' name) (.optional (String.ofList name))
  | literal {piece : List Char} : (∀ o name, IsOpener o → piece ≠ wrap o name) →
      Reads piece (.literal (String.ofList piece))

/-- Why the name of a placeholder segment at byte offset `pos` is refused. The name starts two
bytes after the segment; an empty name is reported at the segment, a bad character at its
first byte. -/
inductive NameFault (pos : Nat) : List Char → ParseError → Prop
  | empty : NameFault pos [] (.emptyName pos)
  | start {c : Char} {rest : List Char} : isNameStart c = false →
      NameFault pos (c :: rest) (.unexpected .start (leadByte c) (pos + 2))
  | inner {c bad : Char} {good rest : List Char} : isNameStart c = true →
      good.all isNameChar = true → isNameChar bad = false →
      NameFault pos (c :: good ++ bad :: rest)
        (.unexpected .inner (leadByte bad) (pos + 2 + Text.byteLength (c :: good)))

/-- Why a segment, at its byte offset, is refused after parts with the names `earlier`: its
placeholder name is bad, or it reads as a placeholder whose name is taken. -/
inductive Refused (earlier : List String) : Nat × List Char → ParseError → Prop
  | malformed {o : Char} {pos : Nat} {name : List Char} {e : ParseError} : IsOpener o →
      NameFault pos name e → Refused earlier (pos, wrap o name) e
  | repeated {pos : Nat} {piece : List Char} {part : Part} {name : String} : Reads piece part →
      part.name? = some name → name ∈ earlier → Refused earlier (pos, piece) (.duplicate name)

/-! ## One segment -/

theorem wrap_inj {o o' : Char} {name name' : List Char} :
    wrap o name = wrap o' name' ↔ o = o' ∧ name = name' := by
  simp [wrap]

theorem wrappedName?_eq_some_iff {o : Char} {piece name : List Char} :
    wrappedName? o piece = some name ↔ piece = wrap o name := by
  constructor
  · intro found
    unfold wrappedName? at found
    split at found
    · rename_i c rest
      split at found
      · rename_i closed
        obtain ⟨rfl, last⟩ := closed
        cases found
        simp [wrap, List.dropLast_append_getLast? _ last]
      · cases found
    · cases found
  · rintro rfl
    simp [wrap, wrappedName?]

theorem firstBadChar_eq_none_iff {cs : List Char} {pos : Nat} :
    firstBadChar cs pos = none ↔ cs.all isNameChar = true := by
  induction cs generalizing pos with
  | nil => simp [firstBadChar]
  | cons c cs ih => by_cases ok : isNameChar c <;> simp [firstBadChar, ok, ih]

theorem firstBadChar_eq_some_iff {cs : List Char} {pos : Nat} {bad : Char} {at_ : Nat} :
    firstBadChar cs pos = some (bad, at_) ↔ ∃ good rest, cs = good ++ bad :: rest ∧
      good.all isNameChar = true ∧ isNameChar bad = false ∧ at_ = pos + Text.byteLength good := by
  induction cs generalizing pos with
  | nil => simp [firstBadChar]
  | cons c cs ih =>
    by_cases ok : isNameChar c
    · simp only [firstBadChar, ok, if_true, ih]
      constructor
      · rintro ⟨good, rest, rfl, goodOk, badNot, rfl⟩
        exact ⟨c :: good, rest, rfl, by simp [ok, goodOk], badNot,
          by simp [Text.byteLength]; omega⟩
      · rintro ⟨good, rest, split, goodOk, badNot, rfl⟩
        cases good with
        | nil =>
          simp only [List.nil_append, List.cons.injEq] at split
          obtain ⟨rfl, rfl⟩ := split
          simp [ok] at badNot
        | cons d good =>
          simp only [List.cons_append, List.cons.injEq] at split
          obtain ⟨rfl, rfl⟩ := split
          simp only [List.all_cons, Bool.and_eq_true] at goodOk
          exact ⟨good, rest, rfl, goodOk.2, badNot, by simp [Text.byteLength]; omega⟩
    · simp only [firstBadChar, ok, Bool.false_eq_true, if_false, Option.some.injEq, Prod.mk.injEq]
      constructor
      · rintro ⟨rfl, rfl⟩
        exact ⟨[], cs, rfl, rfl, by simpa using ok, by simp [Text.byteLength]⟩
      · rintro ⟨good, rest, split, goodOk, badNot, rfl⟩
        cases good with
        | nil =>
          simp only [List.nil_append, List.cons.injEq] at split
          obtain ⟨rfl, rfl⟩ := split
          simp [Text.byteLength]
        | cons d good =>
          simp only [List.cons_append, List.cons.injEq] at split
          obtain ⟨rfl, rfl⟩ := split
          simp [ok] at goodOk

theorem checkName_eq_ok_iff {name : List Char} {pos : Nat} {n : String} :
    checkName name pos = .ok n ↔ validName name = true ∧ n = String.ofList name := by
  cases name with
  | nil => simp [checkName, validName]
  | cons c rest =>
    by_cases start : isNameStart c
    · cases bad : firstBadChar rest (pos + c.utf8Size) with
      | none =>
        have clean := firstBadChar_eq_none_iff.1 bad
        simp [checkName, validName, start, bad, clean, eq_comm]
      | some found =>
        obtain ⟨badChar, at_⟩ := found
        obtain ⟨good, more, rfl, -, badNot, -⟩ := firstBadChar_eq_some_iff.1 bad
        simp [checkName, validName, start, bad, badNot]
    · simp [checkName, validName, start]

theorem checkName_eq_error_iff {name : List Char} {pos : Nat} {e : ParseError} :
    checkName name (pos + 2) = .error e ↔ NameFault pos name e := by
  constructor
  · intro refused
    cases name with
    | nil =>
      simp only [checkName, Nat.add_sub_cancel, Except.error.injEq] at refused
      exact refused ▸ .empty
    | cons c rest =>
      by_cases start : isNameStart c
      · cases bad : firstBadChar rest (pos + 2 + c.utf8Size) with
        | none => simp [checkName, start, bad] at refused
        | some found =>
          obtain ⟨badChar, at_⟩ := found
          obtain ⟨good, more, rfl, goodOk, badNot, rfl⟩ := firstBadChar_eq_some_iff.1 bad
          simp only [checkName, start, if_true, bad, Except.error.injEq] at refused
          subst refused
          have offset : pos + 2 + c.utf8Size + Text.byteLength good =
              pos + 2 + Text.byteLength (c :: good) := by
            simp [Text.byteLength]; omega
          rw [offset]
          exact .inner start goodOk badNot
      · simp only [checkName, start, Bool.false_eq_true, if_false, Except.error.injEq] at refused
        exact refused ▸ .start (by simpa using start)
  · intro fault
    cases fault with
    | empty => simp [checkName]
    | start notStart => simp [checkName, notStart]
    | inner start goodOk badNot =>
      rename_i c bad good rest
      have found : firstBadChar (good ++ bad :: rest) (pos + 2 + c.utf8Size) =
          some (bad, pos + 2 + Text.byteLength (c :: good)) :=
        firstBadChar_eq_some_iff.2 ⟨good, rest, rfl, goodOk, badNot,
          by simp [Text.byteLength]; omega⟩
      simp [checkName, start, found]

theorem reads_wrap_iff {o : Char} {name : List Char} {part : Part} (opener : IsOpener o) :
    Reads (wrap o name) part ↔ validName name = true ∧
      part = (if o = '$' then .required (String.ofList name)
        else .optional (String.ofList name)) := by
  constructor
  · intro reads
    generalize shape : wrap o name = piece at reads
    cases reads with
    | required valid =>
      obtain ⟨rfl, rfl⟩ := wrap_inj.1 shape
      exact ⟨valid, by simp⟩
    | optional valid =>
      obtain ⟨rfl, rfl⟩ := wrap_inj.1 shape
      exact ⟨valid, by simp⟩
    | literal unwrapped => exact absurd shape.symm (unwrapped o name opener)
  · rintro ⟨valid, rfl⟩
    rcases opener with rfl | rfl
    · exact .required valid
    · exact .optional valid

theorem readPart_wrap {o : Char} (opener : IsOpener o) (pos : Nat) (name : List Char) :
    readPart pos (wrap o name) = (checkName name (pos + 2)).map
      (if o = '$' then .required else .optional) := by
  have dollar := @wrappedName?_eq_some_iff '$' (wrap o name) name
  have hash := @wrappedName?_eq_some_iff '#' (wrap o name) name
  rcases opener with rfl | rfl
  · simp only [readPart, dollar.2 rfl]
    cases checkName name (pos + 2) <;> rfl
  · have noDollar : wrappedName? '$' (wrap '#' name) = none := by simp [wrap, wrappedName?]
    simp only [readPart, noDollar, hash.2 rfl]
    cases checkName name (pos + 2) <;> rfl

theorem readPart_unwrapped {piece : List Char}
    (unwrapped : ∀ o name, IsOpener o → piece ≠ wrap o name) (pos : Nat) :
    readPart pos piece = .ok (.literal (String.ofList piece)) := by
  have dollar : wrappedName? '$' piece = none := Option.eq_none_iff_forall_ne_some.2
    fun name found => unwrapped '$' name (.inl rfl) (wrappedName?_eq_some_iff.1 found)
  have hash : wrappedName? '#' piece = none := Option.eq_none_iff_forall_ne_some.2
    fun name found => unwrapped '#' name (.inr rfl) (wrappedName?_eq_some_iff.1 found)
  simp [readPart, dollar, hash]

theorem wrapped_or_unwrapped (piece : List Char) :
    (∃ o name, IsOpener o ∧ piece = wrap o name) ∨ ∀ o name, IsOpener o → piece ≠ wrap o name := by
  by_cases wrapped : ∃ o name, IsOpener o ∧ piece = wrap o name
  · exact .inl wrapped
  · exact .inr fun o name opener same => wrapped ⟨o, name, opener, same⟩

/-- Reading one segment succeeds exactly with the part the grammar gives it. -/
theorem readPart_eq_ok_iff {pos : Nat} {piece : List Char} {part : Part} :
    readPart pos piece = .ok part ↔ Reads piece part := by
  rcases wrapped_or_unwrapped piece with ⟨o, name, opener, rfl⟩ | unwrapped
  · rw [readPart_wrap opener, reads_wrap_iff opener]
    cases checked : checkName name (pos + 2) with
    | error e =>
      have invalid : validName name = false := by
        cases valid : validName name
        · rfl
        · simp [checkName_eq_ok_iff.2 ⟨valid, rfl⟩] at checked
      simp [Except.map, invalid]
    | ok n =>
      obtain ⟨valid, rfl⟩ := checkName_eq_ok_iff.1 checked
      by_cases dollar : o = '$' <;> simp [Except.map, dollar, valid, eq_comm]
  · rw [readPart_unwrapped unwrapped]
    constructor
    · rintro ⟨⟩
      exact .literal unwrapped
    · intro reads
      cases reads with
      | required => exact absurd rfl (unwrapped '$' _ (.inl rfl))
      | optional => exact absurd rfl (unwrapped '#' _ (.inr rfl))
      | literal => rfl

/-- Reading one segment fails exactly when it is wrapped as a placeholder around a bad name. -/
theorem readPart_eq_error_iff {pos : Nat} {piece : List Char} {e : ParseError} :
    readPart pos piece = .error e ↔
      ∃ o name, IsOpener o ∧ piece = wrap o name ∧ NameFault pos name e := by
  rcases wrapped_or_unwrapped piece with ⟨o, name, opener, rfl⟩ | unwrapped
  · rw [readPart_wrap opener]
    constructor
    · intro refused
      refine ⟨o, name, opener, rfl, checkName_eq_error_iff.1 ?_⟩
      cases checked : checkName name (pos + 2) <;> simp_all [Except.map]
    · rintro ⟨o', name', -, same, fault⟩
      obtain ⟨rfl, rfl⟩ := wrap_inj.1 same
      simp [checkName_eq_error_iff.2 fault, Except.map]
  · rw [readPart_unwrapped unwrapped]
    simp only [reduceCtorEq, false_iff, not_exists, not_and]
    exact fun o name opener same => absurd same (unwrapped o name opener)

/-! ## Reading segments in order -/

theorem any_name_iff {done : List Part} {name : String} :
    done.any (·.name? == some name) = true ↔ name ∈ names done := by
  simp [names, List.mem_filterMap]

theorem names_nodup_append_singleton {done : List Part} {part : Part} :
    (names (done ++ [part])).Nodup ↔
      (names done).Nodup ∧ ∀ name, part.name? = some name → name ∉ names done := by
  cases named : part.name? with
  | none => simp [names, named]
  | some name =>
    rw [names_append, show names [part] = [name] by simp [names, named], List.nodup_append]
    simp only [List.nodup_cons, List.not_mem_nil, not_false_eq_true, List.nodup_nil, and_self,
      List.mem_singleton, Option.some.injEq, forall_eq', true_and]
    exact and_congr_right fun _ =>
      ⟨fun distinct taken => distinct name taken name rfl rfl,
        fun absent a member b same equal => absent (same ▸ equal ▸ member)⟩

/-- Names distinct over parts read so far and later ones are distinct over a prefix of them. -/
theorem names_nodup_prefix {done later : List Part} {part : Part}
    (distinct : (names (done ++ part :: later)).Nodup) : (names (done ++ [part])).Nodup := by
  rw [show done ++ part :: later = done ++ [part] ++ later by simp, names_append] at distinct
  exact distinct.sublist (List.sublist_append_left _ _)

/-- One step of reading: the next segment is refused for a bad name, refused because its name
is taken, or added to the parts read so far. -/
theorem readParts_cons_eq_iff {done : List Part} {pos : Nat} {piece : List Char}
    {rest : List (Nat × List Char)} {r : Except ParseError (List Part)} :
    readParts done ((pos, piece) :: rest) = r ↔
      (∃ e, readPart pos piece = .error e ∧ r = .error e) ∨
      (∃ part name, readPart pos piece = .ok part ∧ part.name? = some name ∧
        name ∈ names done ∧ r = .error (.duplicate name)) ∨
      (∃ part, readPart pos piece = .ok part ∧
        (∀ name, part.name? = some name → name ∉ names done) ∧
        readParts (done ++ [part]) rest = r) := by
  cases read : readPart pos piece with
  | error e =>
    simp only [readParts, read, bind, Except.bind, reduceCtorEq, false_and, exists_false,
      or_false, Except.error.injEq, exists_eq_left']
    exact eq_comm
  | ok part =>
    cases named : part.name? with
    | none => simp [readParts, read, named, bind, Except.bind]
    | some name =>
      simp only [readParts, read, named, bind, Except.bind, any_name_iff, reduceCtorEq, false_and,
        exists_false, Except.ok.injEq, Option.some.injEq, exists_and_left, exists_eq_left',
        false_or]
      by_cases taken : name ∈ names done
      · simp only [taken, if_true, not_true_eq_false, true_and, forall_eq', false_and, or_false]
        exact eq_comm
      · simp [taken]

/-- Reading segments succeeds exactly when each reads as a part and no name repeats; the parts
are then those of the segments, in order. -/
theorem readParts_eq_ok_iff {pieces : List (Nat × List Char)} {done parts : List Part}
    (distinct : (names done).Nodup) :
    readParts done pieces = .ok parts ↔ ∃ new, parts = done ++ new ∧
      List.Forall₂ Reads (pieces.map Prod.snd) new ∧ (names parts).Nodup := by
  induction pieces generalizing done with
  | nil =>
    simp only [readParts, Except.ok.injEq, List.map_nil, List.forall₂_nil_left_iff]
    constructor
    · rintro rfl
      exact ⟨[], by simp, rfl, distinct⟩
    · rintro ⟨new, rfl, rfl, -⟩
      simp
  | cons seg rest ih =>
    obtain ⟨pos, piece⟩ := seg
    rw [readParts_cons_eq_iff]
    constructor
    · rintro (⟨e, -, ⟨⟩⟩ | ⟨part, name, -, -, -, ⟨⟩⟩ | ⟨part, read, fresh, later⟩)
      obtain ⟨new, rfl, reads, distinct'⟩ :=
        (ih (names_nodup_append_singleton.2 ⟨distinct, fresh⟩)).1 later
      exact ⟨part :: new, by simp, .cons (readPart_eq_ok_iff.1 read) reads, distinct'⟩
    · rintro ⟨new, rfl, reads, distinct'⟩
      obtain ⟨part, later, read, readsLater, rfl⟩ := List.forall₂_cons_left_iff.1 reads
      have prefixDistinct := names_nodup_prefix distinct'
      refine .inr (.inr ⟨part, readPart_eq_ok_iff.2 read,
        (names_nodup_append_singleton.1 prefixDistinct).2, (ih prefixDistinct).2 ?_⟩)
      exact ⟨later, by simp, readsLater, by simpa using distinct'⟩

/-- Reading segments fails exactly at the leftmost refused segment: every segment before it
reads as a part, their names are distinct, and it is refused after them. -/
theorem readParts_eq_error_iff {pieces : List (Nat × List Char)} {done : List Part}
    {e : ParseError} (distinct : (names done).Nodup) :
    readParts done pieces = .error e ↔ ∃ pre seg post new, pieces = pre ++ seg :: post ∧
      List.Forall₂ Reads (pre.map Prod.snd) new ∧ (names (done ++ new)).Nodup ∧
      Refused (names (done ++ new)) seg e := by
  induction pieces generalizing done with
  | nil => simp [readParts]
  | cons seg rest ih =>
    obtain ⟨pos, piece⟩ := seg
    rw [readParts_cons_eq_iff]
    constructor
    · rintro (⟨e, bad, ⟨⟩⟩ | ⟨part, name, read, named, taken, ⟨⟩⟩ | ⟨part, read, fresh, later⟩)
      · obtain ⟨o, name, opener, rfl, fault⟩ := readPart_eq_error_iff.1 bad
        exact ⟨[], (pos, wrap o name), rest, [], rfl, .nil, by simpa using distinct,
          by simpa using Refused.malformed opener fault⟩
      · exact ⟨[], (pos, piece), rest, [], rfl, .nil, by simpa using distinct,
          by simpa using
            (Refused.repeated (readPart_eq_ok_iff.1 read) named taken : Refused _ (pos, piece) _)⟩
      · obtain ⟨pre, seg, post, new, rfl, reads, distinct', refused⟩ :=
          (ih (names_nodup_append_singleton.2 ⟨distinct, fresh⟩)).1 later
        exact ⟨(pos, piece) :: pre, seg, post, part :: new, rfl,
          .cons (readPart_eq_ok_iff.1 read) reads, by simpa using distinct',
          by simpa using refused⟩
    · rintro ⟨pre, seg, post, new, split, reads, distinct', refused⟩
      -- the refused segment is this one, or a later one after the part this one reads as
      cases pre with
      | nil =>
        simp only [List.nil_append, List.cons.injEq] at split
        obtain ⟨rfl, rfl⟩ := split
        obtain rfl := List.forall₂_nil_left_iff.1 reads
        simp only [List.append_nil] at refused
        cases refused with
        | malformed opener fault =>
          exact .inl ⟨e, readPart_eq_error_iff.2 ⟨_, _, opener, rfl, fault⟩, rfl⟩
        | repeated reads named taken =>
          exact .inr (.inl ⟨_, _, readPart_eq_ok_iff.2 reads, named, taken, rfl⟩)
      | cons first pre =>
        simp only [List.cons_append, List.cons.injEq] at split
        obtain ⟨rfl, rfl⟩ := split
        obtain ⟨part, later, read, readsLater, rfl⟩ := List.forall₂_cons_left_iff.1 reads
        have prefixDistinct := names_nodup_prefix distinct'
        refine .inr (.inr ⟨part, readPart_eq_ok_iff.2 read,
          (names_nodup_append_singleton.1 prefixDistinct).2, (ih prefixDistinct).2 ?_⟩)
        exact ⟨pre, seg, post, later, rfl, readsLater, by simpa using distinct',
          by simpa using refused⟩

/-! ## The grammar's two conditions -/

/-- A segment that, if it is wrapped as a placeholder, wraps a valid name. -/
def WellNamed (piece : List Char) : Prop :=
  ∀ o name, IsOpener o → piece = wrap o name → validName name = true

/-- Two segments wrapped as placeholders of the same name. -/
def SameName (a b : List Char) : Prop :=
  ∃ o o' name, IsOpener o ∧ IsOpener o' ∧ a = wrap o name ∧ b = wrap o' name

theorem exists_reads_iff {piece : List Char} : (∃ part, Reads piece part) ↔ WellNamed piece := by
  constructor
  · rintro ⟨part, reads⟩ o name opener rfl
    exact ((reads_wrap_iff opener).1 reads).1
  · intro wellNamed
    rcases wrapped_or_unwrapped piece with ⟨o, name, opener, rfl⟩ | unwrapped
    · exact ⟨_, (reads_wrap_iff opener).2 ⟨wellNamed o name opener rfl, rfl⟩⟩
    · exact ⟨_, .literal unwrapped⟩

theorem exists_forall₂_reads_iff {pieces : List (List Char)} :
    (∃ parts, List.Forall₂ Reads pieces parts) ↔ ∀ piece ∈ pieces, WellNamed piece := by
  induction pieces with
  | nil => simp
  | cons piece rest ih =>
    rw [List.forall_mem_cons, ← ih, ← exists_reads_iff]
    constructor
    · rintro ⟨_, reads⟩
      obtain ⟨part, parts, head, tail, rfl⟩ := List.forall₂_cons_left_iff.1 reads
      exact ⟨⟨part, head⟩, parts, tail⟩
    · rintro ⟨⟨part, head⟩, parts, tail⟩
      exact ⟨part :: parts, .cons head tail⟩

/-- A part read from a segment is named exactly when the segment wraps that name. -/
theorem name?_eq_some_of_reads {piece : List Char} {part : Part} (reads : Reads piece part)
    {n : String} : part.name? = some n ↔
      ∃ o name, IsOpener o ∧ piece = wrap o name ∧ n = String.ofList name := by
  cases reads with
  | required =>
    simp only [Part.name?, Option.some.injEq, wrap_inj]
    exact ⟨fun same => ⟨'$', _, .inl rfl, ⟨rfl, rfl⟩, same.symm⟩,
      by rintro ⟨_, _, _, ⟨_, same⟩, named⟩; rw [named, same]⟩
  | optional =>
    simp only [Part.name?, Option.some.injEq, wrap_inj]
    exact ⟨fun same => ⟨'#', _, .inr rfl, ⟨rfl, rfl⟩, same.symm⟩,
      by rintro ⟨_, _, _, ⟨_, same⟩, named⟩; rw [named, same]⟩
  | literal unwrapped =>
    simp only [Part.name?, reduceCtorEq, false_iff, not_exists, not_and]
    exact fun o name opener same => absurd same (unwrapped o name opener)

theorem mem_names_iff {pieces : List (List Char)} {parts : List Part}
    (reads : List.Forall₂ Reads pieces parts) {n : String} :
    n ∈ names parts ↔ ∃ piece ∈ pieces, ∃ o name, IsOpener o ∧ piece = wrap o name ∧
      n = String.ofList name := by
  simp only [names, List.mem_filterMap]
  induction reads with
  | nil => simp
  | cons head _ ih =>
    simp only [List.mem_cons, exists_eq_or_imp, ih, name?_eq_some_of_reads head]

/-- The names read from segments are distinct exactly when no two segments wrap the same
name. -/
theorem names_nodup_iff {pieces : List (List Char)} {parts : List Part}
    (reads : List.Forall₂ Reads pieces parts) :
    (names parts).Nodup ↔ pieces.Pairwise fun a b => ¬SameName a b := by
  induction reads with
  | nil => simp [names]
  | @cons piece part rest parts head tail ih =>
    rw [List.pairwise_cons, ← ih]
    cases named : part.name? with
    | none =>
      have unnamed : ∀ b ∈ rest, ¬SameName piece b := by
        rintro b - ⟨o, o', name, opener, -, rfl, -⟩
        have := (name?_eq_some_of_reads head).2 ⟨o, name, opener, rfl, rfl⟩
        rw [named] at this
        cases this
      have same : names (part :: parts) = names parts := by simp [names, named]
      rw [same]
      exact ⟨fun distinct => ⟨unnamed, distinct⟩, And.right⟩
    | some n =>
      obtain ⟨o, name, opener, rfl, rfl⟩ := (name?_eq_some_of_reads head).1 named
      have fresh : String.ofList name ∉ names parts ↔ ∀ b ∈ rest, ¬SameName (wrap o name) b := by
        rw [mem_names_iff tail]
        constructor
        · rintro absent b member ⟨o₁, o', name', -, opener', same, rfl⟩
          obtain ⟨-, rfl⟩ := wrap_inj.1 same
          exact absent ⟨_, member, o', name, opener', rfl, rfl⟩
        · rintro distinct ⟨b, member, o', name', opener', rfl, same⟩
          obtain rfl := String.ofList_injective same
          exact distinct _ member ⟨o, o', name, opener, opener', rfl, rfl⟩
      simp only [names, List.filterMap_cons, named, List.nodup_cons] at fresh ⊢
      rw [fresh]

/-! ## The segments of a mount path -/

/-- The non-empty segments of a mount path between its slashes, each with the byte offset at
which it starts. -/
def segmentsOf (path : String) : List (Nat × List Char) := place 0 (path.toList.splitOn '/')

theorem compile_eq_ok_iff {path : String} {t : Template} :
    compile path = .ok t ↔ readParts [] (segmentsOf path) = .ok t.parts := by
  obtain ⟨parts⟩ := t
  simp only [compile, segmentsOf]
  cases readParts [] (place 0 (path.toList.splitOn '/')) <;> simp [Functor.map, Except.map]

theorem compile_eq_error_iff {path : String} {e : ParseError} :
    compile path = .error e ↔ readParts [] (segmentsOf path) = .error e := by
  simp only [compile, segmentsOf]
  cases readParts [] (place 0 (path.toList.splitOn '/')) <;> simp [Functor.map, Except.map]

theorem map_snd_place (pos : Nat) (pieces : List (List Char)) :
    (place pos pieces).map Prod.snd = pieces.filter (!·.isEmpty) := by
  induction pieces generalizing pos with
  | nil => rfl
  | cons piece rest ih => cases piece <;> simp [place, ih]

theorem not_mem_of_mem_splitOn {a : Char} :
    ∀ {xs piece : List Char}, piece ∈ xs.splitOn a → a ∉ piece
  | [], piece, member => by simp_all
  | x :: xs, piece, member => by
    rw [List.splitOn_cons_eq_if_modifyHead] at member
    split at member
    · rcases List.mem_cons.1 member with rfl | later
      · exact List.not_mem_nil
      · exact not_mem_of_mem_splitOn later
    · rename_i different
      obtain ⟨first, more, split⟩ := List.exists_cons_of_ne_nil (List.splitOn_ne_nil a xs)
      rw [split, List.modifyHead_cons] at member
      rcases List.mem_cons.1 member with rfl | later
      · have inFirst : first ∈ xs.splitOn a := split ▸ List.mem_cons_self
        have absent : a ∉ first := not_mem_of_mem_splitOn inFirst
        simp only [beq_iff_eq] at different
        simp [absent, Ne.symm different]
      · exact not_mem_of_mem_splitOn (split ▸ List.mem_cons_of_mem _ later)

/-- Each segment of a mount path is non-empty and holds no slash. -/
theorem clean_of_mem_segmentsOf {path : String} {piece : List Char}
    (member : piece ∈ (segmentsOf path).map Prod.snd) : piece ≠ [] ∧ '/' ∉ piece := by
  rw [segmentsOf, map_snd_place, List.mem_filter] at member
  exact ⟨by simpa using member.2, not_mem_of_mem_splitOn member.1⟩

/-- A placed piece stands in the joined pieces at its offset, between slashes or the ends. -/
theorem sits_of_mem_place :
    ∀ {pieces : List (List Char)} {start pos : Nat} {piece : List Char},
      (pos, piece) ∈ place start pieces → ∃ before after,
        ['/'].intercalate pieces = before ++ piece ++ after ∧
        pos = start + Text.byteLength before ∧
        (before = [] ∨ before.getLast? = some '/') ∧ (after = [] ∨ after.head? = some '/')
  | [], _, _, _, member => by simp [place] at member
  | [first], start, pos, piece, member => by
    simp only [place, List.append_nil] at member
    split at member
    · simp at member
    · obtain ⟨rfl, rfl⟩ := List.mem_singleton.1 member
      exact ⟨[], [], by simp, by simp [Text.byteLength], .inl rfl, .inl rfl⟩
  | first :: second :: rest, start, pos, piece, member => by
    rw [place, List.mem_append] at member
    rw [List.intercalate_cons_cons]
    rcases member with here | later
    · split at here
      · simp at here
      · obtain ⟨rfl, rfl⟩ := List.mem_singleton.1 here
        exact ⟨[], '/' :: ['/'].intercalate (second :: rest), by simp,
          by simp [Text.byteLength], .inl rfl, .inr rfl⟩
    · obtain ⟨before, after, joined, offset, edge, edge'⟩ := sits_of_mem_place later
      refine ⟨first ++ '/' :: before, after, by simp [joined], ?_, .inr ?_, edge'⟩
      · have slash : '/'.utf8Size = 1 := rfl
        simp only [offset, Text.byteLength_append, Text.byteLength_cons, slash]
        omega
      · rcases edge with rfl | last
        · simp
        · simp [List.getLast?_append, List.getLast?_cons, last]

/-- Each segment of a mount path stands in the path at its offset, between slashes or the
ends of the path: the offsets are byte offsets into the mount path. -/
theorem segmentsOf_sits {path : String} {pos : Nat} {piece : List Char}
    (member : (pos, piece) ∈ segmentsOf path) : ∃ before after,
      path.toList = before ++ piece ++ after ∧ Text.byteLength before = pos ∧
      (before = [] ∨ before.getLast? = some '/') ∧ (after = [] ∨ after.head? = some '/') := by
  obtain ⟨before, after, joined, offset, edge, edge'⟩ := sits_of_mem_place member
  rw [List.intercalate_splitOn] at joined
  exact ⟨before, after, joined, by omega, edge, edge'⟩

/-! ## Writing a template back -/

theorem render_toList_of_reads {piece : List Char} {part : Part} (reads : Reads piece part) :
    part.render.toList = piece := by
  cases reads <;> simp [Part.render, wrap, show "$\x7b".toList = ['$', '{'] from rfl,
    show "#\x7b".toList = ['#', '{'] from rfl, show "\x7d".toList = ['}'] from rfl]

theorem map_render_of_forall₂ {pieces : List (List Char)} {parts : List Part}
    (reads : List.Forall₂ Reads pieces parts) : parts.map (·.render.toList) = pieces := by
  induction reads with
  | nil => rfl
  | cons head _ ih => rw [List.map_cons, render_toList_of_reads head, ih]

/-- Pieces without a slash, each written after a slash, are cut back at the slashes after an
empty first piece. -/
theorem splitOn_flatMap_slash {pieces : List (List Char)}
    (clean : ∀ piece ∈ pieces, '/' ∉ piece) :
    (pieces.flatMap ('/' :: ·)).splitOn '/' = [] :: pieces := by
  induction pieces with
  | nil => rfl
  | cons piece rest ih =>
    have later := ih fun p member => clean p (List.mem_cons_of_mem _ member)
    have here : '/' ∉ piece := clean piece List.mem_cons_self
    rw [List.flatMap_cons, List.cons_append, List.splitOn_cons_eq_if_modifyHead]
    simp only [beq_self_eq_true, if_true, List.cons.injEq, true_and]
    cases rest with
    | nil => simpa using List.splitOn_eq_singleton here
    | cons next more =>
      rw [List.flatMap_cons, List.cons_append, List.splitOn_append_cons_self_of_not_mem here]
      rw [List.flatMap_cons, List.cons_append, List.splitOn_cons_eq_if_modifyHead] at later
      simpa using later

theorem render_toList {parts : List Part} (nonempty : parts ≠ []) :
    (Template.mk parts).render.toList = (parts.map (·.render.toList)).flatMap ('/' :: ·) := by
  cases parts with
  | nil => exact absurd rfl nonempty
  | cons part rest => simp [render, String.toList_join, List.flatMap_map]

/-- A compiled template is written as a mount path that compiles back to it. -/
theorem compile_render {path : String} {t : Template} (compiled : compile path = .ok t) :
    compile t.render = .ok t := by
  obtain ⟨parts⟩ := t
  obtain ⟨parts, rfl, reads, distinct⟩ :=
    (readParts_eq_ok_iff (by simp [names])).1 (compile_eq_ok_iff.1 compiled)
  have written := map_render_of_forall₂ reads
  cases parts with
  | nil => rfl
  | cons part rest =>
    have clean : ∀ piece ∈ (part :: rest).map (·.render.toList), '/' ∉ piece ∧ piece ≠ [] := by
      rw [written]
      exact fun piece member => (clean_of_mem_segmentsOf member).symm
    have segments : segmentsOf (Template.mk (part :: rest)).render =
        place 1 ((part :: rest).map (·.render.toList)) := by
      rw [segmentsOf, render_toList (List.cons_ne_nil _ _),
        splitOn_flatMap_slash fun piece member => (clean piece member).1]
      rfl
    apply compile_eq_ok_iff.2
    rw [segments]
    refine (readParts_eq_ok_iff (by simp [names])).2 ⟨part :: rest, rfl, ?_, distinct⟩
    rw [map_snd_place,
      List.filter_eq_self.2 fun piece member => by simpa using (clean piece member).2, written]
    exact reads

/-! ## Compiling exactly the grammar -/

/-- Compiling a mount path succeeds exactly on the grammar: every segment wrapped as a
placeholder has a valid name, and no two wrap the same name; the parts are then the segments
read in order. Otherwise it fails with the error of the leftmost segment refused after those
before it. The written template compiles back to itself. -/
theorem compile_exact_grammar (path : String) :
    (∀ t, compile path = .ok t ↔
      List.Forall₂ Reads ((segmentsOf path).map Prod.snd) t.parts ∧ (names t.parts).Nodup) ∧
    ((∃ t, compile path = .ok t) ↔
      (∀ piece ∈ (segmentsOf path).map Prod.snd, WellNamed piece) ∧
        ((segmentsOf path).map Prod.snd).Pairwise fun a b => ¬SameName a b) ∧
    (∀ e, compile path = .error e ↔ ∃ pre seg post parts, segmentsOf path = pre ++ seg :: post ∧
      List.Forall₂ Reads (pre.map Prod.snd) parts ∧ (names parts).Nodup ∧
      Refused (names parts) seg e) ∧
    (∀ t, compile path = .ok t → compile t.render = .ok t) := by
  have start : (names []).Nodup := by simp [names]
  have parts : ∀ t, compile path = .ok t ↔
      List.Forall₂ Reads ((segmentsOf path).map Prod.snd) t.parts ∧ (names t.parts).Nodup := by
    intro t
    rw [compile_eq_ok_iff, readParts_eq_ok_iff start]
    simp
  refine ⟨parts, ?_, fun e => ?_, fun t => compile_render⟩
  · constructor
    · rintro ⟨t, compiled⟩
      obtain ⟨reads, distinct⟩ := (parts t).1 compiled
      exact ⟨exists_forall₂_reads_iff.1 ⟨_, reads⟩, (names_nodup_iff reads).1 distinct⟩
    · rintro ⟨wellNamed, apart⟩
      obtain ⟨new, reads⟩ := exists_forall₂_reads_iff.2 wellNamed
      exact ⟨⟨new⟩, (parts ⟨new⟩).2 ⟨reads, (names_nodup_iff reads).2 apart⟩⟩
  · rw [compile_eq_error_iff, readParts_eq_error_iff start]
    simp

/-- The offset of a bad name character counts bytes: `é` takes two. -/
example : compile "/mé/$\x7bab c\x7d" = .error (.unexpected .inner 0x20 9) := by decide

/-! ## Compiling given segments -/

theorem stripWrapper?_eq_some_iff {o : Char} {segment name : List Char} :
    stripWrapper? o segment = some name ↔ segment = wrap o name := by
  simp only [stripWrapper?, Option.bind_eq_some_iff, List.isPrefixOf?_eq_some_iff_append_eq,
    List.isSuffixOf?_eq_some_iff_append_eq, wrap]
  constructor
  · rintro ⟨rest, rfl, rfl⟩
    rfl
  · rintro rfl
    exact ⟨name ++ ['}'], rfl, rfl⟩

theorem classify_wrap {s : String} {o : Char} {name : List Char} (opener : IsOpener o)
    (shape : s.toList = wrap o name) :
    classify s = (if o = '$' then Part.required else Part.optional) (String.ofList name) := by
  have hash : stripWrapper? '#' s.toList = some name ↔ o = '#' := by
    rw [stripWrapper?_eq_some_iff, shape, wrap_inj]
    simp
  rcases opener with rfl | rfl
  · simp [classify, stripWrapper?_eq_some_iff.2 shape]
  · have noDollar : stripWrapper? '$' s.toList = none := Option.eq_none_iff_forall_ne_some.2
      fun name' found => by
        rw [stripWrapper?_eq_some_iff, shape, wrap_inj] at found
        cases found.1
    simp [classify, noDollar, hash.2 rfl]

theorem classify_unwrapped {s : String}
    (unwrapped : ∀ o name, IsOpener o → s.toList ≠ wrap o name) : classify s = .literal s := by
  have dollar : stripWrapper? '$' s.toList = none := Option.eq_none_iff_forall_ne_some.2
    fun name found => unwrapped '$' name (.inl rfl) (stripWrapper?_eq_some_iff.1 found)
  have hash : stripWrapper? '#' s.toList = none := Option.eq_none_iff_forall_ne_some.2
    fun name found => unwrapped '#' name (.inr rfl) (stripWrapper?_eq_some_iff.1 found)
  simp [classify, dollar, hash]

theorem isEmpty_toList (s : String) : s.toList.isEmpty = s.isEmpty := by
  rw [Bool.eq_iff_iff, List.isEmpty_iff, String.isEmpty_iff, String.toList_eq_nil_iff]

/-- Reading given segments with a running offset reads the same placed pieces as compiling:
the non-empty segments, the first one after the separator that follows `offset` bytes. -/
theorem readSegments_eq (done : List Part) (offset : Nat) (segments : List String) :
    readSegments done offset segments =
      readParts done (place (offset + 1) ((segments.map String.toList).filter (!·.isEmpty))) := by
  induction segments generalizing done offset with
  | nil => rfl
  | cons s rest ih =>
    by_cases empty : s.isEmpty
    · simp [readSegments, empty, isEmpty_toList, ih]
    · have kept : (s.toList :: (rest.map String.toList)).filter (!·.isEmpty) =
          s.toList :: (rest.map String.toList).filter (!·.isEmpty) := by
        simp [isEmpty_toList, empty]
      have placed : place (offset + 1) (s.toList :: (rest.map String.toList).filter (!·.isEmpty)) =
          (offset + 1, s.toList) :: place (offset + 1 + Text.byteLength s.toList + 1)
            ((rest.map String.toList).filter (!·.isEmpty)) := by
        simp [place, isEmpty_toList, empty]
      rw [List.map_cons, kept, placed]
      rcases wrapped_or_unwrapped s.toList with ⟨o, name, opener, shape⟩ | unwrapped
      · have named : (classify s).name? = some (String.ofList name) := by
          rw [classify_wrap opener shape]
          rcases opener with rfl | rfl <;> simp [Part.name?]
        simp only [readSegments, empty, Bool.false_eq_true, if_false, named, String.toList_ofList,
          readParts, shape, readPart_wrap opener, bind, Except.bind]
        cases checked : checkName name (offset + 1 + 2) with
        | error e => rfl
        | ok n =>
          obtain ⟨-, rfl⟩ := checkName_eq_ok_iff.1 checked
          simp only [Except.map]
          rw [← classify_wrap opener shape, named, ih]
      · simp only [readSegments, empty, Bool.false_eq_true, if_false, classify_unwrapped unwrapped,
          Part.name?, readParts, readPart_unwrapped unwrapped, bind, Except.bind,
          String.ofList_toList, ih]

/-- Compiling given segments, none holding a slash, is compiling the path that writes the
non-empty ones after a slash each: the same parts, or the same error at the same byte
offset. -/
theorem ofSegments_eq_compile (segments : List String) (noSlash : ∀ s ∈ segments, '/' ∉ s.toList) :
    ofSegments segments = compile ("/" ++ "/".intercalate (segments.filter (!·.isEmpty))) := by
  have kept : (segments.filter (!·.isEmpty)).map String.toList =
      (segments.map String.toList).filter (!·.isEmpty) := by
    rw [List.filter_map]
    congr 1
    exact List.filter_congr fun s _ => by simp [isEmpty_toList]
  have clean : ∀ piece ∈ (segments.map String.toList).filter (!·.isEmpty), '/' ∉ piece := by
    intro piece member
    obtain ⟨s, inSegments, rfl⟩ := List.mem_map.1 (List.mem_filter.1 member).1
    exact noSlash s inSegments
  have placed :
      place 0 (("/" ++ "/".intercalate (segments.filter (!·.isEmpty))).toList.splitOn '/') =
        place 1 ((segments.map String.toList).filter (!·.isEmpty)) := by
    rw [String.toList_append, String.toList_intercalate, kept, show "/".toList = ['/'] from rfl,
      List.singleton_append, List.splitOn_cons_eq_if_modifyHead]
    simp only [beq_self_eq_true, if_true]
    cases pieces : (segments.map String.toList).filter (!·.isEmpty) with
    | nil => rfl
    | cons first rest =>
      rw [List.splitOn_intercalate _ (pieces ▸ clean) (List.cons_ne_nil _ _)]
      rfl
  rw [ofSegments, compile, readSegments_eq, placed]

/-- Empty segments are skipped without moving the offsets: the bad space of the last segment is
reported where it stands in `/mé/${ab c}`. -/
theorem ofSegments_skips_empty_segments :
    (∀ s ∈ ["", "mé", "", "$\x7bab c\x7d"], '/' ∉ s.toList) ∧
      ofSegments ["", "mé", "", "$\x7bab c\x7d"] = compile "/mé/$\x7bab c\x7d" :=
  ⟨by decide, by rw [ofSegments_eq_compile _ (by decide)]; rfl⟩

end PageRoutes.Template
