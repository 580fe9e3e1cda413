import Mathlib.Data.List.Forall2
import PageRoutes.Proofs.PageRefToken
/-!
# The token grammar

A page reference token is read exactly when it is a text of the grammar

    token : D1 | D1 '-' [D2 '.'] L ['.' D3] '-' R

with numerals `D1`, `D2` and `D3` of 32-bit values, a listener name `L` and a non-empty written
component path `R`, and it is read as the reference those fields spell: the path read with `-` as
`:` and `~` as `-` (`decode_eq_some_iff`). The grammar is stated on its own, as `Spelled`,
over `Numeral` and the optional `CountField` and `IndexField` around a listener name.

The head between the two `-` is ambiguous in its two-field form, `D2.L` against `L.D3`; the
reader tries the first field as a number, which is sound because a listener name never starts
with a digit (`decodeHead_fields`). Every reference read can be written again, and its written
token reads back as it (`decode_exact_grammar`), though the token written need not be the text
read: a numeral may have leading zeros and a path may hold `:`.
-/
namespace PageRoutes.PageRef

/-! ## The grammar -/

/-- How a character of a written component path is read: `-` as `:`, `~` as `-`, and any other
character as itself. -/
def ReadsAs (written read : Char) : Prop :=
  (written = '-' ∧ read = ':') ∨ (written = '~' ∧ read = '-') ∨
    (written ≠ '-' ∧ written ≠ '~' ∧ read = written)

/-- The texts of the token grammar and the references they spell. -/
inductive Spelled : List Char → PageRef → Prop
  /-- A page id alone. -/
  | page {d : List Char} {id : UInt32} : Numeral d id → Spelled d { pageId := some id }
  /-- A page id, a listener name with a render count before it or a behavior index after it,
  or both, and a written component path. -/
  | listener {d count index written : List Char} {id : UInt32} {rc bi : Option UInt32}
      {name path : String} :
      Numeral d id → CountField count rc → isListenerName name = true → IndexField index bi →
      written ≠ [] → List.Forall₂ ReadsAs written path.toList →
      Spelled (d ++ '-' :: (count ++ name.toList ++ index ++ '-' :: written))
        { pageId := some id,
          component := some { renderCount := rc, listener := name, behaviorIndex := bi,
                              componentPath := path } }

/-! ## Written paths -/

theorem readsAs_iff {written read : Char} :
    ReadsAs written read ↔
      read = if written = '-' then ':' else if written = '~' then '-' else written := by
  unfold ReadsAs
  by_cases dash : written = '-'
  · simp [dash]
  · by_cases tilde : written = '~'
    · simp [tilde]
    · simp [dash, tilde]

/-- A written path is read character by character, as `decodePath` reads it. -/
theorem forall₂_readsAs_iff {written path : List Char} :
    List.Forall₂ ReadsAs written path ↔ path = decodePath written := by
  induction written generalizing path with
  | nil => simp [decodePath]
  | cons w ws ih =>
    rw [List.forall₂_cons_left_iff]
    cases path with
    | nil => simp [decodePath]
    | cons p ps => simp [decodePath, readsAs_iff, ih]

theorem tilde_not_mem_decodePath (written : List Char) : '~' ∉ decodePath written := by
  simp only [decodePath, List.mem_map, not_exists, not_and]
  intro c _
  split
  · decide
  · split
    · decide
    · assumption

/-! ## The head of a listener part -/

/-- The fields a head is read as are a render count, a listener and a behavior index that the
head spells, joined by its dots. -/
theorem fields_of_decodeHead {fields : List (List Char)} {rc bi : Option UInt32} {name : List Char}
    (read : decodeHead fields = some (rc, name, bi)) :
    ∃ count index, CountField count rc ∧ IndexField index bi ∧
      ['.'].intercalate fields = count ++ name ++ index := by
  unfold decodeHead at read
  split at read
  · rename_i listener
    simp only [Option.some.injEq, Prod.mk.injEq] at read
    obtain ⟨rfl, rfl, rfl⟩ := read
    exact ⟨[], [], .absent, .absent, by simp⟩
  · rename_i first second
    split at read
    · -- the first field is a number: a render count before the name
      rename_i count numbered
      simp only [Option.some.injEq, Prod.mk.injEq] at read
      obtain ⟨rfl, rfl, rfl⟩ := read
      exact ⟨first ++ ['.'], [], .present (parseNumber?_eq_some_iff.1 numbered), .absent,
        by simp⟩
    · -- otherwise the second is: a behavior index after it
      obtain ⟨index, numbered, same⟩ := Option.map_eq_some_iff.1 read
      simp only [Prod.mk.injEq] at same
      obtain ⟨rfl, rfl, rfl⟩ := same
      exact ⟨[], '.' :: second, .absent, .present (parseNumber?_eq_some_iff.1 numbered),
        by simp⟩
  · rename_i count listener index
    obtain ⟨rcValue, rcNumbered, rest⟩ := Option.bind_eq_some_iff.1 read
    obtain ⟨biValue, biNumbered, same⟩ := Option.bind_eq_some_iff.1 rest
    simp only [pure, Option.some.injEq, Prod.mk.injEq] at same
    obtain ⟨rfl, rfl, rfl⟩ := same
    exact ⟨count ++ ['.'], '.' :: index, .present (parseNumber?_eq_some_iff.1 rcNumbered),
      .present (parseNumber?_eq_some_iff.1 biNumbered), by simp⟩
  · cases read

/-! ## Reading a token -/

/-- What the listener part of a token is read from: a head of three fields, a listener name among
them, then a non-empty written path after the next `-`. -/
theorem decodeListener_eq_some {s : List Char} {l : ListenerRef}
    (read : decodeListener s = some l) :
    ∃ head written name, Text.splitOnce '-' s = some (head, written) ∧ written ≠ [] ∧
      decodeHead (head.splitOn '.') = some (l.renderCount, name, l.behaviorIndex) ∧
      isListenerName (String.ofList name) = true ∧ l.listener = String.ofList name ∧
      l.componentPath = String.ofList (decodePath written) := by
  simp only [decodeListener] at read
  obtain ⟨⟨head, written⟩, cut, rest⟩ := Option.bind_eq_some_iff.1 read
  simp only [List.isEmpty_iff] at rest
  split at rest
  · cases rest
  · rename_i filled
    obtain ⟨⟨rc, name, bi⟩, fields, named⟩ := Option.bind_eq_some_iff.1 rest
    split at named
    · cases named
    · rename_i valid
      simp only [pure, Option.some.injEq] at named
      subst named
      exact ⟨head, written, name, cut, filled, fields, by simpa using valid, rfl, rfl⟩

theorem spelled_of_decode {s : String} {r : PageRef} (read : decode s = some r) :
    Spelled s.toList r := by
  unfold decode at read
  split at read
  · obtain ⟨id, numbered, rfl⟩ := Option.map_eq_some_iff.1 read
    exact .page (parseNumber?_eq_some_iff.1 numbered)
  · rename_i page component cut
    obtain ⟨-, text⟩ := Text.eq_append_of_splitOnce cut
    obtain ⟨id, numbered, rest⟩ := Option.bind_eq_some_iff.1 read
    obtain ⟨l, listener, same⟩ := Option.bind_eq_some_iff.1 rest
    simp only [pure, Option.some.injEq] at same
    subst same
    obtain ⟨head, written, name, split, filled, fields, valid, named, path⟩ :=
      decodeListener_eq_some listener
    obtain ⟨-, parts⟩ := Text.eq_append_of_splitOnce split
    obtain ⟨count, index, countField, indexField, joined⟩ := fields_of_decodeHead fields
    rw [List.intercalate_splitOn] at joined
    obtain ⟨rc, listenerName, bi, componentPath⟩ := l
    simp only at named path
    subst named path
    have spelled := Spelled.listener (parseNumber?_eq_some_iff.1 numbered) countField valid
      indexField filled (forall₂_readsAs_iff.2 String.toList_ofList)
    rw [String.toList_ofList] at spelled
    rw [text, parts, joined]
    exact spelled

theorem decode_of_spelled {text : List Char} {r : PageRef} (spelled : Spelled text r) :
    decode (String.ofList text) = some r := by
  cases spelled with
  | page numeral =>
    simp [decode, Text.splitOnce_eq_none (numeral.not_mem (c := '-') (by decide)),
      parseNumber?_eq_some_iff.2 numeral]
  | @listener d count index written id rc bi name path numeral countField valid indexField
      filled reads =>
    have head : '-' ∉ count ++ name.toList ++ index := by
      simp [countField.dash_not_mem, dash_not_mem_listener valid, indexField.dash_not_mem]
    have listener : decodeListener (count ++ (name.toList ++ (index ++ '-' :: written))) =
        some { renderCount := rc, listener := name, behaviorIndex := bi,
               componentPath := path } := by
      rw [forall₂_readsAs_iff] at reads
      rw [show count ++ (name.toList ++ (index ++ '-' :: written)) =
        count ++ name.toList ++ index ++ '-' :: written by simp]
      simp only [decodeListener]
      rw [Text.splitOnce_append_cons head]
      simp [filled, decodeHead_fields countField valid indexField, valid, ← reads]
    simp [decode, Text.splitOnce_append_cons (numeral.not_mem (c := '-') (by decide)),
      parseNumber?_eq_some_iff.2 numeral, listener]

theorem decode_eq_some_iff {s : String} {r : PageRef} : decode s = some r ↔ Spelled s.toList r :=
  ⟨spelled_of_decode, fun spelled => by simpa using decode_of_spelled spelled⟩

/-! ## Writing a token read -/

/-- A spelled reference can be written: it has a page id, and its listener part has a listener
name and a non-empty path in which `~` cannot occur, since `~` is read as `-`. -/
theorem Spelled.writable {text : List Char} {r : PageRef} (spelled : Spelled text r) :
    r.pageId.isSome ∧ ∀ l ∈ r.component, Writable l := by
  cases spelled with
  | page => simp
  | listener _ _ valid _ filled reads =>
    refine ⟨rfl, fun l member => ?_⟩
    cases member
    rw [forall₂_readsAs_iff] at reads
    refine ⟨valid, fun empty => ?_, ?_⟩
    · simp only at empty
      rw [empty, String.toList_empty] at reads
      exact filled (by simpa [decodePath] using reads.symm)
    · rw [reads]
      exact tilde_not_mem_decodePath _

/-- The token reader accepts exactly the texts of the grammar, read as the references they spell;
every reference read can be written, and its token reads back as it. The token written need not
be the text read: here a leading zero and a `:` in the path are lost. -/
theorem decode_exact_grammar :
    (∀ s r, decode s = some r ↔ Spelled s.toList r) ∧
    (∀ s r, decode s = some r → ∃ token, encode r = some token ∧ decode token = decode s) ∧
    ∃ s r, decode s = some r ∧ encode r ≠ some s := by
  refine ⟨fun s r => decode_eq_some_iff, fun s r read => ?_,
    ⟨"07-click-a:b", _, rfl, by decide⟩⟩
  obtain ⟨token, written⟩ := Option.isSome_iff_exists.1
    ((encode_isSome_iff r).2 (spelled_of_decode read).writable)
  exact ⟨token, written, by rw [decode_encode written, read]⟩

end PageRoutes.PageRef
