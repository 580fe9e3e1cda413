import PageRoutes.Config.Value
/-!
Mapping settings, and reading them from a configuration document.

A document object sets the fields it names and leaves the others at their defaults;
names it does not know are ignored, and its fields are read in the order of their
names. A document array gives the fields in declaration order and may stop early, but
may not hold more values than there are fields, which is checked after the values
it gives are read. A value of the wrong kind fails with
a text that names what was found and what was expected.
-/
namespace PageRoutes

/-- The mapping policy shared by all mappers. -/
structure Settings where
  /-- Rebuild a page from its URL when the referenced instance is gone. -/
  recreateMountedPagesAfterExpiry : Bool := true
  /-- Compare literal mount segments with regard to case. -/
  caseSensitive : Bool := true
  /-- The first segment of generic bookmarkable URLs. -/
  urlNamespace : String := "wicket"
  /-- The second segment of generic bookmarkable URLs. -/
  bookmarkableIdentifier : String := "bookmarkable"
  /-- Let a mount of the home page class also claim the empty URL. -/
  redirectFromHomePage : Bool := true
deriving DecidableEq, Inhabited, Repr

/-- Why a document does not give settings. -/
inductive SettingsError where
  /-- A value of the kind `found` where `expected` was needed. -/
  | invalidType (found : String) (expected : String)
  /-- An array of `length` values, more than there are fields. -/
  | tooLong (length : Nat)
deriving DecidableEq, Inhabited, Repr

/-- The error's text. -/
def SettingsError.message : SettingsError → String
  | .invalidType found expected => "invalid type: " ++ found ++ ", expected " ++ expected
  | .tooLong length => "invalid length " ++ toString length ++ ", expected fewer elements in array"

namespace Settings

/-- Reads a truth value. -/
def readBool : ConfigValue → Except SettingsError Bool
  | .bool b => .ok b
  | v => .error (.invalidType v.describe "a boolean")

/-- Reads a text. -/
def readString : ConfigValue → Except SettingsError String
  | .str s => .ok s
  | v => .error (.invalidType v.describe "a string")

/-- Sets the field of a name from a value; other names leave the settings as they are. -/
def setField (s : Settings) (name : String) (v : ConfigValue) : Except SettingsError Settings :=
  match name with
  | "recreate_mounted_pages_after_expiry" =>
    return { s with recreateMountedPagesAfterExpiry := ← readBool v }
  | "case_sensitive" => return { s with caseSensitive := ← readBool v }
  | "namespace" => return { s with urlNamespace := ← readString v }
  | "bookmarkable_identifier" => return { s with bookmarkableIdentifier := ← readString v }
  | "redirect_from_home_page" => return { s with redirectFromHomePage := ← readBool v }
  | _ => .ok s

/-- The field names in declaration order. -/
def fieldNames : List String :=
  ["recreate_mounted_pages_after_expiry", "case_sensitive", "namespace",
    "bookmarkable_identifier", "redirect_from_home_page"]

/-- Reads settings from a document. -/
def read : ConfigValue → Except SettingsError Settings
  | .object fields =>
    (fields.mergeSort fun a b => a.1 ≤ b.1).foldlM (fun s f => setField s f.1 f.2) {}
  | .array items => do
    let s ← (fieldNames.zip items).foldlM (fun s f => setField s f.1 f.2) {}
    if fieldNames.length < items.length then .error (.tooLong items.length) else pure s
  | v => .error (.invalidType v.describe "struct MapperSettings")

end Settings

end PageRoutes
