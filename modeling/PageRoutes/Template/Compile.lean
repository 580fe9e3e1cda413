import PageRoutes.Template.Basic
import PageRoutes.Text.Split
/-!
Compiling mount paths into templates.

A mount path is cut at its slashes and the empty pieces are dropped. A piece that
starts with `${` or `#{` and ends with `}` is a placeholder; every other piece is a
literal. A placeholder name starts with an ASCII letter or `_` and goes on with ASCII
letters, digits, `_`, `-` and `.`, and no two placeholders share a name. The first
piece in path order that breaks a rule gives the error; positions are byte offsets
into the mount path.

Mount paths given as segments are read one segment at a time: a segment is classified by
stripping the wrapper from its text, and its offset is counted in the path that joins the
non-empty segments after a leading `/`.
-/
namespace PageRoutes

/-- What a placeholder name needed where it broke the rule. -/
inductive NameRule where
  /-- The first character of a name. -/
  | start
  /-- A later character of a name. -/
  | inner
deriving DecidableEq, Inhabited, Repr

/-- How the rule is worded in an error. -/
def NameRule.text : NameRule → String
  | .start => "a letter or '_'"
  | .inner => "a placeholder name character"

/-- Why a mount path does not compile. -/
inductive ParseError where
  /-- The byte `actual` at byte offset `pos` does not fit `expected`. -/
  | unexpected (expected : NameRule) (actual : UInt8) (pos : Nat)
  /-- The placeholder whose `$` or `#` is at byte offset `pos` has no name. -/
  | emptyName (pos : Nat)
  /-- A second placeholder of the same name. -/
  | duplicate (name : String)
deriving DecidableEq, Inhabited, Repr

namespace ParseError

/-- Lowercase hex digits of a number, without padding. -/
def hex (n : Nat) : String :=
  String.ofList (Nat.toDigits 16 n)

/-- The error's text. -/
def message : ParseError → String
  | unexpected expected actual pos =>
    "encountered byte 0x" ++ hex actual.toNat ++ " at position " ++ toString pos ++
      ", but expected " ++ expected.text
  | emptyName pos => "placeholder at position " ++ toString pos ++ " has an empty name"
  | duplicate name => "placeholder \x60" ++ name ++ "\x60 occurs more than once"

end ParseError

namespace Template

/-- Whether a character may start a placeholder name. -/
def isNameStart (c : Char) : Bool := c.isAlpha || c = '_'

/-- Whether a character may stand later in a placeholder name. -/
def isNameChar (c : Char) : Bool := c.isAlphanum || c = '_' || c = '-' || c = '.'

/-- The first byte of a character's UTF-8 form. -/
def leadByte (c : Char) : UInt8 :=
  match String.utf8EncodeChar c with
  | b :: _ => b
  | [] => 0

/-- The first character after a name's start that is no name character, with its
byte offset, counting from `pos`. -/
def firstBadChar : List Char → Nat → Option (Char × Nat)
  | [], _ => none
  | c :: cs, pos => if isNameChar c then firstBadChar cs (pos + c.utf8Size) else some (c, pos)

/-- Checks a placeholder name whose first character is at byte offset `pos`. -/
def checkName (name : List Char) (pos : Nat) : Except ParseError String :=
  match name with
  | [] => .error (.emptyName (pos - 2))
  | c :: rest =>
    if isNameStart c then
      match firstBadChar rest (pos + c.utf8Size) with
      | some (bad, at_) => .error (.unexpected .inner (leadByte bad) at_)
      | none => .ok (String.ofList name)
    else .error (.unexpected .start (leadByte c) pos)

/-- The name inside a piece of the form `o{name}`, where `o` is `opener`. -/
def wrappedName? (opener : Char) : List Char → Option (List Char)
  | c :: '{' :: rest => if c = opener ∧ rest.getLast? = some '}' then some rest.dropLast else none
  | _ => none

/-- Reads one non-empty piece starting at byte offset `pos`. -/
def readPart (pos : Nat) (piece : List Char) : Except ParseError Part :=
  match wrappedName? '$' piece with
  | some name => return .required (← checkName name (pos + 2))
  | none =>
    match wrappedName? '#' piece with
    | some name => return .optional (← checkName name (pos + 2))
    | none => .ok (.literal (String.ofList piece))

/-- Reads the placed pieces in order after the parts `done`, refusing a placeholder
whose name an earlier part has. -/
def readParts (done : List Part) : List (Nat × List Char) → Except ParseError (List Part)
  | [] => .ok done
  | (pos, piece) :: rest => do
    let part ← readPart pos piece
    match part.name? with
    | some name =>
      if done.any (·.name? == some name) then .error (.duplicate name)
      else readParts (done ++ [part]) rest
    | none => readParts (done ++ [part]) rest

/-- The non-empty pieces with the byte offset of each, the first piece being at
`pos` and one separator byte standing between pieces. -/
def place : Nat → List (List Char) → List (Nat × List Char)
  | _, [] => []
  | pos, piece :: rest =>
    (if piece.isEmpty then [] else [(pos, piece)]) ++ place (pos + Text.byteLength piece + 1) rest

/-- Compiles a mount path such as `/blog/${year}/#{slug}`. -/
def compile (path : String) : Except ParseError Template :=
  Template.mk <$> readParts [] (place 0 (path.toList.splitOn '/'))

/-- The text between a two-character opening `opener{` and a closing `}`, when a segment
starts and ends with them. -/
def stripWrapper? (opener : Char) (segment : List Char) : Option (List Char) :=
  ([opener, '{'].isPrefixOf? segment).bind (['}'].isSuffixOf? ·)

/-- The part a segment stands for, judged by its text alone: a segment that starts with
`${` or `#{` and ends with `}` is a placeholder of whatever stands between, and every other
segment is a literal. -/
def classify (segment : String) : Part :=
  match stripWrapper? '$' segment.toList with
  | some name => .required (String.ofList name)
  | none =>
    match stripWrapper? '#' segment.toList with
    | some name => .optional (String.ofList name)
    | none => .literal segment

/-- Reads segments in order after the parts `done`, `offset` bytes of the joined mount path
standing before the next segment's separator. Empty segments are skipped; a placeholder's
name is checked where it stands in the joined path, and only then for an earlier part of
the same name. -/
def readSegments (done : List Part) (offset : Nat) : List String → Except ParseError (List Part)
  | [] => .ok done
  | segment :: rest =>
    if segment.isEmpty then readSegments done offset rest
    else
      let pos := offset + 1
      let next := offset + 1 + Text.byteLength segment.toList
      let part := classify segment
      match part.name? with
      | some name =>
        match checkName name.toList (pos + 2) with
        | .error e => .error e
        | .ok _ =>
          if done.any (·.name? == some name) then .error (.duplicate name)
          else readSegments (done ++ [part]) next rest
      | none => readSegments (done ++ [part]) next rest

/-- Compiles a mount path given as its segments; empty segments are dropped and
error positions refer to the segments joined by `/` after a leading `/`. -/
def ofSegments (segments : List String) : Except ParseError Template :=
  Template.mk <$> readSegments [] 0 segments

end Template

end PageRoutes
