import LedgerFlow.Json.Basic
import LedgerFlow.Schema.Issue

/-!
Checking a value part by part: the issues of all parts are gathered in order, and there is a result only
if there are none.
-/

namespace LedgerFlow.Schema

/-- The text that the schema library makes of the issues, from the name of the schema and the value. -/
abbrev Wording := String → Json → List Issue → String

def Wording.heading : Wording := fun model _ issues =>
  s!"{issues.length} validation error" ++ (if issues.length = 1 then "" else "s") ++ s!" for {model}"

inductive Checked (α : Type)
  | valid (a : α)
  | invalid (issues : List Issue)
deriving Repr

namespace Checked

def map {α β : Type} (f : α → β) : Checked α → Checked β
  | .valid a => .valid (f a)
  | .invalid is => .invalid is

def seq {α β : Type} : Checked (α → β) → Checked α → Checked β
  | .valid f, .valid a => .valid (f a)
  | .valid _, .invalid is => .invalid is
  | .invalid is, .valid _ => .invalid is
  | .invalid is, .invalid js => .invalid (is ++ js)

instance : Applicative Checked where
  pure := .valid
  map f x := x.map f
  seq f x := f.seq (x ())

def andThen {α β : Type} : Checked α → (α → Checked β) → Checked β
  | .valid a, f => f a
  | .invalid is, _ => .invalid is

def issue {α : Type} (kind : IssueKind) : Checked α :=
  .invalid [⟨[], kind⟩]

def within {α : Type} (key : Key) : Checked α → Checked α
  | .valid a => .valid a
  | .invalid is => .invalid (is.map fun i => { i with loc := key :: i.loc })

def toExcept {α : Type} : Checked α → Except (List Issue) α
  | .valid a => .ok a
  | .invalid is => .error is

end Checked

abbrev Decoder (α : Type) := Json → Checked α

abbrev Members := List (String × Json)

def decodeItems {α : Type} (d : Decoder α) (index : Nat) : List Json → Checked (List α)
  | [] => .valid []
  | v :: rest => List.cons <$> (d v).within (.index index) <*> decodeItems d (index + 1) rest

def list {α : Type} (d : Decoder α) : Decoder (List α)
  | .array items => decodeItems d 0 items
  | _ => .issue .listType

def nullable {α : Type} (d : Decoder α) : Decoder (Option α)
  | .null => .valid none
  | v => some <$> d v

def record {α : Type} (fields : Members → Checked α) : Decoder α
  | .object ms => fields ms
  | _ => .issue .modelType

def firstPresent (ms : Members) : List String → Option (String × Json)
  | [] => none
  | key :: rest => match ms.lookup key with
    | some v => some (key, v)
    | none => firstPresent ms rest

/-- A field that may be left out; it is reported under the key by which it was given. -/
def optionalField {α : Type} (ms : Members) (keys : List String) (default : α) (d : Decoder α) :
    Checked α :=
  match firstPresent ms keys with
  | none => .valid default
  | some (key, v) => (d v).within (.name key)

def requiredField {α : Type} (ms : Members) (key : String) (d : Decoder α) : Checked α :=
  match ms.lookup key with
  | none => Checked.within (.name key) (.issue .missing)
  | some v => (d v).within (.name key)

/-- A required field with other keys; it is reported under its own whichever of them was given. -/
def requiredAlias {α : Type} (ms : Members) (key : String) (others : List String) (d : Decoder α) :
    Checked α :=
  match firstPresent ms (key :: others) with
  | none => Checked.within (.name key) (.issue .missing)
  | some (_, v) => (d v).within (.name key)

def noOthers (ms : Members) (known : List String) : Checked Unit :=
  match ms.filter fun m => !known.contains m.1 with
  | [] => .valid ()
  | extra => .invalid (extra.map fun m => ⟨[.name m.1], .extraForbidden⟩)

/-- The parts of a record all of whose keys can be read: a key that is no text hides every other issue. -/
def withReadableKeys {α : Type} (ms : Members) (c : Checked α) : Checked α :=
  if ms.any fun m => Text.hasHalf m.1 then .issue .stringUnicode else c

def closed {α : Type} (ms : Members) (known : List String) (c : Checked α) : Checked α :=
  withReadableKeys ms ((fun a _ => a) <$> c <*> noOthers ms known)

def camelChars : List Char → List Char
  | '_' :: c :: rest => c.toUpper :: camelChars rest
  | c :: rest => c :: camelChars rest
  | [] => []

def camelCase (name : String) : String := String.ofList (camelChars name.toList)

def looseField {α : Type} (ms : Members) (name : String) (default : α) (d : Decoder α) : Checked α :=
  optionalField ms [camelCase name, name] default d

end LedgerFlow.Schema
