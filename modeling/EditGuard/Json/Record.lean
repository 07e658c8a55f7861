import EditGuard.Json.Reader

/-!
# Records in JSON

A record is read from an object of its fields, or from an array of them in order.
No field may be unknown or come twice; fields that are missing keep their
defaults.
-/

namespace EditGuard.Json

/-- How each field of a record is set. -/
abbrev Fields (σ : Type) := List (String × (σ → Json → Option σ))

/-- Set the members of an object, of which each takes its field away. -/
def setMembers {σ : Type} (fields : Fields σ) (s : σ) : List (String × Json) → Option σ
  | [] => some s
  | (name, value) :: members => do
      let setField ← fields.lookup name
      setMembers (fields.filter (·.1 != name)) (← setField s value) members

/-- Set the fields in order. -/
def setItems {σ : Type} (s : σ) : Fields σ → List Json → Option σ
  | _, [] => some s
  | [], _ :: _ => none
  | (_, setField) :: fields, item :: items => do setItems (← setField s item) fields items

/-- Set the fields that a document gives. -/
def setRecord {σ : Type} (fields : Fields σ) (s : σ) : Json → Option σ
  | object members => setMembers fields s members
  | array items => setItems s fields items
  | _ => none

/-- A natural number up to a limit. -/
def natural? (limit : Nat) : Json → Option Nat
  | integer n => if 0 ≤ n ∧ n ≤ limit then some n.toNat else none
  | _ => none

/-- The text of a string. -/
def text? : Json → Option String
  | string s => some s
  | _ => none

/-- The strings of an array. -/
def texts? : Json → Option (List String)
  | array items => items.mapM text?
  | _ => none

/-- What is there unless the document is null. -/
def nullable? {α : Type} (read : Json → Option α) : Json → Option (Option α)
  | null => some none
  | j => (read j).map some

/-- One of several named choices: its name, or an object whose only member has that
name and is null. -/
def choice? {α : Type} (choices : List (String × α)) : Json → Option α
  | string name => choices.lookup name
  | object [(name, null)] => choices.lookup name
  | _ => none

end EditGuard.Json
