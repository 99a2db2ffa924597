import RunBoard.KeyMap
import RunBoard.Wire.Error

/-!
# Schemas

A schema describes how values of a type travel as JSON. Encoding, decoding a JSON value
and decoding a text are three readings of the same description.
-/

namespace RunBoard.Wire

/-- A type whose values travel as a single number, word or text. -/
structure Scalar (α : Type) where
  read : Json → Except DecodeError α
  write : α → Json

/-- What becomes of a field that is not there. `absent` is its value in an object and
`trailing` its value in an array that is too short; without one it is an error. A value
that `omitted` holds for is left out of an object. -/
structure FieldRule (α : Type) where
  absent : Option α
  trailing : Option α
  omitted : α → Bool

namespace FieldRule

variable {α : Type}

def required : FieldRule α := ⟨none, none, fun _ => false⟩

def defaulting (value : α) : FieldRule α := ⟨some value, some value, fun _ => false⟩

/-- A field that is left out when it is unset; an array has to name it. -/
def unsetOmitted : FieldRule (Option α) := ⟨some none, none, Option.isNone⟩

end FieldRule

mutual

inductive Schema : Type → Type 1 where
  | scalar {α : Type} (scalar : Scalar α) : Schema α
  | json : Schema Json
  | optional {α : Type} (inner : Schema α) : Schema (Option α)
  | list {α : Type} (inner : Schema α) : Schema (List α)
  | keyed {α : Type} (inner : Schema α) : Schema (KeyMap α)
  | names {α : Type} (known : List (String × α)) (nameOf : α → String) : Schema α
  | tagged {α : Type} (cases : Cases α) : Schema α
  | record {α γ σ : Type} (name : String) (fields : Fields γ σ) (make : γ → α)
      (parts : α → γ) : Schema α

/-- The fields of a record in order, with the type of their values and of the slots that
hold the values while a record is read. -/
inductive Fields : Type → Type → Type 1 where
  | done : Fields Unit Unit
  | field {α γ σ : Type} (name : String) (rule : FieldRule α) (schema : Schema α)
      (rest : Fields γ σ) : Fields (α × γ) (Option α × σ)

/-- The alternatives of a value that travels under the name of its kind. -/
inductive Cases : Type → Type 1 where
  | done {α : Type} : Cases α
  | case {α β : Type} (tag : String) (payload : Schema β) (inject : β → α)
      (project : α → Option β) (rest : Cases α) : Cases α

end

namespace Fields

def count {γ σ : Type} : Fields γ σ → Nat
  | .done => 0
  | .field _ _ _ rest => rest.count + 1

def emptySlots {γ σ : Type} : Fields γ σ → σ
  | .done => ()
  | .field _ _ _ rest => (none, rest.emptySlots)

/-- The values of the slots; a field without value is filled by its rule. -/
def fill {γ σ : Type} : Fields γ σ → σ → Except DecodeError γ
  | .done, _ => .ok ()
  | .field name rule _ rest, (slot, slots) =>
      match slot, rule.absent with
      | some value, _ => do return (value, ← rest.fill slots)
      | none, some value => do return (value, ← rest.fill slots)
      | none, none => .error (.missingField name)

end Fields

namespace Cases

def tags {α : Type} : Cases α → List String
  | .done => []
  | .case tag _ _ _ rest => tag :: rest.tags

end Cases

end RunBoard.Wire
