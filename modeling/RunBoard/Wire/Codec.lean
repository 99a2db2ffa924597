import RunBoard.Wire.Schema

/-!
# Encoding and decoding

Decoding visits what the JSON value has in the order it has it, so of two faults the
first one visited is reported; fields that are missing are looked for afterwards. A record
may also travel as the array of its fields.
-/

namespace RunBoard.Wire

mutual

def encode {α : Type} : Schema α → α → Json
  | .scalar scalar, value => scalar.write value
  | .json, value => value
  | .optional _, none => .null
  | .optional inner, some value => encode inner value
  | .list inner, values => .arr (values.map (encode inner))
  | .keyed inner, map => .obj (map.entries.map fun entry => (entry.1, encode inner entry.2))
  | .names _ nameOf, value => .str (nameOf value)
  | .tagged cases, value => encodeCase cases value
  | .record _ fields _ parts, value => Json.ofMembers (encodeFields fields (parts value))

def encodeFields {γ σ : Type} : Fields γ σ → γ → List (String × Json)
  | .done, _ => []
  | .field name rule schema rest, (value, values) =>
      if rule.omitted value then encodeFields rest values
      else (name, encode schema value) :: encodeFields rest values

def encodeCase {α : Type} : Cases α → α → Json
  | .done, _ => .null
  | .case tag payload _ project rest, value =>
      match project value with
      | some inner => .obj [(tag, encode payload inner)]
      | none => encodeCase rest value

end

def findName {α : Type} (name : String) : List (String × α) → Option α
  | [] => none
  | (first, value) :: rest => if first = name then some value else findName name rest

mutual

def decode {α : Type} : Schema α → Json → Except DecodeError α
  | .scalar scalar, json => scalar.read json
  | .json, json => .ok json
  | .optional inner, json =>
      match json with
      | .null => .ok none
      | json => (decode inner json).map some
  | .list inner, json =>
      match json with
      | .arr items => items.mapM (decode inner)
      | json => .error (.mistyped json .sequence)
  | .keyed inner, json =>
      match json with
      | .obj members => do
          let entries ← members.mapM fun member => do
            return (member.1, ← decode inner member.2)
          return KeyMap.ofList entries
      | json => .error (.mistyped json .map)
  | .names known _, json =>
      let named := fun name =>
        match findName name known with
        | some value => Except.ok value
        | none => .error (.unknownVariant name (known.map Prod.fst))
      match json with
      | .str name => named name
      | .obj [(name, content)] => do
          let value ← named name
          match content with
          | .null => return value
          | content => .error (.mistyped content .unit)
      | .obj _ => .error (.wrongValue .map .singleKey)
      | json => .error (.mistyped json .textOrMap)
  | .tagged cases, json =>
      match json with
      | .str tag =>
          if cases.tags.contains tag then .error (.wrongType .unitVariant .newtype)
          else .error (.unknownVariant tag cases.tags)
      | .obj [(tag, content)] =>
          match decodeCase cases tag content with
          | some result => result
          | none => .error (.unknownVariant tag cases.tags)
      | .obj _ => .error (.wrongValue .map .singleKey)
      | json => .error (.mistyped json .textOrMap)
  | .record name fields make _, json =>
      match json with
      | .obj members => do
          let slots ← members.foldlM
            (fun slots member => decodeField fields member.1 member.2 slots) fields.emptySlots
          return make (← fields.fill slots)
      | .arr items => do
          let values ← decodeItems fields name fields.count items.length items
          return make values
      | json => .error (.mistyped json (.record name))

/-- Puts a member of an object into the slot of its field; a member that no field has is
passed over. -/
def decodeField {γ σ : Type} : Fields γ σ → String → Json → σ → Except DecodeError σ
  | .done, _, _, slots => .ok slots
  | .field name _ schema rest, key, json, (slot, slots) =>
      if name = key then do return (some (← decode schema json), slots)
      else do return (slot, ← decodeField rest key json slots)

/-- The fields of a record of which the array `items` is left, out of `given`. -/
def decodeItems {γ σ : Type} : Fields γ σ → String → Nat → Nat → List Json →
    Except DecodeError γ
  | .done, _, _, given, items =>
      match items with
      | [] => .ok ()
      | _ :: _ => .error (.wrongLength given .fewerItems)
  | .field _ rule schema rest, name, fields, given, items =>
      match items, rule.trailing with
      | item :: items, _ => do
          let value ← decode schema item
          return (value, ← decodeItems rest name fields given items)
      | [], some value => do return (value, ← decodeItems rest name fields given [])
      | [], none => .error (.wrongLength given (.recordOf name fields))

def decodeCase {α : Type} : Cases α → String → Json → Option (Except DecodeError α)
  | .done, _, _ => none
  | .case tag payload inject _ rest, key, json =>
      if tag = key then some ((decode payload json).map inject)
      else decodeCase rest key json

end

end RunBoard.Wire
