import RunBoard.Wire.Codec

/-!
# Decoding a text

A text is decoded as it is read, so a value of the wrong kind is reported even when the
text stops being JSON further on, and a repeated field is reported where it is repeated.
-/

namespace RunBoard.Wire

open Json (Written)

/-- The kind of value that a text begins with. -/
def outline : Written → Except TextError Json
  | .plain value => .ok value
  | .arr _ _ => .ok (.arr [])
  | .obj _ _ => .ok (.obj [])
  | .broken fault => .error (.syntaxError fault)

/-- The end of an array or object. -/
def closing (fault : Option Json.ReadError) : Except TextError Unit :=
  match fault with
  | none => .ok ()
  | some fault => .error (.syntaxError fault)

def asJson (written : Written) : Except TextError Json :=
  match Json.ofWritten written with
  | .ok json => .ok json
  | .error fault => .error (.syntaxError fault)

def asData {α : Type} : Except DecodeError α → Except TextError α
  | .ok value => .ok value
  | .error cause => .error (.data cause)

def mistypedText {α : Type} (written : Written) (wanted : Wanted) : Except TextError α := do
  let value ← outline written
  .error (.data (.mistyped value wanted))

/-- The name of an alternative and, in an object, what it stands before. -/
def alternative (written : Written) :
    Except TextError (String × Option (Written × Except TextError Unit)) :=
  match written with
  | .plain (.str name) => .ok (name, none)
  | .obj [] fault => .error (.syntaxError (fault.getD .expectedValue))
  | .obj [(name, content)] fault => .ok (name, some (content, closing fault))
  | .obj ((name, content) :: _) _ =>
      .ok (name, some (content, .error (.syntaxError .expectedValue)))
  | .broken fault => .error (.syntaxError fault)
  | _ => .error (.syntaxError .expectedValue)

mutual

def readWritten {α : Type} : Schema α → Written → Except TextError α
  | .scalar scalar, written => do asData (scalar.read (← outline written))
  | .json, written => asJson written
  | .optional inner, written =>
      match written with
      | .plain .null => .ok none
      | written => (readWritten inner written).map some
  | .list inner, written =>
      match written with
      | .arr items fault => do
          let values ← items.mapM (readWritten inner)
          closing fault
          return values
      | written => mistypedText written .sequence
  | .keyed inner, written =>
      match written with
      | .obj members fault => do
          let entries ← members.mapM fun member => do
            return (member.1, ← readWritten inner member.2)
          closing fault
          return KeyMap.ofList entries
      | written => mistypedText written .map
  | .names known _, written => do
      let (name, content) ← alternative written
      let value ←
        match findName name known with
        | some value => Except.ok value
        | none => .error (.data (.unknownVariant name (known.map Prod.fst)))
      match content with
      | none => return value
      | some (content, close) =>
          match ← outline content with
          | .null =>
              close
              return value
          | content => .error (.data (.mistyped content .unit))
  | .tagged cases, written => do
      let (tag, content) ← alternative written
      match content with
      | none =>
          if cases.tags.contains tag then .error (.data (.wrongType .unitVariant .newtype))
          else .error (.data (.unknownVariant tag cases.tags))
      | some (content, close) =>
          match readCase cases tag content with
          | none => .error (.data (.unknownVariant tag cases.tags))
          | some result =>
              let value ← result
              close
              return value
  | .record name fields make _, written =>
      match written with
      | .obj members fault => do
          let slots ← members.foldlM
            (fun slots member => readField fields member.1 member.2 slots) fields.emptySlots
          closing fault
          return make (← asData (fields.fill slots))
      | .arr items fault => do
          let values ← readItems fields name fields.count items.length items fault
          return make values
      | written => mistypedText written (.record name)

/-- Puts a member of an object into the slot of its field. -/
def readField {γ σ : Type} : Fields γ σ → String → Written → σ → Except TextError σ
  | .done, _, written, slots => do
      let _ ← asJson written
      return slots
  | .field name _ schema rest, key, written, (slot, slots) =>
      if name = key then
        if slot.isSome then .error (.data (.duplicateField name))
        else do return (some (← readWritten schema written), slots)
      else do return (slot, ← readField rest key written slots)

def readItems {γ σ : Type} : Fields γ σ → String → Nat → Nat → List Written →
    Option Json.ReadError → Except TextError γ
  | .done, _, _, _, items, fault =>
      match items with
      | [] => closing fault
      | _ :: _ => .error (.syntaxError .trailingCharacters)
  | .field _ rule schema rest, name, fields, given, items, fault =>
      match items, rule.trailing with
      | item :: items, _ => do
          let value ← readWritten schema item
          return (value, ← readItems rest name fields given items fault)
      | [], some value => do
          closing fault
          return (value, ← readItems rest name fields given [] fault)
      | [], none => do
          closing fault
          .error (.data (.wrongLength given (.recordOf name fields)))

def readCase {α : Type} : Cases α → String → Written → Option (Except TextError α)
  | .done, _, _ => none
  | .case tag payload inject _ rest, key, written =>
      if tag = key then some ((readWritten payload written).map inject)
      else readCase rest key written

end

/-- The value that a text holds. -/
def readBytes {α : Type} (schema : Schema α) (bytes : List UInt8) : Except TextError α := do
  let reading := Json.readChars (Text.Utf8.decode bytes)
  let value ← readWritten schema reading.written
  match reading.fault with
  | none => return value
  | some (cause, _) => .error (.syntaxError cause)

end RunBoard.Wire
