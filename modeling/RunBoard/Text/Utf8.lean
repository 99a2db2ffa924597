/-!
# UTF-8

Characters as bytes and bytes as characters. A byte that belongs to no encoded
character is kept as a hole, so that a reader can say where a text stops being text.
-/

namespace RunBoard.Text.Utf8

/-- The bytes of a sequence of characters. -/
def encode (chars : List Char) : List UInt8 :=
  chars.flatMap String.utf8EncodeChar

theorem encode_cons (c : Char) (rest : List Char) :
    encode (c :: rest) = String.utf8EncodeChar c ++ encode rest := by
  simp [encode]

/-- The six payload bits of a continuation byte. -/
def continuation? (byte : UInt8) : Option Nat :=
  if 0x80 ≤ byte && byte < 0xC0 then some (byte.toNat - 0x80) else none

/-- The character with this code, if it is a scalar value and not below `least`. -/
def scalar? (least code : Nat) : Option Char :=
  if least ≤ code && (code < 0xD800 || (0xDFFF < code && code < 0x110000)) then
    some (Char.ofNat code)
  else none

/-- The encoded character that a byte sequence begins with, and its length in bytes. -/
def first? : List UInt8 → Option (Char × Nat)
  | [] => none
  | a :: rest =>
      if a < 0x80 then some (Char.ofNat a.toNat, 1)
      else if a < 0xC0 then none
      else if a < 0xE0 then
        match rest with
        | b :: _ => do
            let low ← continuation? b
            let c ← scalar? 0x80 ((a.toNat - 0xC0) * 0x40 + low)
            return (c, 2)
        | _ => none
      else if a < 0xF0 then
        match rest with
        | b :: c :: _ => do
            let middle ← continuation? b
            let low ← continuation? c
            let char ← scalar? 0x800 (((a.toNat - 0xE0) * 0x40 + middle) * 0x40 + low)
            return (char, 3)
        | _ => none
      else if a < 0xF8 then
        match rest with
        | b :: c :: d :: _ => do
            let high ← continuation? b
            let middle ← continuation? c
            let low ← continuation? d
            let char ← scalar? 0x10000
              ((((a.toNat - 0xF0) * 0x40 + high) * 0x40 + middle) * 0x40 + low)
            return (char, 4)
        | _ => none
      else none

/-- Decodes a byte sequence of which the first `skip` bytes are already accounted for. -/
def decodeFrom (skip : Nat) : List UInt8 → List (Option Char)
  | [] => []
  | byte :: rest =>
      match skip with
      | skip + 1 => decodeFrom skip rest
      | 0 =>
          match first? (byte :: rest) with
          | some (c, length) => some c :: decodeFrom (length - 1) rest
          | none => none :: decodeFrom 0 rest

/-- The characters of a byte sequence; a byte that encodes nothing stands as `none`. -/
def decode (bytes : List UInt8) : List (Option Char) :=
  decodeFrom 0 bytes

/-- The characters of a byte sequence that is UTF-8 throughout. -/
def decode? (bytes : List UInt8) : Option (List Char) :=
  (decode bytes).mapM id

/-- The text of a byte sequence that is UTF-8 throughout. -/
def text? (bytes : List UInt8) : Option String :=
  (decode? bytes).map String.ofList

/-- The bytes of a text. -/
def bytes (text : String) : List UInt8 :=
  encode text.toList

end RunBoard.Text.Utf8
