import RunBoard.Text.Utf8

/-!
# Percent encoding

A character outside the kept set is written as its UTF-8 bytes, each as a percent sign
and two upper-case hexadecimal digits. Decoding replaces every complete triple by its
byte and leaves every other byte alone.
-/

namespace RunBoard.Text.Percent

def hexDigit (n : Nat) : Char :=
  if n < 10 then Char.ofNat (48 + n) else Char.ofNat (55 + n)

def hexValue? (c : Char) : Option Nat :=
  if '0' ≤ c && c ≤ '9' then some (c.toNat - 48)
  else if 'A' ≤ c && c ≤ 'F' then some (c.toNat - 55)
  else if 'a' ≤ c && c ≤ 'f' then some (c.toNat - 87)
  else none

/-- One byte as a triple. -/
def triple (byte : UInt8) : List Char :=
  ['%', hexDigit (byte.toNat / 16), hexDigit (byte.toNat % 16)]

/-- One character: itself when kept, otherwise the triples of its bytes. -/
def encodeChar (keep : Char → Bool) (c : Char) : List Char :=
  if keep c then [c] else (String.utf8EncodeChar c).flatMap triple

def encode (keep : Char → Bool) (chars : List Char) : List Char :=
  chars.flatMap (encodeChar keep)

theorem encode_cons (keep : Char → Bool) (c : Char) (rest : List Char) :
    encode keep (c :: rest) = encodeChar keep c ++ encode keep rest := by
  simp [encode]

theorem encode_append (keep : Char → Bool) (first second : List Char) :
    encode keep (first ++ second) = encode keep first ++ encode keep second := by
  simp [encode]

/-- The bytes that a percent-encoded text stands for. -/
def decode : List Char → List UInt8
  | [] => []
  | '%' :: high :: low :: rest =>
      match hexValue? high, hexValue? low with
      | some h, some l => UInt8.ofNat (16 * h + l) :: decode rest
      | _, _ => String.utf8EncodeChar '%' ++ decode (high :: low :: rest)
  | c :: rest => String.utf8EncodeChar c ++ decode rest

/-- The characters that stand for themselves in a component of a URL. -/
def isComponentChar (c : Char) : Bool :=
  c.isAlphanum || c == '-' || c == '_' || c == '.' || c == '!' || c == '~' || c == '*' ||
    c == '\'' || c == '(' || c == ')'

/-- Encodes everything that could have a meaning of its own inside a URL. -/
def encodeComponent (text : String) : String :=
  String.ofList (encode isComponentChar text.toList)

end RunBoard.Text.Percent
