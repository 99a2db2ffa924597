import RunBoard.Text.Digits
import RunBoard.Url.Punycode

/-!
# Hosts

A host is a domain name or an address. A special scheme reads its host as a domain: it is
percent-decoded, put into lower case and ASCII, and taken for an IPv4 address when its
last label is a number. Other schemes leave the host as it is.
-/

namespace RunBoard.Url

/-! ## Faults -/

/-- Why a text is no URL. -/
inductive Fault where
  | emptyHost
  | invalidDomain
  | invalidHostCharacter
  | invalidPort
  | invalidIpv4
  | invalidIpv6
  /-- A relative reference stands alone. -/
  | noBase
  /-- A relative reference stands beside a URL that has no hierarchy. -/
  | flatBase
  deriving DecidableEq, Repr

namespace Fault

def message : Fault → String
  | emptyHost => "empty host"
  | invalidDomain => "invalid international domain name"
  | invalidHostCharacter => "invalid domain character"
  | invalidPort => "invalid port number"
  | invalidIpv4 => "invalid IPv4 address"
  | invalidIpv6 => "invalid IPv6 address"
  | noBase => "relative URL without a base"
  | flatBase => "relative URL with a cannot-be-a-base base"

end Fault

inductive Host where
  | domain (name : List Char)
  | ipv4 (address : Nat)
  | ipv6 (pieces : List Nat)
  deriving DecidableEq, Repr

namespace Host

/-! ## IPv4 -/

/-- A part of an IPv4 address: decimal, octal after a zero, hexadecimal after `0x`. -/
def ipv4Part? : List Char → Option Nat
  | [] => none
  | '0' :: 'x' :: digits => Text.digitsValue? 16 digits
  | '0' :: 'X' :: digits => Text.digitsValue? 16 digits
  | ['0'] => some 0
  | '0' :: digits => Text.digitsValue? 8 digits
  | digits => Text.digitsValue? 10 digits

def labels (name : List Char) : List (List Char) := name.splitOn '.'

/-- The labels without the empty one behind a final dot. -/
def properLabels (name : List Char) : List (List Char) :=
  let parts := labels name
  if 1 < parts.length && parts.getLast? = some [] then parts.dropLast else parts

def endsInNumber (name : List Char) : Bool :=
  match (properLabels name).getLast? with
  | none => false
  | some last => (!last.isEmpty && last.all Char.isDigit) || (ipv4Part? last).isSome

/-- The address that all parts but the last fill byte by byte and the last fills up. -/
def ipv4OfParts? (parts : List Nat) : Option Nat :=
  match parts.reverse with
  | [] => none
  | last :: reversed =>
      let leading := reversed.reverse
      if 3 < leading.length || leading.any (fun part => 255 < part) then none
      else if Nat.pow 256 (4 - leading.length) ≤ last then none
      else
        let bytes := leading ++ List.replicate (4 - leading.length) 0
        some (bytes.foldl (fun value byte => value * 256 + byte) 0 + last)

def parseIpv4 (name : List Char) : Except Fault Host :=
  match ((properLabels name).mapM ipv4Part?).bind ipv4OfParts? with
  | some address => .ok (.ipv4 address)
  | none => .error .invalidIpv4

/-! ## IPv6 -/

/-- A piece of one to four hexadecimal digits. -/
def ipv6Piece? (digits : List Char) : Option Nat :=
  if digits.isEmpty || 4 < digits.length then none else Text.digitsValue? 16 digits

/-- A byte of the dotted tail: decimal, without leading zero. -/
def tailByte? (digits : List Char) : Option Nat :=
  if digits.isEmpty || (1 < digits.length && digits.head? = some '0') then none
  else (Text.digitsValue? 10 digits).filter fun byte => byte ≤ 255

/-- The two pieces of a dotted tail. -/
def tailPieces? (text : List Char) : Option (List Nat) := do
  match ← (text.splitOn '.').mapM tailByte? with
  | [a, b, c, d] => some [a * 256 + b, c * 256 + d]
  | _ => none

/-- Pieces between colons; the last of the address may be a dotted tail. -/
def pieces? (final : Bool) : List (List Char) → Option (List Nat)
  | [] => some []
  | [last] =>
      if final && last.contains '.' then tailPieces? last
      else (ipv6Piece? last).map fun piece => [piece]
  | first :: rest => do return (← ipv6Piece? first) :: (← pieces? final rest)

/-- The pieces on one side of a double colon. -/
def side? (final : Bool) (text : List Char) : Option (List Nat) :=
  if text.isEmpty then some [] else pieces? final (text.splitOn ':')

/-- The text before and after the first double colon. -/
def splitAtGap : List Char → Option (List Char × List Char)
  | ':' :: ':' :: rest => some ([], rest)
  | [] => none
  | c :: rest => (splitAtGap rest).map fun (before, after) => (c :: before, after)

def ipv6Pieces? (text : List Char) : Option (List Nat) := do
  match splitAtGap text with
  | none => (← side? true text) |> fun pieces => if pieces.length = 8 then some pieces else none
  | some (before, after) =>
      let front ← side? false before
      let back ← side? true after
      let count := front.length + back.length
      if count < 8 then some (front ++ List.replicate (8 - count) 0 ++ back) else none

def parseIpv6 (text : List Char) : Except Fault Host :=
  match ipv6Pieces? text with
  | some pieces => .ok (.ipv6 pieces)
  | none => .error .invalidIpv6

/-- How many zero pieces an address begins with. -/
def leadingZeros (pieces : List Nat) : Nat := (pieces.takeWhile (· = 0)).length

/-- Where the first longest run of zero pieces starts, and its length. -/
def longestGap : List Nat → Nat × Nat
  | [] => (0, 0)
  | piece :: rest =>
      let here := leadingZeros (piece :: rest)
      let (start, length) := longestGap rest
      if here ≠ 0 && length ≤ here then (0, here) else (start + 1, length)

def hexText (pieces : List Nat) : List Char :=
  [':'].intercalate (pieces.map (Nat.toDigits 16))

/-- An address with its longest run of zeros, if there are two at least, as a double colon. -/
def ipv6Text (pieces : List Nat) : List Char :=
  let (start, length) := longestGap pieces
  if length < 2 then hexText pieces
  else hexText (pieces.take start) ++ [':', ':'] ++ hexText (pieces.drop (start + length))

def ipv4Text (address : Nat) : List Char :=
  ['.'].intercalate ([address >>> 24, address >>> 16 % 256, address >>> 8 % 256,
    address % 256].map (Nat.toDigits 10))

/-! ## Domains -/

/-- Characters that no domain name may have. -/
def isForbidden (c : Char) : Bool :=
  c.toNat ≤ 32 || (127 ≤ c.toNat && c.toNat < 160) || "%#/:<>?@[\\]^|".toList.contains c

/-- Characters that a domain name is read without. -/
def isIgnored (c : Char) : Bool :=
  c = '\u00ad' || c = '\u200b' || c = '\u2060' || c = '\ufeff' ||
    (0xfe00 ≤ c.toNat && c.toNat ≤ 0xfe0f)

/-- The lower-case letter of the Latin, Greek and Cyrillic alphabets. -/
def lower (c : Char) : Char :=
  let code := c.toNat
  if code < 128 then c.toLower
  else if 0xC0 ≤ code && code ≤ 0xDE && code ≠ 0xD7 then Char.ofNat (code + 32)
  else if (0x100 ≤ code && code ≤ 0x12F) || (0x132 ≤ code && code ≤ 0x137) ||
      (0x14A ≤ code && code ≤ 0x177) || (0x460 ≤ code && code ≤ 0x481) ||
      (0x48A ≤ code && code ≤ 0x4BF) || (0x1E00 ≤ code && code ≤ 0x1E95) then
    if code % 2 = 0 then Char.ofNat (code + 1) else c
  else if (0x139 ≤ code && code ≤ 0x148) || (0x179 ≤ code && code ≤ 0x17E) then
    if code % 2 = 1 then Char.ofNat (code + 1) else c
  else if code = 0x178 then Char.ofNat 0xFF
  else if 0x391 ≤ code && code ≤ 0x3A9 then Char.ofNat (code + 32)
  else if 0x400 ≤ code && code ≤ 0x40F then Char.ofNat (code + 80)
  else if 0x410 ≤ code && code ≤ 0x42F then Char.ofNat (code + 32)
  else c

/-- The character that a domain name has for a written one. -/
def mapped (c : Char) : Char :=
  if c = '\u3002' || c = '\uff0e' || c = '\uff61' then '.'
  else if 0xff01 ≤ c.toNat && c.toNat ≤ 0xff5e then (Char.ofNat (c.toNat - 0xfee0)).toLower
  else lower c

/-- A label in ASCII. -/
def asciiLabel (label : List Char) : List Char :=
  if label.all fun c => c.toNat < 128 then label
  else ['x', 'n', '-', '-'] ++ Punycode.encode label

/-- A character that a domain name has as it is written. -/
def isSettled (c : Char) : Bool := mapped c = c && !isIgnored c && !isForbidden c

/-- Whether a label that claims to be in Punycode is what its own label is written as. -/
def isSound (label : List Char) : Bool :=
  match label with
  | 'x' :: 'n' :: '-' :: '-' :: code =>
      (Punycode.decode? code).any fun decoded =>
        decoded.all isSettled && asciiLabel decoded = label
  | _ => true

def asciiDomain (name : List Char) : Except Fault (List Char) :=
  let mappedName := (name.filter fun c => !isIgnored c).map mapped
  if mappedName.any isForbidden || mappedName.contains '\ufffd' then .error .invalidDomain
  else if (labels mappedName).all isSound then
    .ok (['.'].intercalate ((labels mappedName).map asciiLabel))
  else .error .invalidDomain

/-! ## Reading and writing -/

/-- An address in square brackets. -/
def parseBracketed (text : List Char) : Except Fault Host :=
  if text.getLast? = some ']' then parseIpv6 text.dropLast else .error .invalidIpv6

/-- The host of a special scheme. -/
def parseDomain (text : List Char) : Except Fault Host :=
  match text with
  | '[' :: rest => parseBracketed rest
  | text => do
      let decoded ←
        match Text.Utf8.decode? (Text.Percent.decode text) with
        | some decoded => .ok decoded
        | none => .error .invalidDomain
      let name ← asciiDomain decoded
      if name.isEmpty then .error .emptyHost
      else if endsInNumber name then parseIpv4 name
      else .ok (.domain name)

/-- Characters that stand for themselves in a host that is left as it is. -/
def isPlain (c : Char) : Bool := 32 ≤ c.toNat && c.toNat < 127

/-- The host of any other scheme. -/
def parsePlain (text : List Char) : Except Fault Host :=
  match text with
  | '[' :: rest => parseBracketed rest
  | text =>
      if text.any fun c => c = '\x00' || " #/:<>?@[\\]^|".toList.contains c then
        .error .invalidHostCharacter
      else .ok (.domain (Text.Percent.encode isPlain text))

def text : Host → List Char
  | domain name => name
  | ipv4 address => ipv4Text address
  | ipv6 pieces => ['['] ++ ipv6Text pieces ++ [']']

end Host

end RunBoard.Url
