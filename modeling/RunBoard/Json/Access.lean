import RunBoard.Json.Value

/-!
# Looking into JSON

For readers that do not insist on kinds: a value of another kind counts as empty, and a
member that is null counts as missing.
-/

namespace RunBoard.Json

/-! ## Values -/

def toText : Json → String
  | .str value => value
  | _ => ""

def toInteger : Json → Int
  | .int value => value
  | _ => 0

def toItems : Json → List Json
  | .arr items => items
  | _ => []

def toMembers : Json → List (String × Json)
  | .obj members => members
  | _ => []

def isTrue : Json → Bool
  | .bool value => value
  | _ => false

/-! ## Members -/

/-- The value of a member; null if there is none. -/
def memberAt (json : Json) (key : String) : Json := (json.get? key).getD .null

/-- The value of a member that is not null. -/
def memberAt? (json : Json) (key : String) : Option Json :=
  match json.get? key with
  | some .null => none
  | found => found

def hasAt (json : Json) (key : String) : Bool := (json.memberAt? key).isSome

def textAt? (json : Json) (key : String) : Option String := (json.memberAt? key).map toText

def textAt (json : Json) (key : String) : String := (json.memberAt key).toText

def integerAt? (json : Json) (key : String) : Option Int := (json.memberAt? key).map toInteger

def integerAt (json : Json) (key : String) : Int := (json.memberAt key).toInteger

/-- A number of things; what is below zero counts as none. -/
def countAt? (json : Json) (key : String) : Option Nat := (json.integerAt? key).map Int.toNat

def itemsAt (json : Json) (key : String) : List Json := (json.memberAt key).toItems

def membersAt (json : Json) (key : String) : List (String × Json) := (json.memberAt key).toMembers

def flagAt (json : Json) (key : String) : Bool := (json.memberAt key).isTrue

end RunBoard.Json
