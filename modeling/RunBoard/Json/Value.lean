/-!
# JSON values

Numbers keep apart what is written as an integer and what is not: an integer of at most
64 bits stays exact, every other number is a binary64. The members of an object stand in
ascending order of their keys, each key once.
-/

namespace RunBoard

inductive Json where
  | null
  | bool (value : Bool)
  | int (value : Int)
  | float (value : Float)
  | str (value : String)
  | arr (items : List Json)
  | obj (members : List (String × Json))
  deriving Inhabited

namespace Json

/-- Sets a member of a key-ordered member list; a key that is there gets the new value. -/
def setMember (key : String) (value : Json) : List (String × Json) → List (String × Json)
  | [] => [(key, value)]
  | (first, old) :: rest =>
      if key < first then (key, value) :: (first, old) :: rest
      else if key = first then (key, value) :: rest
      else (first, old) :: setMember key value rest

/-- The object with these members; of members with one key the last counts. -/
def ofMembers (members : List (String × Json)) : Json :=
  .obj (members.foldl (fun sorted member => setMember member.1 member.2 sorted) [])

def member? (key : String) : List (String × Json) → Option Json
  | [] => none
  | (first, value) :: rest => if first = key then some value else member? key rest

/-- The member of an object with this key. -/
def get? (json : Json) (key : String) : Option Json :=
  match json with
  | .obj members => member? key members
  | _ => none

end Json

end RunBoard
