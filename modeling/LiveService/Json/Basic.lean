import LiveService.Text.Bytes

/-!
Document values.  Object members stand in a list: records keep the order of their fields, and free
values the ascending order of their keys (`Json.insert`).
-/

namespace LiveService

inductive Number where
  | integer (value : Int)
  | float (value : Float)

def Number.same : Number → Number → Bool
  | .integer left, .integer right => left == right
  | .float left, .float right => left == right
  | _, _ => false

inductive Json where
  | null
  | bool (value : Bool)
  | number (value : Number)
  | text (value : String)
  | array (items : List Json)
  | object (members : List (String × Json))

namespace Json

mutual

def same : Json → Json → Bool
  | .null, .null => true
  | .bool left, .bool right => left == right
  | .number left, .number right => left.same right
  | .text left, .text right => left == right
  | .array left, .array right => sameItems left right
  | .object left, .object right => sameMembers left right
  | _, _ => false

def sameItems : List Json → List Json → Bool
  | [], [] => true
  | left :: leftRest, right :: rightRest => same left right && sameItems leftRest rightRest
  | _, _ => false

def sameMembers : List (String × Json) → List (String × Json) → Bool
  | [], [] => true
  | (leftKey, left) :: leftRest, (rightKey, right) :: rightRest =>
      leftKey == rightKey && same left right && sameMembers leftRest rightRest
  | _, _ => false

end

instance : BEq Json := ⟨same⟩

/-- Puts a member at its place among ascending keys; an earlier member of that key gives way. -/
def insert (key : String) (value : Json) : List (String × Json) → List (String × Json)
  | [] => [(key, value)]
  | (other, held) :: rest =>
    if key < other then (key, value) :: (other, held) :: rest
    else if key = other then (key, value) :: rest
    else (other, held) :: insert key value rest

def integer (value : Int) : Json := .number (.integer value)

def get? (key : String) : Json → Option Json
  | .object members => members.lookup key
  | _ => none

end Json

end LiveService
