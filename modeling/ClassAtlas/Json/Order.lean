import ClassAtlas.Json.Basic

/-!
How JSON values compare.

Numbers compare with numbers, where a truth value counts as zero or one, texts with texts by their code
points, and lists with lists item by item. No other two values have an order.
-/

namespace ClassAtlas.Json

/-- The number that a value counts as in comparisons. -/
def asNumber? : Json → Option Int
  | .int value => some value
  | .bool value => some (if value then 1 else 0)
  | _ => none

mutual

/-- Whether two values are equal. A truth value equals the number it counts as, and the order of the
members of an object does not matter. -/
def same : Json → Json → Bool
  | .null, .null => true
  | .real first, .real second => first == second
  | .str first, .str second => first == second
  | .list first, .list second => sameItems first second
  | .object first, .object second => first.length == second.length && sameMembers first second
  | first, second =>
    match first.asNumber?, second.asNumber? with
    | some first, some second => first == second
    | _, _ => false

/-- Whether two lists are equal item by item. -/
def sameItems : List Json → List Json → Bool
  | [], [] => true
  | first :: firsts, second :: seconds => same first second && sameItems firsts seconds
  | _, _ => false

/-- Whether members are all found among others. -/
def sameMembers : List (String × Json) → List (String × Json) → Bool
  | [], _ => true
  | (key, value) :: rest, others =>
    (match others.lookup key with
      | some other => same value other
      | none => false) && sameMembers rest others

end

mutual

/-- Whether the first value comes before the second; absent if they have no order. -/
def before? : Json → Json → Option Bool
  | .str first, .str second => some (decide (first < second))
  | .list first, .list second => beforeItems? first second
  | first, second => do
    let first ← first.asNumber?
    let second ← second.asNumber?
    return decide (first < second)

/-- Whether the first list comes before the second: the first items that differ decide. -/
def beforeItems? : List Json → List Json → Option Bool
  | _, [] => some false
  | [], _ :: _ => some true
  | first :: firsts, second :: seconds =>
    if same first second then beforeItems? firsts seconds else before? first second

end

end ClassAtlas.Json
