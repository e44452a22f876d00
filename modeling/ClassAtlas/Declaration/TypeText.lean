import ClassAtlas.Name.Context
import ClassAtlas.Text.CharClass

/-!
Written types with their names resolved.

Every name in the text of a type is replaced by the full name it stands for, the built-in types
apart; all other characters stay as they are.
-/

namespace ClassAtlas.TypeText

/-- Types that belong to the language and no namespace. -/
def builtins : List String := [
  "array", "callable", "iterable", "bool", "boolean", "float", "double", "int", "integer", "string",
  "void", "mixed", "never", "null", "false", "true", "object", "self", "static", "parent"]

/-- Whether a character lies between ASCII and the supplementary planes. -/
def isBasicPlane (char : Char) : Bool := 0x80 ≤ char.toNat && char.toNat ≤ 0xffff

/-- Whether a segment of a name can start with a character. -/
def startsSegment (char : Char) : Bool := char.isAlpha || char == '_' || isBasicPlane char

/-- Whether a segment of a name can continue with a character. -/
def continuesSegment (char : Char) : Bool := isBasicPlane char || Text.isWordChar char

theorem length_dropWhile_continues_le (chars : List Char) :
    (chars.dropWhile continuesSegment).length ≤ chars.length :=
  Token.length_dropWhile_le _ chars

/-- The further segments of a name, each with the separator before it, and what follows them. -/
def segmentsAhead (chars : List Char) : List Char × List Char :=
  match chars with
  | '\\' :: first :: rest =>
    if startsSegment first then
      let (more, after) := segmentsAhead (rest.dropWhile continuesSegment)
      ('\\' :: first :: rest.takeWhile continuesSegment ++ more, after)
    else ([], chars)
  | _ => ([], chars)
termination_by chars.length
decreasing_by
  have bound := length_dropWhile_continues_le rest
  simp only [List.length_cons]
  omega

/-- Reading segments loses no character. -/
theorem segmentsAhead_append (chars : List Char) :
    (segmentsAhead chars).1 ++ (segmentsAhead chars).2 = chars := by
  fun_induction segmentsAhead chars with
  | case1 first rest starts more after equation inductionHypothesis =>
    rw [equation] at inductionHypothesis
    simp only [List.cons_append, List.append_assoc]
    rw [inductionHypothesis, List.takeWhile_append_dropWhile]
  | case2 => rfl
  | case3 => rfl

/-- The name at the front of the characters, and what follows it. -/
def nameAhead? (chars : List Char) : Option (List Char × List Char) :=
  match chars with
  | [] => none
  | '\\' :: _ =>
    let (name, after) := segmentsAhead chars
    if name.isEmpty then none else some (name, after)
  | first :: rest =>
    if startsSegment first then
      let (more, after) := segmentsAhead (rest.dropWhile continuesSegment)
      some (first :: rest.takeWhile continuesSegment ++ more, after)
    else none

/-- A name at the front has at least one character, and reading it loses none. -/
theorem append_of_nameAhead? {chars name after : List Char}
    (found : nameAhead? chars = some (name, after)) : name ≠ [] ∧ name ++ after = chars := by
  unfold nameAhead? at found
  split at found
  · contradiction
  · rename_i rest
    have whole := segmentsAhead_append ('\\' :: rest)
    dsimp only at found
    split at found
    · contradiction
    · rename_i notEmpty
      cases found
      refine ⟨?_, whole⟩
      intro isNil
      simp [isNil] at notEmpty
  · rename_i first rest _
    have whole := segmentsAhead_append (rest.dropWhile continuesSegment)
    dsimp only at found
    split at found
    · cases found
      refine ⟨by simp, ?_⟩
      simp only [List.cons_append, List.append_assoc]
      rw [whole, List.takeWhile_append_dropWhile]
    · contradiction

theorem length_lt_of_nameAhead? {chars name after : List Char}
    (found : nameAhead? chars = some (name, after)) : after.length < chars.length := by
  obtain ⟨notNil, whole⟩ := append_of_nameAhead? found
  have positive : 0 < name.length := List.length_pos_iff.mpr notNil
  rw [← whole, List.length_append]
  omega

/-- What a name in a type stands for. -/
def resolveName (resolve : String → String) (name : String) : String :=
  if builtins.contains (Text.lower name) then name else resolve name

/-- Replaces the names among the characters of a type. -/
def substitute (resolve : String → String) (chars : List Char) : List Char :=
  match chars with
  | [] => []
  | first :: rest =>
    match _found : nameAhead? (first :: rest) with
    | some (name, after) =>
      (resolveName resolve (String.ofList name)).toList ++ substitute resolve after
    | none => first :: substitute resolve rest
termination_by chars.length
decreasing_by
  · exact length_lt_of_nameAhead? _found
  · simp

/-- The text of a type with its names resolved; absent when there is no type. -/
def resolve? (aliases : Aliases) (space text : String) : Option String :=
  let text := Text.trim (Text.dropStart (Text.trim text) (· == ':'))
  if text.isEmpty then none
  else some (String.ofList (substitute (Name.resolve aliases space) text.toList))

end ClassAtlas.TypeText
