import ClassAtlas.Proofs.Name.LastSegment

/-!
Names resolve to full names.

Imports and the namespace of a file carry no leading separator, so resolution never leaves one in
front. A full name written with a leading separator therefore stands for itself, and a name means a
target exactly when it resolves to it.
-/

namespace ClassAtlas

namespace Name

/-- The start of a full name is full. -/
theorem IsFull.of_isPrefix {name start : String} (full : IsFull name)
    (leads : start.toList <+: name.toList) : IsFull start := by
  obtain ⟨rest, equal⟩ := leads
  rw [IsFull, ← equal] at full
  rw [IsFull]
  cases chars : start.toList with
  | nil => simp
  | cons first more => simpa [chars] using full

theorem isFull_dropAround (name : String) : IsFull (Text.dropAround name isSeparator) := by
  refine (isFull_unrooted name).of_isPrefix ?_
  rw [Text.dropAround, ← List.reverse_suffix, Text.toList_dropEnd, List.reverse_reverse]
  exact List.dropWhile_suffix _

theorem isFull_declaredNamespace (tokens : List Token) : IsFull (Token.declaredNamespace tokens) := by
  rw [Token.declaredNamespace]
  split
  · simp [IsFull]
  · exact isFull_dropAround _

theorem isFull_of_not_startsWith {name : String} (unrooted : ¬ Text.startsWith name "\\" = true) :
    IsFull name := by
  intro leading
  apply unrooted
  cases chars : name.toList with
  | nil => simp [chars] at leading
  | cons first rest =>
    rw [chars, List.head?_cons, Option.some.injEq] at leading
    simp [Text.startsWith, chars, leading]

/-- Resolution leaves no leading separator where imports and the namespace have none. -/
theorem isFull_resolve {aliases : Aliases} {space : String}
    (imports : aliases.AllFull fun fullName => IsFull fullName ∧ fullName ≠ "")
    (spaceFull : IsFull space) (name : String) : IsFull (resolve aliases space name) := by
  rw [resolve]
  split
  · exact isFull_unrooted name
  case isFalse unrooted =>
    have inNamespace : IsFull (inside space name) := by
      rw [inside]
      split
      · exact isFull_of_not_startsWith unrooted
      case isFalse notEmpty =>
        rw [String.append_assoc]
        exact spaceFull.append (by simpa [String.isEmpty_iff] using notEmpty) _
    split
    case h_1 fullName found => exact (imports.lookup found).1
    case h_2 =>
      split
      case h_2 => exact inNamespace
      case h_1 head rest _ =>
        split
        case h_2 => exact inNamespace
        case h_1 fullName found =>
          obtain ⟨full, notEmpty⟩ := imports.lookup found
          rw [String.append_assoc]
          exact full.append notEmpty _

/-- A full name with a leading separator stands for itself. -/
theorem resolve_rooted (aliases : Aliases) (space : String) {fullName : String}
    (full : IsFull fullName) : resolve aliases space ("\\" ++ fullName) = fullName := by
  have rooted : Text.startsWith ("\\" ++ fullName) "\\" = true := by simp [Text.startsWith]
  have dropped : unrooted ("\\" ++ fullName) = unrooted fullName := by
    rw [← String.toList_inj, unrooted, unrooted, Text.toList_dropStart, Text.toList_dropStart,
      String.toList_append]
    rfl
  rw [resolve, if_pos rooted, dropped, full.unrooted_eq]

end Name

theorem Context.isFull_resolve_ofTokens (tokens : List Token) (name : String) :
    Name.IsFull ((Context.ofTokens tokens).resolve name) := by
  refine Name.isFull_resolve (Aliases.AllFull.ofUses (fun index clause member => ?_) _)
    (Name.isFull_declaredNamespace tokens) name
  exact (Import.statementAt_spelled tokens index clause member).2

end ClassAtlas
