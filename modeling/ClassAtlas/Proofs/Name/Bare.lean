import ClassAtlas.Proofs.Name.Full

/-!
Resolution yields bare names.

However broken an import is, what it binds is a name without separators at its ends, under a local name
that is not empty: a clause is dropped when nothing is left of its name, or when the name breaks off after
a separator. So full names can be rooted with one separator, and they stand for themselves then.
-/

namespace ClassAtlas

namespace Name

/-- A name that is not empty, and neither starts nor ends with a separator. -/
structure IsBare (name : String) : Prop where
  nonempty : name ≠ ""
  full : IsFull name
  closed : name.toList.getLast? ≠ some '\\'

/-- Something is left of a bare name after its last separator. -/
theorem IsBare.afterLast_ne_empty {name : String} (bare : IsBare name) :
    Text.afterLast name '\\' ≠ "" := by
  intro empty
  have piece : Text.lastPiece '\\' name.toList = [] := by
    rw [← Text.toList_afterLast, empty, String.toList_empty]
  rw [Text.lastPiece, List.reverse_eq_nil_iff] at piece
  cases back : name.toList.reverse with
  | nil => exact bare.nonempty (String.toList_inj.mp (List.reverse_eq_nil_iff.mp back))
  | cons last rest =>
    have notSeparator : last ≠ '\\' := by
      rintro rfl
      apply bare.closed
      rw [← List.head?_reverse, back, List.head?_cons]
    rw [back, List.takeWhile_cons_of_pos (by simpa using notSeparator)] at piece
    cases piece

end Name

namespace Import

/-- A clause binds a local name that is not empty, if its name is bare. -/
theorem key_ne_empty {clause : ImportClause} (bare : Name.IsBare clause.name) : clause.key ≠ "" := by
  rw [ImportClause.key]
  split
  case isTrue => exact bare.afterLast_ne_empty
  case isFalse given => exact fun empty => given (String.isEmpty_iff.mpr empty)

/-- Whether the clauses read so far have bare names. -/
def Reading.Bare (reading : Reading) : Prop := ∀ clause ∈ reading.clauses, Name.IsBare clause.name

/-- Ending a clause adds a bare name, or nothing. -/
theorem Reading.Bare.finish {reading : Reading} (bare : reading.Bare) : reading.finish.Bare := by
  intro clause member
  simp only [Reading.finish] at member
  split at member
  case isTrue => exact bare clause member
  case isFalse kept =>
    rcases List.mem_cons.mp member with rfl | earlier
    · simp only [Bool.or_eq_true, String.isEmpty_iff, Text.endsWith_iff, not_or] at kept
      refine ⟨kept.1, Name.isFull_unrooted reading.current, fun last => kept.2 ?_⟩
      exact List.singleton_suffix_iff_getLast?_eq_some.mpr last
    · exact bare clause earlier

theorem Reading.bare_kept (file : List Token) : Reading.Kept file Reading.Bare where
  finish _ bare := bare.finish
  name _ _ bare _ _ := bare
  localName _ _ bare := bare
  kind _ _ bare := bare
  openGroup _ bare := bare
  closeGroup _ bare := bare

/-- Every name that an import statement binds is bare. -/
theorem statementAt_bare (file : List Token) (index : Nat) :
    ∀ clause ∈ (statementAt file index).clauses, Name.IsBare clause.name := by
  have start : ∀ statement, (Reading.start statement).Bare := fun _ _ impossible => by cases impossible
  obtain ⟨reading, bare, clauses⟩ := (Reading.bare_kept file).statementAt start index
  intro clause member
  rw [clauses, List.mem_reverse] at member
  exact bare clause member

end Import

/-- The aliases of a file stand for bare names, and none of them is empty. -/
theorem Aliases.ofUses_bare (tokens : List Token) (uses : List (Nat × UseKind)) :
    ∀ entry ∈ Aliases.ofUses tokens uses, entry.1 ≠ "" ∧ Name.IsBare entry.2 := by
  refine Aliases.forall_mem_ofUses (fun index clause member => ?_) uses
  have bare := Import.statementAt_bare tokens index clause member
  exact ⟨Import.key_ne_empty bare, bare⟩

/-- Names resolve to bare ones. Whatever the imports of a file look like, and whichever of its `use`
keywords are taken for imports, an alias is not empty and stands for a bare name. So no name resolves to
one with a leading separator, and what a name resolves to stands for itself once it is rooted. -/
theorem Context.resolve_bare (tokens : List Token) :
    (∀ uses, ∀ entry ∈ Aliases.ofUses tokens uses, entry.1 ≠ "" ∧ Name.IsBare entry.2) ∧
    ∀ name, Name.IsFull ((Context.ofTokens tokens).resolve name) ∧
      (Context.ofTokens tokens).resolve ("\\" ++ (Context.ofTokens tokens).resolve name) =
        (Context.ofTokens tokens).resolve name := by
  refine ⟨Aliases.ofUses_bare tokens, fun name => ?_⟩
  have full := Context.isFull_resolve_ofTokens tokens name
  exact ⟨full, Name.resolve_rooted _ _ full⟩

/-- An import of two names, of which the first breaks off after a separator. -/
def brokenImport : List Token := [
  ⟨.keyword .useWord, "use", 1⟩, ⟨.name, "\\A\\", 1⟩, ⟨.mark .comma, ",", 1⟩, ⟨.name, "\\B\\C", 1⟩,
  ⟨.mark .semicolon, ";", 1⟩]

theorem Context.resolve_bare_broken :
    (Context.ofTokens brokenImport).aliases = [("C", "B\\C")] ∧ Name.IsBare "B\\C" ∧
      (Context.ofTokens brokenImport).resolve "C" = "B\\C" ∧
      (Context.ofTokens brokenImport).resolve "\\B\\C" = "B\\C" := by
  obtain ⟨bare, resolved⟩ := resolve_bare brokenImport
  have aliases : (Context.ofTokens brokenImport).aliases = [("C", "B\\C")] := by decide +kernel
  have name : (Context.ofTokens brokenImport).resolve "C" = "B\\C" := by decide +kernel
  have member : ("C", "B\\C") ∈ (Context.ofTokens brokenImport).aliases := by simp [aliases]
  have bound := (bare (UseKind.list brokenImport) _ member).2
  have rooted := (resolved "C").2
  rw [name] at rooted
  exact ⟨aliases, bound, name, rooted⟩

end ClassAtlas
