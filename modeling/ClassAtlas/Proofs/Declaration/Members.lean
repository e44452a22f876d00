import ClassAtlas.Index.Lookup
import ClassAtlas.Proofs.Declaration.Clauses

/-!
Members name the declaration that they are read in.

A declaration starts without members and keeps its name while its clauses and members are read, and each
member that is read is given this name.
-/

namespace ClassAtlas

/-- Whether all members of a declaration name it as their declaring class. -/
structure Declaration.OwnsMembers (declaration : Declaration) : Prop where
  constants : ∀ constant ∈ declaration.constants, constant.declaringClass = declaration.name
  properties : ∀ property ∈ declaration.properties, property.declaringClass = declaration.name
  methods : ∀ method ∈ declaration.methods, method.declaringClass = declaration.name

namespace DeclarationReader

variable {reader : DeclarationReader} {owner : Declaration}

theorem constants_own (previous : Option Node) (node : Node) :
    ∀ constant ∈ reader.constants owner previous node, constant.declaringClass = owner.name := by
  intro constant member
  obtain ⟨element, -, read⟩ := List.mem_filterMap.mp member
  rw [constant?] at read
  split at read
  · cases read
  · cases read
    rfl

theorem properties_own (previous : Option Node) (node : Node) :
    ∀ property ∈ reader.properties owner previous node, property.declaringClass = owner.name := by
  intro property member
  obtain ⟨element, -, rfl⟩ := List.mem_map.mp member
  rfl

theorem promoted_own (nodes : List Node) :
    ∀ property ∈ nodes.map (reader.promotedProperty owner), property.declaringClass = owner.name := by
  intro property member
  obtain ⟨node, -, rfl⟩ := List.mem_map.mp member
  rfl

/-- One more member is given the name of the declaration. -/
theorem addMember_owns (owns : owner.OwnsMembers) (placed : Option Node × Node) :
    (reader.addMember owner placed).OwnsMembers := by
  obtain ⟨previous, node⟩ := placed
  simp only [addMember]
  split
  · refine ⟨owns.constants, List.forall_mem_append.mpr ⟨owns.properties, ?_⟩,
      List.forall_mem_append.mpr ⟨owns.methods, by simp [method]⟩⟩
    split
    · exact promoted_own _
    · simp
  split
  · exact { owns with
      properties := List.forall_mem_append.mpr ⟨owns.properties, properties_own previous node⟩ }
  split
  · exact { owns with
      constants := List.forall_mem_append.mpr ⟨owns.constants, constants_own previous node⟩ }
  split
  · exact { owns with
      constants := List.forall_mem_append.mpr ⟨owns.constants, by simp [enumCase]⟩ }
  split
  · exact { owns with }
  · exact owns

theorem addClause_owns (owns : owner.OwnsMembers) (clause : Node) :
    (reader.addClause owner clause).OwnsMembers := by
  simp only [addClause]
  repeat' split
  all_goals exact { owns with }

theorem ReadsAt.ownsMembers {node : Node} {found : Declaration} (reads : reader.ReadsAt node found) :
    found.OwnsMembers := by
  obtain ⟨space, kind, previous, -, read⟩ := reads
  have begins : (reader.header space kind previous node).OwnsMembers := by
    constructor <;> simp [header]
  exact declaration?_keeps read begins (fun _ clause owns => addClause_owns owns clause)
    fun _ member owns => addMember_owns owns member

end DeclarationReader

/-- Every declaration of a file owns its members. -/
theorem FileTree.ownsMembers_of_declarations {tree : FileTree} {path : Path}
    {declarations : List Declaration} (read : tree.declarations path = .ok declarations) :
    ∀ declaration ∈ declarations, declaration.OwnsMembers := by
  intro declaration listed
  rw [FileTree.declarations] at read
  split at read
  · cases read
  split at read
  · cases read
  · cases read
    obtain ⟨node, -, reads⟩ := Source.exists_of_mem_declarations listed
    exact reads.ownsMembers

end ClassAtlas
