import ClassAtlas.Proofs.Token.Place
import ClassAtlas.Proofs.Import.Reading

/-!
What a `use` keyword means, by its place.

The meanings of the `use` keywords of a file are listed by position. Each is a matter of the tokens
before and after the keyword, and looking up the position of a place gives the meaning there.
-/

namespace ClassAtlas

namespace UseKind

/-- The blocks open after tokens that are given latest first. -/
def Scopes.ofBefore : List Token → Scopes
  | [] => .none
  | token :: before => (Scopes.ofBefore before).after token before

/-- The meaning of a `use` keyword at a place. -/
def ofPlace (place : Place) : UseKind :=
  classify (.ofBefore place.before) place.before place.after

/-- The places of the `use` keywords of a file, in order. -/
def places (tokens : List Token) : List Place :=
  (Place.list tokens).filter (·.token.isKeyword .useWord)

theorem listFrom_eq (before tokens : List Token) :
    listFrom before.length (.ofBefore before) before tokens =
      ((Place.listFrom before tokens).filter (·.token.isKeyword .useWord)).map
        fun place => (place.index, ofPlace place) := by
  induction tokens generalizing before with
  | nil => rfl
  | cons token after inductionHypothesis =>
    have later := inductionHypothesis (token :: before)
    rw [List.length_cons, Scopes.ofBefore] at later
    rw [listFrom, Place.listFrom, List.filter_cons, later]
    split
    · rfl
    · rfl

/-- The meanings of the `use` keywords are those at their places. -/
theorem list_eq (tokens : List Token) :
    list tokens = (places tokens).map fun place => (place.index, ofPlace place) :=
  listFrom_eq [] tokens

end UseKind

/-- A position that one place alone has is looked up to its meaning. -/
theorem UseKind.lookup_of_mem {places : List Place} {place : Place}
    (unique : ∀ other ∈ places, other.index = place.index → other = place)
    (listed : place ∈ places) :
    List.lookup place.index (places.map fun place => (place.index, ofPlace place)) =
      some (ofPlace place) := by
  induction places with
  | nil => cases listed
  | cons first rest inductionHypothesis =>
    rw [List.map_cons, List.lookup_cons]
    by_cases same : first.index = place.index
    · simp [unique first List.mem_cons_self same]
    · rcases List.mem_cons.mp listed with rfl | later
      · exact absurd rfl same
      · have other : (place.index == first.index) = false := by simpa using Ne.symm same
        rw [other]
        exact inductionHypothesis
          (fun other member => unique other (List.mem_cons_of_mem first member)) later

/-- The meaning that is looked up for a place is the meaning there. -/
theorem Context.useKind?_ofTokens {tokens : List Token} {place : Place}
    (member : place ∈ Place.list tokens) :
    (Context.ofTokens tokens).useKind? place.index =
      if place.token.isKeyword .useWord then some (UseKind.ofPlace place) else none := by
  have entries : (Context.ofTokens tokens).useKind? place.index =
      List.lookup place.index
        ((UseKind.places tokens).map fun place => (place.index, UseKind.ofPlace place)) := by
    rw [← UseKind.list_eq]
    rfl
  have unique : ∀ other ∈ UseKind.places tokens, other.index = place.index → other = place :=
    fun other listed => Place.eq_of_index_eq (List.mem_filter.mp listed).1 member
  rw [entries]
  split
  case isTrue isUse =>
    exact UseKind.lookup_of_mem unique (List.mem_filter.mpr ⟨member, isUse⟩)
  case isFalse notUse =>
    rw [List.lookup_eq_none_iff]
    intro entry listed
    obtain ⟨other, use, rfl⟩ := List.mem_map.mp listed
    refine bne_iff_ne.mpr fun same => notUse ?_
    rw [← unique other use same.symm]
    exact (List.mem_filter.mp use).2

end ClassAtlas
