import ClassAtlas.Proofs.Token.Coverage
import ClassAtlas.Proofs.Token.Joining
import ClassAtlas.Proofs.Usage.Correspondence

/-!
A name is one token.

Leaves that spell one name are merged while the token stream is built, so reading a name takes one token,
whether it is read forward from its start or backward from its end. Every token covers a byte of the
source at least, and bytes are never decoded to nothing, so no token is empty.
-/

namespace ClassAtlas

namespace Token

/-- Whether no token is empty. -/
def Filled (tokens : List Token) : Prop := ∀ token ∈ tokens, token.text ≠ ""

section Filled

variable {source : Source} {stream : List Token} {progress : Progress} {leaf : Node.Leaf}

theorem Filled.cons {token : Token} (filled : Filled stream) (text : token.text ≠ "") :
    Filled (token :: stream) := List.forall_mem_cons.mpr ⟨text, filled⟩

theorem Filled.push (filled : Filled stream) {token : Token} (text : token.text ≠ "")
    (adjacent : Bool) : Filled (push stream token adjacent) := by
  cases stream with
  | nil => exact filled.cons text
  | cons latest earlier =>
    simp only [Token.push]
    split
    · split
      case h_1 merged merges =>
        have others : Filled earlier := fun other member => filled other (List.mem_cons_of_mem _ member)
        refine others.cons fun empty => text ?_
        rw [text_of_merge? merges, String.append_eq_empty_iff] at empty
        exact empty.2
      case h_2 => exact filled.cons text
    · exact filled.cons text

/-- A leaf that lies within the source adds no empty token, nor does the gap before it. -/
theorem Filled.advance (filled : Filled progress.stream) (covers : leaf.label.start < leaf.label.stop)
    (within : leaf.label.stop ≤ source.bytes.length) :
    Filled (progress.advance source leaf).stream := by
  simp only [Progress.advance]
  split
  case isTrue => exact filled
  case isFalse ahead =>
    refine Filled.push ?_ (Source.text_ne_empty covers within) _
    split
    case isTrue => exact filled
    case isFalse apart =>
      have gap : progress.cursor < leaf.label.start := by
        rw [beq_iff_eq] at apart
        omega
      exact filled.cons (Source.text_ne_empty gap (by omega))

theorem Filled.foldl_advance {leaves : List Node.Leaf} (filled : Filled progress.stream)
    (covers : ∀ leaf ∈ leaves, leaf.label.start < leaf.label.stop)
    (within : ∀ leaf ∈ leaves, leaf.label.stop ≤ source.bytes.length) :
    Filled (leaves.foldl (Progress.advance source) progress).stream := by
  induction leaves generalizing progress with
  | nil => exact filled
  | cons leaf rest inductionHypothesis =>
    rw [List.forall_mem_cons] at covers within
    exact inductionHypothesis (filled.advance covers.1 within.1) covers.2 within.2

theorem Filled.finish (filled : Filled progress.stream) : Filled (progress.finish source) := by
  rw [Progress.finish]
  split
  case isTrue left => exact filled.cons (Source.text_ne_empty left (Nat.le_refl _))
  case isFalse => exact filled

theorem filled_tokens (within : ∀ leaf ∈ source.root.leaves, leaf.label.stop ≤ source.bytes.length) :
    Filled source.tokens := by
  have covers := Node.start_lt_stop_of_mem_leavesUnder none source.root
  have start : Filled Progress.start.stream := fun _ impossible => by cases impossible
  intro token member
  exact (start.foldl_advance covers within).finish token (List.mem_reverse.mp member)

end Filled

section Sparse

variable {tokens : List Token}

theorem Sparse.apart (sparse : Sparse tokens) {index : Nat} {first second : Token}
    (isFirst : tokens[index]? = some first) (isSecond : tokens[index + 1]? = some second) :
    ¬ (first.isNamePart = true ∧ second.isNamePart = true) := by
  obtain ⟨inside, rfl⟩ := List.getElem?_eq_some_iff.mp isFirst
  obtain ⟨nextInside, rfl⟩ := List.getElem?_eq_some_iff.mp isSecond
  have ahead : Sparse (tokens[index] :: tokens[index + 1] :: tokens.drop (index + 2)) := by
    rw [← List.drop_eq_getElem_cons nextInside, ← List.drop_eq_getElem_cons inside]
    exact sparse.of_isInfix (List.drop_suffix index tokens).isInfix
  exact (List.isChain_cons_cons.mp ahead).1

/-- The name from a part of a name on is this token. -/
theorem Sparse.nameFrom_eq (sparse : Sparse tokens) {index : Nat} {token : Token}
    (isToken : tokens[index]? = some token) (isPart : token.isNamePart = true) :
    nameFrom tokens index = (token.text, index + 1) := by
  obtain ⟨inside, rfl⟩ := List.getElem?_eq_some_iff.mp isToken
  have ahead : Sparse (tokens[index] :: tokens.drop (index + 1)) := by
    rw [← List.drop_eq_getElem_cons inside]
    exact sparse.of_isInfix (List.drop_suffix index tokens).isInfix
  simp only [nameFrom]
  rw [List.drop_eq_getElem_cons inside, ahead.nameAhead_cons, if_pos isPart,
    List.takeWhile_cons_of_pos isPart, ahead.takeWhile_isNamePart isPart, List.length_singleton]

/-- The parts of a name at the front are at most one. -/
theorem Sparse.takeWhile_eq (sparse : Sparse tokens) :
    tokens.takeWhile isNamePart = (tokens.take 1).filter isNamePart := by
  cases tokens with
  | nil => rfl
  | cons token rest =>
    by_cases isPart : token.isNamePart = true
    · rw [List.takeWhile_cons_of_pos isPart, sparse.takeWhile_isNamePart isPart]
      simp [isPart]
    · rw [List.takeWhile_cons_of_neg isPart]
      simp [isPart]

end Sparse

end Token

namespace Place

open Token

variable {tokens : List Token} {place : Place}

/-- The target as the one token before a double colon. -/
def staticSightingsOfToken (view : View) (place : Place) : List Sighting :=
  match skipTrivia place.before with
  | [] => []
  | last :: earlier =>
    if last.isNamePart && view.resolvesToTarget last.text then
      let (method, rest) := memberAhead place.after
      [⟨.staticCall, earlier.length, place.indexOf rest, place.index, method⟩]
    else []

theorem sparse_skipTrivia_before (sparse : Sparse tokens) (member : place ∈ list tokens) :
    Sparse (skipTrivia place.before) :=
  (before_sparse sparse member).of_isInfix (skipTrivia_suffix _).isInfix

/-- The name before a double colon is one token. -/
theorem staticSightings_eq (sparse : Sparse tokens) (member : place ∈ list tokens) (view : View) :
    staticSightings view place = staticSightingsOfToken view place := by
  have back := sparse_skipTrivia_before sparse member
  rw [staticSightings, staticSightingsOfToken, back.takeWhile_eq]
  cases skipTrivia place.before with
  | nil => rfl
  | cons last earlier => by_cases isPart : last.isNamePart = true <;> simp [isPart]

end Place

namespace Source

open Token

/-- Whether tokens are in merged form: none is empty, and a name is one of them. -/
structure Merged (tokens : List Token) : Prop where
  filled : ∀ token ∈ tokens, token.text ≠ ""
  apart : ∀ index first second, tokens[index]? = some first → tokens[index + 1]? = some second →
    ¬ (first.isNamePart = true ∧ second.isNamePart = true)
  /-- The name that is collected from a part of a name on is this token. -/
  collected : ∀ index token, tokens[index]? = some token → token.isNamePart = true →
    nameFrom tokens index = (token.text, index + 1)
  /-- The walk back over the name before a place passes one token at most. -/
  walked : ∀ place ∈ Place.list tokens,
    (skipTrivia place.before).takeWhile isNamePart =
      ((skipTrivia place.before).take 1).filter isNamePart
  /-- What is found at a double colon is found by a look at one token. -/
  sighted : ∀ view, ∀ place ∈ Place.list tokens,
    Place.staticSightings view place = Place.staticSightingsOfToken view place

/-- The tokens of a source are in merged form, if the leaves of its tree lie within it. -/
theorem merged_tokens (source : Source)
    (within : ∀ leaf ∈ source.root.leaves, leaf.label.stop ≤ source.bytes.length) :
    Merged source.tokens where
  filled := filled_tokens within
  apart _ _ _ := (sparse_tokens source).apart
  collected _ _ := (sparse_tokens source).nameFrom_eq
  walked _ member := (Place.sparse_skipTrivia_before (sparse_tokens source) member).takeWhile_eq
  sighted view _ member := Place.staticSightings_eq (sparse_tokens source) member view

/-- A call on a qualified name, with a gap after the name and a leaf that overlaps those of the name. -/
def qualifiedCall : Source where
  bytes := Utf8.encode "A\\B ::c"
  root :=
    let leaf (kind : String) (start stop : Nat) : Node := .mk ⟨kind, true, "", start, stop⟩ []
    .mk ⟨"program", true, "", 0, 7⟩
      [leaf "name" 0 1, leaf "\\" 1 2, leaf "name" 2 3, leaf "name" 1 3, leaf "::" 4 6, leaf "name" 6 7]

theorem merged_tokens_qualified :
    (∀ leaf ∈ qualifiedCall.root.leaves, leaf.label.stop ≤ qualifiedCall.bytes.length) ∧
      qualifiedCall.tokens.map (·.text) = ["A\\B", " ", "::", "c"] ∧
      nameFrom qualifiedCall.tokens 0 = ("A\\B", 1) ∧ Merged qualifiedCall.tokens := by
  have within : ∀ leaf ∈ qualifiedCall.root.leaves,
      leaf.label.stop ≤ qualifiedCall.bytes.length := by decide
  have texts : qualifiedCall.tokens.map (·.text) = ["A\\B", " ", "::", "c"] := by decide +kernel
  have first : qualifiedCall.tokens[0]? = some ⟨.name, "A\\B", 1⟩ := by decide +kernel
  have merged := merged_tokens qualifiedCall within
  exact ⟨within, texts, merged.collected 0 _ first rfl, merged⟩

end Source

end ClassAtlas
