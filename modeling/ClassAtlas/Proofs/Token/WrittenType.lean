import ClassAtlas.Proofs.Token.Depth

/-!
Types and parentheses as they are written.

A type that is followed by trivia and by a token that no type can hold is read as it is written. Tokens
with balanced parentheses are passed as a whole by the search for a closing parenthesis.
-/

namespace ClassAtlas.Token

/-- Whether a token is a sign that has no kind of its own. -/
def IsSign (token : Token) (text : String) : Prop := token.kind = .other ∧ token.text = text

/-- Whether a token is a mark in its spelling. -/
def IsSpelled (token : Token) (mark : Mark) : Prop :=
  token.kind = .mark mark ∧ token.text = mark.spelling

theorem IsSpelled.isMark {token : Token} {mark : Mark} (spelled : token.IsSpelled mark) :
    token.isMark mark = true := by
  simp [Token.isMark, spelled.1]

section Signs

/-- Tokens that hold one sign or none, and otherwise trivia. -/
def HoldsAtMost (text : String) (tokens : List Token) : Prop :=
  significant tokens = [] ∨ ∃ sign : Token, sign.IsSign text ∧ significant tokens = [sign]

variable {text : String} {tokens : List Token}

theorem HoldsAtMost.trivia_or_sign (holds : HoldsAtMost text tokens) :
    ∀ token ∈ tokens, token.isTrivia = true ∨ token.IsSign text := by
  intro token member
  by_cases isTrivia : token.isTrivia = true
  · exact .inl isTrivia
  · have isSignificant : token ∈ significant tokens := by simp [significant, member, isTrivia]
    rcases holds with none | ⟨sign, isSign, one⟩
    · rw [none] at isSignificant
      cases isSignificant
    · rw [one, List.mem_singleton] at isSignificant
      exact .inr (isSignificant ▸ isSign)

theorem isFlat_of_isSign {token : Token} (isSign : token.IsSign text) : token.IsFlat := by
  constructor <;> simp [isMark, isSign.1]

/-- A sign that may be absent is passed, with the trivia around it. -/
theorem HoldsAtMost.passIf_eq (holds : HoldsAtMost text tokens) {next : Token}
    {rest after : List Token} (ahead : skipTrivia rest = next :: after) (other : next.text ≠ text) :
    passIf (·.text == text) (skipTrivia (tokens ++ rest)) = next :: after := by
  rcases holds with none | ⟨sign, isSign, one⟩
  · rw [skipTrivia_append_trivia (isTrivia_of_significant_nil none), ahead, passIf,
      if_neg (by simpa using other)]
  · obtain ⟨isSignificant, blank, more, rfl, isBlank, none⟩ := exists_of_significant_cons one
    rw [List.append_assoc, List.cons_append, skipTrivia_append_blank isBlank isSignificant, passIf,
      if_pos (by simp [isSign.2]), skipTrivia_append_trivia (isTrivia_of_significant_nil none), ahead]

theorem HoldsAtMost.append (holds : HoldsAtMost text tokens) {blank : List Token}
    (isBlank : ∀ token ∈ blank, token.isTrivia = true) : HoldsAtMost text (blank ++ tokens) := by
  have none : significant blank = [] := by simpa [significant] using isBlank
  rwa [HoldsAtMost, significant_append, none, List.nil_append]

end Signs

section Types

/-- Tokens that are read as a type: they start with a name or a question mark, hold what a type can
hold, and do not end in trivia. -/
structure IsTypeText (tokens : List Token) : Prop where
  starts : ∃ first rest, tokens = first :: rest ∧ first.startsType = true
  typed : ∀ token ∈ tokens, token.isTyped = true
  ends : ∃ front last, tokens = front ++ [last] ∧ last.isTrivia = false

/-- Whether no type goes on with the tokens. -/
def EndsType (tokens : List Token) : Prop := ∀ token ∈ tokens.head?, token.isTyped = false

theorem endsType_cons {token : Token} (untyped : token.isTyped = false) (rest : List Token) :
    EndsType (token :: rest) := by
  intro first isFirst
  cases isFirst
  exact untyped

theorem isTyped_of_isVariable {token : Token} (isVariable : token.kind = .variableName) :
    token.isTyped = false := by
  simp [isTyped, isNamePart, TokenKind.isNamePart, isTypePunctuation, isTrivia, TokenKind.isTrivia,
    isVariable]

theorem isTrivia_of_isVariable {token : Token} (isVariable : token.kind = .variableName) :
    token.isTrivia = false := by
  rw [isTrivia, isVariable]
  rfl

/-- Before a token that no type can hold, the first significant token is one that ends the type. -/
theorem endsType_skipTrivia {front : List Token} {last : Token}
    (stops : ∀ token ∈ front, token.isTrivia = true ∨ token.isTyped = false)
    (untyped : last.isTyped = false) (rest : List Token) :
    EndsType (skipTrivia (front ++ last :: rest)) := by
  have significant : ∀ {token : Token}, token.isTyped = false → token.isTrivia = false := by
    intro token untyped
    simp only [isTyped, Bool.or_eq_false_iff] at untyped
    exact untyped.2
  induction front with
  | nil =>
    rw [List.nil_append, skipTrivia_cons (significant untyped)]
    exact endsType_cons untyped rest
  | cons token front inductionHypothesis =>
    rw [List.forall_mem_cons] at stops
    by_cases isTrivia : token.isTrivia = true
    · rw [skipTrivia, List.cons_append, List.dropWhile_cons_of_pos isTrivia]
      exact inductionHypothesis stops.2
    · have ends := stops.1.resolve_left isTrivia
      rw [List.cons_append, skipTrivia_cons (significant ends)]
      exact endsType_cons ends _

theorem takeWhile_append_of_endsType {tokens : List Token} (ends : EndsType tokens)
    (front : List Token) :
    (front ++ tokens).takeWhile isTyped = front.takeWhile isTyped := by
  have none : tokens.takeWhile isTyped = [] := by
    cases tokens with
    | nil => rfl
    | cons token rest => rw [List.takeWhile_cons_of_neg (by simp [ends token rfl])]
  rw [List.takeWhile_append, none, List.append_nil]
  split
  case isTrue whole => exact ((List.takeWhile_prefix _).eq_of_length whole).symm
  case isFalse => rfl

/-- What no type can hold does not change the type before it. -/
theorem typeAhead_append {tokens : List Token} (ends : EndsType tokens) (front : List Token) :
    typeAhead (front ++ tokens) = typeAhead front := by
  have same := takeWhile_append_of_endsType ends front
  show (((front ++ tokens).takeWhile isTyped).reverse.dropWhile isTrivia).reverse = _
  rw [same]
  rfl

/-- A type is read as it is written, up to the trivia after it. -/
theorem IsTypeText.typeAhead_eq {type tokens : List Token} (text : IsTypeText type)
    (ends : EndsType (skipTrivia tokens)) : typeAhead (type ++ tokens) = type := by
  obtain ⟨front, last, shape, significant⟩ := text.ends
  have split : tokens = tokens.takeWhile isTrivia ++ skipTrivia tokens :=
    List.takeWhile_append_dropWhile.symm
  have isBlank : ∀ token ∈ tokens.takeWhile isTrivia, token.isTrivia = true :=
    List.all_eq_true.mp List.all_takeWhile
  revert isBlank
  rw [split, ← List.append_assoc, typeAhead_append ends, ← split]
  generalize tokens.takeWhile isTrivia = blank
  intro isBlank
  have whole : (type ++ blank).takeWhile isTyped = type ++ blank := by
    rw [List.takeWhile_append_of_pos text.typed, ← List.append_nil blank,
      List.takeWhile_append_of_pos fun token inside => isTyped_of_isTrivia (isBlank token inside)]
    rfl
  show (((type ++ blank).takeWhile isTyped).reverse.dropWhile isTrivia).reverse = type
  rw [whole, List.reverse_append, List.dropWhile_append_of_pos (by simpa using isBlank), shape,
    List.reverse_append, List.reverse_singleton, List.singleton_append,
    List.dropWhile_cons_of_neg (by simp [significant])]
  simp

/-- A sign after a type, with trivia in between, is read as a part of it. -/
theorem IsTypeText.append_sign {type blank : List Token} (text : IsTypeText type)
    (isBlank : ∀ token ∈ blank, token.isTrivia = true) {sign : Token}
    (isSign : sign.isTypePunctuation = true) : IsTypeText (type ++ (blank ++ [sign])) where
  starts := by
    obtain ⟨first, rest, rfl, starts⟩ := text.starts
    exact ⟨first, _, rfl, starts⟩
  typed := by
    refine List.forall_mem_append.mpr ⟨text.typed, List.forall_mem_append.mpr ⟨?_, ?_⟩⟩
    · exact fun token inside => isTyped_of_isTrivia (isBlank token inside)
    · rw [List.forall_mem_singleton]
      simp [isTyped, isSign]
  ends := by
    refine ⟨type ++ blank, sign, by simp, ?_⟩
    simp only [isTypePunctuation, Bool.and_eq_true, beq_iff_eq] at isSign
    rw [isTrivia, isSign.1]
    rfl

end Types

section Parentheses

/-- Tokens with balanced parentheses. -/
inductive ParenBalanced : List Token → Prop where
  | nil : ParenBalanced []
  | flat {token : Token} {rest : List Token} (isFlat : token.IsFlat) (more : ParenBalanced rest) :
      ParenBalanced (token :: rest)
  | paren {opens closes : Token} {inside rest : List Token} (isOpen : opens.isMark .openParen = true)
      (within : ParenBalanced inside) (isClose : closes.isMark .closeParen = true)
      (more : ParenBalanced rest) : ParenBalanced (opens :: (inside ++ closes :: rest))

theorem parenBalanced_of_flat {tokens : List Token} (flat : ∀ token ∈ tokens, token.IsFlat) :
    ParenBalanced tokens := by
  induction tokens with
  | nil => exact .nil
  | cons token rest inductionHypothesis =>
    rw [List.forall_mem_cons] at flat
    exact .flat flat.1 (inductionHypothesis flat.2)

theorem ParenBalanced.append {front back : List Token} (first : ParenBalanced front)
    (second : ParenBalanced back) : ParenBalanced (front ++ back) := by
  induction first with
  | nil => exact second
  | flat isFlat _ inductionHypothesis => exact .flat isFlat inductionHypothesis
  | paren isOpen within isClose _ _ inductionHypothesis =>
    rw [List.cons_append, List.append_assoc]
    exact .paren isOpen within isClose inductionHypothesis

/-- The search for a closing parenthesis passes balanced tokens. -/
theorem ParenBalanced.closeParen?_append {tokens : List Token} (balanced : ParenBalanced tokens)
    (depth : Nat) (rest : List Token) :
    closeParen? depth (tokens ++ rest) =
      (closeParen? depth rest).map fun (inside, after) => (tokens ++ inside, after) := by
  induction balanced generalizing depth rest with
  | nil => simp
  | flat isFlat _ inductionHypothesis =>
    rw [List.cons_append, closeParen?.eq_def]
    simp only [isFlat.1, isFlat.2, Bool.false_eq_true, if_false, inductionHypothesis, Option.map_map]
    rfl
  | @paren opens closes inside more isOpen _ isClose _ inside_eq more_eq =>
    have notClose : opens.isMark .closeParen = false := isMark_of_ne isOpen (by decide)
    rw [List.cons_append, List.append_assoc, closeParen?.eq_def]
    simp only [notClose, isOpen, Bool.false_eq_true, if_false, if_true, inside_eq, List.cons_append]
    rw [closeParen?.eq_def]
    simp only [isClose, if_true, more_eq, Option.map_map]
    congr 1
    funext ⟨inner, after⟩
    simp

/-- A parenthesis with balanced tokens inside holds just these. -/
theorem ParenBalanced.insideParen_eq {inside : List Token} (balanced : ParenBalanced inside)
    {closes : Token} (isClose : closes.isMark .closeParen = true) (rest : List Token) :
    insideParen (inside ++ closes :: rest) = inside := by
  have found : closeParen? 0 (inside ++ closes :: rest) = some (inside, rest) := by
    rw [balanced.closeParen?_append, closeParen?, if_pos isClose]
    simp
  exact Token.insideParen_eq found

end Parentheses

end ClassAtlas.Token
