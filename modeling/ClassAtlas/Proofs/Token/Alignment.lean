import Mathlib.Data.List.Chain
import ClassAtlas.Proofs.Token.Walk

/-!
Walks over two token lists in step.

Two lists are aligned when their significant tokens are related one by one, whatever trivia stands
between them. Every walk of the detectors over one list then goes in step with the same walk over the
other, provided that related tokens have one kind and agree on the signs that walks look at.
-/

namespace ClassAtlas

namespace Token

section Kinds

variable {token : Token}

theorem kind_of_isTrivia (isTrivia : token.isTrivia = true) :
    token.kind = .whitespace ∨ token.kind = .comment := by
  simpa [Token.isTrivia, TokenKind.isTrivia] using isTrivia

theorem isMark_of_isTrivia (isTrivia : token.isTrivia = true) (mark : Mark) :
    token.isMark mark = false := by
  rcases kind_of_isTrivia isTrivia with kind | kind <;> simp [isMark, kind]

theorem isKeyword_of_isTrivia (isTrivia : token.isTrivia = true) (word : Keyword) :
    token.isKeyword word = false := by
  rcases kind_of_isTrivia isTrivia with kind | kind <;> simp [isKeyword, kind]

theorem isNamePart_of_isTrivia (isTrivia : token.isTrivia = true) : token.isNamePart = false := by
  rcases kind_of_isTrivia isTrivia with kind | kind <;>
    simp [isNamePart, TokenKind.isNamePart, kind]

theorem startsType_of_isTrivia (isTrivia : token.isTrivia = true) : token.startsType = false := by
  rcases kind_of_isTrivia isTrivia with kind | kind <;>
    simp [startsType, isNamePart, TokenKind.isNamePart, kind]

end Kinds

section Options

variable {α β γ δ : Type} {related : α → β → Prop} {found : Option α} {other : Option β}

theorem rel_map {mapped : γ → δ → Prop} {change : α → γ} {twinChange : β → δ}
    (keeps : ∀ {item twin}, related item twin → mapped (change item) (twinChange twin))
    (rel : Option.Rel related found other) :
    Option.Rel mapped (found.map change) (other.map twinChange) := by
  cases rel with
  | none => exact .none
  | some holds => exact .some (keeps holds)

theorem rel_map_left {mapped : γ → β → Prop} {change : α → γ}
    (keeps : ∀ {item twin}, related item twin → mapped (change item) twin)
    (rel : Option.Rel related found other) : Option.Rel mapped (found.map change) other := by
  cases rel with
  | none => exact .none
  | some holds => exact .some (keeps holds)

theorem rel_map_right {mapped : α → δ → Prop} {twinChange : β → δ}
    (keeps : ∀ {item twin}, related item twin → mapped item (twinChange twin))
    (rel : Option.Rel related found other) : Option.Rel mapped found (other.map twinChange) := by
  cases rel with
  | none => exact .none
  | some holds => exact .some (keeps holds)

theorem rel_bind {mapped : γ → δ → Prop} {next : α → Option γ} {twinNext : β → Option δ}
    (rel : Option.Rel related found other)
    (keeps : ∀ item twin, related item twin → Option.Rel mapped (next item) (twinNext twin)) :
    Option.Rel mapped (found.bind next) (other.bind twinNext) := by
  cases rel with
  | none => exact .none
  | some holds => exact keeps _ _ holds

end Options

/-- The texts that walks tell apart from others. -/
def signs : List String := ["&", "...", "?", "|"]

/-- A relation of tokens that keeps the kind and tells the same signs apart. -/
structure Faithful (same : Token → Token → Prop) : Prop where
  kind : ∀ {token twin}, same token twin → token.kind = twin.kind
  sign : ∀ {token twin}, same token twin → ∀ sign ∈ signs, (token.text == sign) = (twin.text == sign)

/-- Two token lists whose significant tokens are related one by one. -/
inductive Aligned (same : Token → Token → Prop) : List Token → List Token → Prop where
  | nil : Aligned same [] []
  | left {token : Token} {rest twins : List Token} (isTrivia : token.isTrivia = true)
      (aligned : Aligned same rest twins) : Aligned same (token :: rest) twins
  | right {twin : Token} {tokens others : List Token} (isTrivia : twin.isTrivia = true)
      (aligned : Aligned same tokens others) : Aligned same tokens (twin :: others)
  | both {token twin : Token} {rest others : List Token} (related : same token twin)
      (significant : token.isTrivia = false) (aligned : Aligned same rest others) :
      Aligned same (token :: rest) (twin :: others)

/-- Two aligned lists that end or go on with a significant token. -/
inductive Met (same : Token → Token → Prop) : List Token → List Token → Prop where
  | nil : Met same [] []
  | cons {token twin : Token} {rest others : List Token} (related : same token twin)
      (significant : token.isTrivia = false) (aligned : Aligned same rest others) :
      Met same (token :: rest) (twin :: others)

variable {same : Token → Token → Prop} {tokens twins : List Token}

theorem Met.aligned (met : Met same tokens twins) : Aligned same tokens twins := by
  cases met with
  | nil => exact .nil
  | cons related significant aligned => exact .both related significant aligned

theorem Met.eq_nil (met : Met same [] twins) : twins = [] := by
  cases met
  rfl

theorem Met.exists_cons {token : Token} {rest : List Token} (met : Met same (token :: rest) twins) :
    ∃ twin others, twins = twin :: others ∧ same token twin ∧ token.isTrivia = false ∧
      Aligned same rest others := by
  cases met with
  | cons related significant aligned => exact ⟨_, _, rfl, related, significant, aligned⟩

namespace Faithful

variable {token twin : Token}

theorem isTrivia (faithful : Faithful same) (related : same token twin) :
    token.isTrivia = twin.isTrivia := by
  rw [Token.isTrivia, Token.isTrivia, faithful.kind related]

theorem isMark (faithful : Faithful same) (related : same token twin) (mark : Mark) :
    token.isMark mark = twin.isMark mark := by
  rw [Token.isMark, Token.isMark, faithful.kind related]

theorem isKeyword (faithful : Faithful same) (related : same token twin) (word : Keyword) :
    token.isKeyword word = twin.isKeyword word := by
  rw [Token.isKeyword, Token.isKeyword, faithful.kind related]

theorem isNamePart (faithful : Faithful same) (related : same token twin) :
    token.isNamePart = twin.isNamePart := by
  rw [Token.isNamePart, Token.isNamePart, faithful.kind related]

theorem startsType (faithful : Faithful same) (related : same token twin) :
    token.startsType = twin.startsType := by
  rw [Token.startsType, Token.startsType, faithful.isNamePart related, faithful.kind related,
    faithful.sign related "?" (by simp [signs])]

theorem isTypePunctuation (faithful : Faithful same) (related : same token twin) :
    token.isTypePunctuation = twin.isTypePunctuation := by
  rw [Token.isTypePunctuation, Token.isTypePunctuation, faithful.kind related,
    faithful.sign related "?" (by simp [signs]), faithful.sign related "|" (by simp [signs]),
    faithful.sign related "&" (by simp [signs])]

end Faithful

namespace Aligned

theorem append (aligned : Aligned same tokens twins) {more others : List Token}
    (further : Aligned same more others) : Aligned same (tokens ++ more) (twins ++ others) := by
  induction aligned with
  | nil => exact further
  | left isTrivia _ inductionHypothesis => exact .left isTrivia inductionHypothesis
  | right isTrivia _ inductionHypothesis => exact .right isTrivia inductionHypothesis
  | both related significant _ inductionHypothesis =>
    exact .both related significant inductionHypothesis

theorem reverse (aligned : Aligned same tokens twins) :
    Aligned same tokens.reverse twins.reverse := by
  induction aligned with
  | nil => exact .nil
  | left isTrivia _ inductionHypothesis =>
    have extended := inductionHypothesis.append (.left isTrivia .nil)
    rwa [List.append_nil, ← List.reverse_cons] at extended
  | right isTrivia _ inductionHypothesis =>
    have extended := inductionHypothesis.append (.right isTrivia .nil)
    rwa [List.append_nil, ← List.reverse_cons] at extended
  | both related significant _ inductionHypothesis =>
    rw [List.reverse_cons, List.reverse_cons]
    exact inductionHypothesis.append (.both related significant .nil)

/-- Aligned lists stay aligned under a weaker relation. -/
theorem mono {weaker : Token → Token → Prop}
    (weakens : ∀ {token twin}, same token twin → weaker token twin)
    (aligned : Aligned same tokens twins) : Aligned weaker tokens twins := by
  induction aligned with
  | nil => exact .nil
  | left isTrivia _ inductionHypothesis => exact .left isTrivia inductionHypothesis
  | right isTrivia _ inductionHypothesis => exact .right isTrivia inductionHypothesis
  | both related significant _ inductionHypothesis =>
    exact .both (weakens related) significant inductionHypothesis

/-- A walk past trivia stops in step. -/
theorem dropWhile (aligned : Aligned same tokens twins) (passes : Token → Bool)
    (agree : ∀ token twin, same token twin → passes token = passes twin)
    (passesTrivia : ∀ token, token.isTrivia = true → passes token = true) :
    Met same (tokens.dropWhile passes) (twins.dropWhile passes) := by
  induction aligned with
  | nil => exact .nil
  | left isTrivia _ inductionHypothesis =>
    rwa [List.dropWhile_cons_of_pos (passesTrivia _ isTrivia)]
  | right isTrivia _ inductionHypothesis =>
    rwa [List.dropWhile_cons_of_pos (passesTrivia _ isTrivia)]
  | @both token twin rest others related significant aligned inductionHypothesis =>
    have alike := agree _ _ related
    by_cases passed : passes token = true
    · rwa [List.dropWhile_cons_of_pos passed, List.dropWhile_cons_of_pos (alike ▸ passed)]
    · rw [List.dropWhile_cons_of_neg passed, List.dropWhile_cons_of_neg (alike ▸ passed)]
      exact .cons related significant aligned

theorem takeWhile (aligned : Aligned same tokens twins) (passes : Token → Bool)
    (agree : ∀ token twin, same token twin → passes token = passes twin)
    (passesTrivia : ∀ token, token.isTrivia = true → passes token = true) :
    Aligned same (tokens.takeWhile passes) (twins.takeWhile passes) := by
  induction aligned with
  | nil => exact .nil
  | left isTrivia _ inductionHypothesis =>
    rw [List.takeWhile_cons_of_pos (passesTrivia _ isTrivia)]
    exact .left isTrivia inductionHypothesis
  | right isTrivia _ inductionHypothesis =>
    rw [List.takeWhile_cons_of_pos (passesTrivia _ isTrivia)]
    exact .right isTrivia inductionHypothesis
  | @both token twin rest others related significant aligned inductionHypothesis =>
    have alike := agree _ _ related
    by_cases passed : passes token = true
    · rw [List.takeWhile_cons_of_pos passed, List.takeWhile_cons_of_pos (alike ▸ passed)]
      exact .both related significant inductionHypothesis
    · rw [List.takeWhile_cons_of_neg passed, List.takeWhile_cons_of_neg (alike ▸ passed)]
      exact .nil

theorem skipTrivia (faithful : Faithful same) (aligned : Aligned same tokens twins) :
    Met same (skipTrivia tokens) (skipTrivia twins) :=
  aligned.dropWhile isTrivia (fun _ _ => faithful.isTrivia) fun _ => id

theorem of_skipTrivia_left (aligned : Aligned same (Token.skipTrivia tokens) twins) :
    Aligned same tokens twins := by
  induction tokens with
  | nil => exact aligned
  | cons token rest inductionHypothesis =>
    rw [Token.skipTrivia, List.dropWhile_cons] at aligned
    split at aligned
    case isTrue isTrivia => exact .left isTrivia (inductionHypothesis aligned)
    case isFalse => exact aligned

theorem of_skipTrivia_right (aligned : Aligned same tokens (Token.skipTrivia twins)) :
    Aligned same tokens twins := by
  induction twins with
  | nil => exact aligned
  | cons twin others inductionHypothesis =>
    rw [Token.skipTrivia, List.dropWhile_cons] at aligned
    split at aligned
    case isTrue isTrivia => exact .right isTrivia (inductionHypothesis aligned)
    case isFalse => exact aligned

/-- A closing parenthesis is found in step. -/
theorem closeParen? (faithful : Faithful same) (aligned : Aligned same tokens twins) (depth : Nat) :
    Option.Rel (fun parts others => Aligned same parts.1 others.1 ∧ Aligned same parts.2 others.2)
      (closeParen? depth tokens) (closeParen? depth twins) := by
  induction aligned generalizing depth with
  | nil => exact .none
  | left isTrivia _ inductionHypothesis =>
    simp only [Token.closeParen?, isMark_of_isTrivia isTrivia, Bool.false_eq_true, if_false]
    exact rel_map_left (fun parts => ⟨.left isTrivia parts.1, parts.2⟩) (inductionHypothesis depth)
  | right isTrivia _ inductionHypothesis =>
    simp only [Token.closeParen?, isMark_of_isTrivia isTrivia, Bool.false_eq_true, if_false]
    exact rel_map_right (fun parts => ⟨.right isTrivia parts.1, parts.2⟩) (inductionHypothesis depth)
  | both related significant aligned inductionHypothesis =>
    simp only [Token.closeParen?, ← faithful.isMark related]
    split
    · cases depth with
      | zero => exact .some ⟨.nil, aligned⟩
      | succ depth =>
        exact rel_map (fun parts => ⟨.both related significant parts.1, parts.2⟩)
          (inductionHypothesis depth)
    · exact rel_map (fun parts => ⟨.both related significant parts.1, parts.2⟩)
        (inductionHypothesis _)

/-- The number of open parentheses is the same. -/
theorem parenDepth (faithful : Faithful same) (aligned : Aligned same tokens twins) :
    parenDepth tokens = parenDepth twins := by
  induction aligned with
  | nil => rfl
  | left isTrivia _ inductionHypothesis =>
    simp [Token.parenDepth, isMark_of_isTrivia isTrivia, inductionHypothesis]
  | right isTrivia _ inductionHypothesis =>
    simp [Token.parenDepth, isMark_of_isTrivia isTrivia, inductionHypothesis]
  | both related _ _ inductionHypothesis =>
    simp only [Token.parenDepth, faithful.isMark related, inductionHypothesis]

/-- The first tokens that satisfy corresponding predicates are related. -/
theorem findIdx? (aligned : Aligned same tokens twins) {finds findsTwin : Token → Bool}
    (agree : ∀ token twin, same token twin → finds token = findsTwin twin)
    (noTrivia : ∀ token, token.isTrivia = true → finds token = false ∧ findsTwin token = false) :
    Option.Rel (fun hit twinHit => ∃ token twin, tokens[hit]? = some token ∧
      twins[twinHit]? = some twin ∧ same token twin)
      (tokens.findIdx? finds) (twins.findIdx? findsTwin) := by
  induction aligned with
  | nil => exact .none
  | left isTrivia _ inductionHypothesis =>
    rw [List.findIdx?_cons, (noTrivia _ isTrivia).1]
    exact rel_map_left id inductionHypothesis
  | right isTrivia _ inductionHypothesis =>
    rw [List.findIdx?_cons, (noTrivia _ isTrivia).2]
    exact rel_map_right id inductionHypothesis
  | @both token twin rest others related significant aligned inductionHypothesis =>
    rw [List.findIdx?_cons, List.findIdx?_cons, ← agree _ _ related]
    split
    · exact .some ⟨token, twin, rfl, rfl, related⟩
    · exact rel_map id inductionHypothesis

end Aligned

/-- A token is passed in step. -/
theorem Met.passIf (met : Met same tokens twins) (faithful : Faithful same) {passes : Token → Bool}
    (agree : ∀ token twin, same token twin → passes token = passes twin) :
    Met same (passIf passes tokens) (passIf passes twins) := by
  cases met with
  | nil => exact .nil
  | cons related significant aligned =>
    rw [Token.passIf, Token.passIf, ← agree _ _ related]
    split
    · exact aligned.skipTrivia faithful
    · exact .cons related significant aligned

theorem Aligned.afterParameterParen? (faithful : Faithful same) (aligned : Aligned same tokens twins) :
    Option.Rel (Aligned same) (afterParameterParen? tokens) (afterParameterParen? twins) := by
  have named : Met same (Token.passIf (·.text == "&") (Token.skipTrivia tokens))
      (Token.passIf (·.text == "&") (Token.skipTrivia twins)) :=
    (aligned.skipTrivia faithful).passIf faithful
      fun _ _ related => faithful.sign related "&" (by simp [signs])
  have opened := named.passIf faithful
    fun _ _ related => congrArg (!·) (faithful.isMark related .openParen)
  simp only [Token.afterParameterParen?]
  revert opened
  generalize Token.passIf _ (Token.passIf _ (Token.skipTrivia tokens)) = ahead
  generalize Token.passIf _ (Token.passIf _ (Token.skipTrivia twins)) = twinAhead
  intro opened
  cases opened with
  | nil => exact .none
  | cons related significant aligned =>
    simp only [← faithful.isMark related]
    split
    · exact .some aligned
    · exact .none

section Types

/-- Whether a token can stand inside a type. -/
def isTyped (token : Token) : Bool := token.isNamePart || token.isTypePunctuation || token.isTrivia

theorem isTyped_of_isTrivia {token : Token} (isTrivia : token.isTrivia = true) :
    token.isTyped = true := by
  simp [isTyped, isTrivia]

theorem Faithful.isTyped (faithful : Faithful same) {token twin : Token} (related : same token twin) :
    token.isTyped = twin.isTyped := by
  rw [Token.isTyped, Token.isTyped, faithful.isNamePart related, faithful.isTypePunctuation related,
    faithful.isTrivia related]

/-- A type is followed by trivia and then by the first token that no type can hold. -/
theorem exists_trivia_after_type (tokens : List Token) :
    ∃ trivia, tokens = typeAhead tokens ++ (trivia ++ tokens.dropWhile isTyped) ∧
      ∀ token ∈ trivia, token.isTrivia = true := by
  refine ⟨((tokens.takeWhile isTyped).reverse.takeWhile isTrivia).reverse, ?_, ?_⟩
  · have run : typeAhead tokens ++ ((tokens.takeWhile isTyped).reverse.takeWhile isTrivia).reverse =
        tokens.takeWhile isTyped := by
      rw [← List.reverse_inj, List.reverse_append, List.reverse_reverse, typeAhead,
        List.reverse_reverse]
      exact List.takeWhile_append_dropWhile
    rw [← List.append_assoc, run, List.takeWhile_append_dropWhile]
  · intro token member
    exact List.all_eq_true.mp List.all_takeWhile token (List.mem_reverse.mp member)

theorem skipTrivia_drop_typeAhead (tokens : List Token) :
    skipTrivia (tokens.drop (typeAhead tokens).length) = tokens.dropWhile isTyped := by
  obtain ⟨trivia, whole, allTrivia⟩ := exists_trivia_after_type tokens
  have left : tokens.drop (typeAhead tokens).length = trivia ++ tokens.dropWhile isTyped :=
    (congrArg (List.drop (typeAhead tokens).length) whole).trans List.drop_left
  rw [left, skipTrivia, List.dropWhile_append_of_pos allTrivia]
  -- What follows the type is no trivia: trivia could stand in it.
  cases after : tokens.dropWhile isTyped with
  | nil => rfl
  | cons token rest =>
    have stops := List.head?_dropWhile_not isTyped tokens
    rw [after] at stops
    have significant : token.isTrivia = false := by
      simp only [isTyped, Bool.or_eq_false_iff] at stops
      simpa using stops.2
    rw [List.dropWhile_cons_of_neg (by simp [significant])]

theorem not_isTrivia_of_startsType {token : Token} (starts : token.startsType = true) :
    token.isTrivia = false := by
  by_cases isTrivia : token.isTrivia = true
  · rw [startsType_of_isTrivia isTrivia] at starts
    cases starts
  · simpa using isTrivia

theorem isTyped_of_startsType {token : Token} (starts : token.startsType = true) :
    token.isTyped = true := by
  simp only [startsType, Bool.or_eq_true, Bool.and_eq_true] at starts
  rcases starts with isPart | ⟨isOther, question⟩
  · simp [isTyped, isPart]
  · simp [isTyped, isTypePunctuation, isOther, question]

theorem typeAhead_ne_nil {token : Token} (starts : token.startsType = true) (rest : List Token) :
    typeAhead (token :: rest) ≠ [] := by
  intro empty
  have ahead := skipTrivia_drop_typeAhead (token :: rest)
  rw [empty, List.length_nil, List.drop_zero, skipTrivia,
    List.dropWhile_cons_of_neg (by simp [not_isTrivia_of_startsType starts]),
    List.dropWhile_cons_of_pos (isTyped_of_startsType starts)] at ahead
  have shorter := congrArg List.length ahead
  have bound := length_dropWhile_le isTyped rest
  rw [List.length_cons] at shorter
  omega

namespace Aligned

theorem typeAhead (faithful : Faithful same) (aligned : Aligned same tokens twins) :
    Aligned same (typeAhead tokens) (typeAhead twins) :=
  ((aligned.takeWhile isTyped (fun _ _ => faithful.isTyped)
    fun _ => isTyped_of_isTrivia).reverse.skipTrivia faithful).aligned.reverse

theorem afterType (faithful : Faithful same) (aligned : Aligned same tokens twins) :
    Aligned same (tokens.drop (Token.typeAhead tokens).length)
      (twins.drop (Token.typeAhead twins).length) := by
  apply of_skipTrivia_left
  apply of_skipTrivia_right
  rw [skipTrivia_drop_typeAhead, skipTrivia_drop_typeAhead]
  exact (aligned.dropWhile isTyped (fun _ _ => faithful.isTyped) fun _ => isTyped_of_isTrivia).aligned

end Aligned

end Types

section Sparse

/-- Whether no two parts of names stand next to each other. -/
def Sparse (tokens : List Token) : Prop :=
  tokens.IsChain fun token next => ¬ (token.isNamePart = true ∧ next.isNamePart = true)

instance (tokens : List Token) : Decidable (Sparse tokens) :=
  inferInstanceAs (Decidable (tokens.IsChain _))

theorem Sparse.of_isInfix {part : List Token} (sparse : Sparse tokens) (inside : part <:+: tokens) :
    Sparse part :=
  List.IsChain.infix sparse inside

theorem Sparse.reverse (sparse : Sparse tokens) : Sparse tokens.reverse := by
  refine List.isChain_reverse.mpr (List.IsChain.imp ?_ sparse)
  intro token next apart both
  exact apart both.symm

/-- In a sparse list a name is one token. -/
theorem Sparse.takeWhile_isNamePart {token : Token} {rest : List Token}
    (sparse : Sparse (token :: rest)) (isPart : token.isNamePart = true) :
    rest.takeWhile isNamePart = [] := by
  cases rest with
  | nil => rfl
  | cons next after =>
    have apart : ¬ next.isNamePart = true :=
      fun isNext => (List.isChain_cons_cons.mp sparse).1 ⟨isPart, isNext⟩
    exact List.takeWhile_cons_of_neg apart

theorem Sparse.nameAhead_eq {token : Token} {rest : List Token} (sparse : Sparse (token :: rest))
    (isPart : token.isNamePart = true) : nameAhead rest = "" := by
  rw [nameAhead, sparse.takeWhile_isNamePart isPart]
  rfl

theorem Sparse.afterName_eq {token : Token} {rest : List Token} (sparse : Sparse (token :: rest))
    (isPart : token.isNamePart = true) : afterName rest = rest := by
  have whole : rest.takeWhile isNamePart ++ rest.dropWhile isNamePart = rest :=
    List.takeWhile_append_dropWhile
  rwa [sparse.takeWhile_isNamePart isPart, List.nil_append] at whole

theorem Sparse.tail {token : Token} {rest : List Token} (sparse : Sparse (token :: rest)) :
    Sparse rest :=
  sparse.of_isInfix (List.suffix_cons token rest).isInfix

theorem Sparse.nameAhead_cons {token : Token} {rest : List Token} (sparse : Sparse (token :: rest)) :
    nameAhead (token :: rest) = if token.isNamePart then token.text else "" := by
  split
  case isTrue isPart =>
    rw [nameAhead, List.takeWhile_cons_of_pos isPart, sparse.takeWhile_isNamePart isPart]
    simp
  case isFalse notPart =>
    rw [nameAhead, List.takeWhile_cons_of_neg notPart]
    rfl

end Sparse

end Token

namespace Place

open Token

variable {same : Token → Token → Prop} {tokens twins : List Token}

/-- A variable after a type is found in step. -/
theorem afterVariable?_aligned (faithful : Faithful same) (aligned : Aligned same tokens twins) :
    Option.Rel (Aligned same) (afterVariable? tokens) (afterVariable? twins) := by
  have passed : Met same (passIf (·.text == "...") (skipTrivia tokens))
      (passIf (·.text == "...") (skipTrivia twins)) :=
    (aligned.skipTrivia faithful).passIf faithful
      fun _ _ related => faithful.sign related "..." (by simp [signs])
  simp only [afterVariable?]
  revert passed
  generalize passIf _ (skipTrivia tokens) = ahead
  generalize passIf _ (skipTrivia twins) = twinAhead
  intro passed
  cases passed with
  | nil => exact .none
  | cons related significant aligned =>
    simp only [← faithful.kind related]
    split
    · exact .some aligned
    · exact .none

theorem skipPropertyWords_eq (tokens : List Token) :
    skipPropertyWords tokens =
      match skipTrivia tokens with
      | [] => []
      | token :: rest =>
        if token.isKeyword .staticWord || token.isKeyword .readonlyWord then skipPropertyWords rest
        else token :: rest := by
  rw [skipPropertyWords]
  split <;> simp_all

/-- The words between a visibility and a type are passed in step. -/
theorem skipPropertyWords_met (faithful : Faithful same) (aligned : Aligned same tokens twins) :
    Met same (skipPropertyWords tokens) (skipPropertyWords twins) := by
  fun_induction skipPropertyWords tokens generalizing twins with
  | case1 tokens ahead =>
    have met := aligned.skipTrivia faithful
    rw [ahead] at met
    rw [skipPropertyWords_eq twins, met.eq_nil]
    exact .nil
  | case2 tokens token rest ahead isWord inductionHypothesis =>
    have met := aligned.skipTrivia faithful
    rw [ahead] at met
    obtain ⟨twin, others, twinAhead, related, -, further⟩ := met.exists_cons
    simp only [skipPropertyWords_eq twins, twinAhead, ← faithful.isKeyword related]
    rw [if_pos isWord]
    exact inductionHypothesis further
  | case3 tokens token rest ahead isOther =>
    have met := aligned.skipTrivia faithful
    rw [ahead] at met
    obtain ⟨twin, others, twinAhead, related, significant, further⟩ := met.exists_cons
    simp only [skipPropertyWords_eq twins, twinAhead, ← faithful.isKeyword related]
    rw [if_neg isOther]
    exact .cons related significant further

/-- The variables that a closure binds are passed in step. -/
theorem afterBinding?_met (faithful : Faithful same) (met : Met same tokens twins) :
    Option.Rel (Met same) (afterBinding? tokens) (afterBinding? twins) := by
  cases met with
  | nil => exact .some .nil
  | @cons token twin rest others related significant aligned =>
    simp only [afterBinding?, ← faithful.isKeyword related]
    split
    case isFalse => exact .some (.cons related significant aligned)
    case isTrue =>
      have ahead := aligned.skipTrivia faithful
      cases opened : skipTrivia rest with
      | nil =>
        rw [opened] at ahead
        rw [ahead.eq_nil]
        exact .none
      | cons next bound =>
        rw [opened] at ahead
        obtain ⟨twinNext, twinBound, twinOpened, relatedNext, -, further⟩ := ahead.exists_cons
        simp only [twinOpened, ← faithful.isMark relatedNext]
        split
        · exact rel_map (fun parts => parts.2.skipTrivia faithful) (further.closeParen? faithful 0)
        · exact .none

/-- In a sparse list every name of a list of names is one token. -/
theorem namesUntil_cons_of_isNamePart {stops : Token → Bool} {token : Token} {rest : List Token}
    (sparse : Sparse (token :: rest)) (goesOn : stops token = false)
    (isPart : token.isNamePart = true) :
    (namesUntil stops (token :: rest)).1 = token.text :: (namesUntil stops rest).1 := by
  rw [namesUntil, if_neg (by simp [goesOn]), if_pos isPart, sparse.afterName_eq isPart,
    sparse.nameAhead_eq isPart, String.append_empty]

/-- Aligned lists of names hold corresponding names. -/
theorem any_namesUntil_aligned (faithful : Faithful same) (aligned : Aligned same tokens twins)
    {stops : Token → Bool} (agree : ∀ token twin, same token twin → stops token = stops twin)
    (noTrivia : ∀ token, token.isTrivia = true → stops token = false)
    {accepts acceptsTwin : String → Bool}
    (accept : ∀ token twin, same token twin → token.isNamePart = true →
      accepts token.text = acceptsTwin twin.text)
    (sparse : Sparse tokens) (twinSparse : Sparse twins) :
    (namesUntil stops tokens).1.any accepts = (namesUntil stops twins).1.any acceptsTwin := by
  induction aligned with
  | nil => simp [namesUntil]
  | left isTrivia _ inductionHypothesis =>
    rw [namesUntil, if_neg (by simp [noTrivia _ isTrivia]),
      if_neg (by simp [isNamePart_of_isTrivia isTrivia])]
    exact inductionHypothesis sparse.tail twinSparse
  | right isTrivia _ inductionHypothesis =>
    rw [namesUntil.eq_def stops (_ :: _)]
    simp only [noTrivia _ isTrivia, isNamePart_of_isTrivia isTrivia, Bool.false_eq_true, if_false]
    exact inductionHypothesis sparse twinSparse.tail
  | @both token twin rest others related _ _ inductionHypothesis =>
    have inTail := inductionHypothesis sparse.tail twinSparse.tail
    cases stopped : stops token with
    | true =>
      have twinStopped := (agree _ _ related).symm.trans stopped
      simp [namesUntil, stopped, twinStopped]
    | false =>
      have twinGoesOn := (agree _ _ related).symm.trans stopped
      cases isPart : token.isNamePart with
      | true =>
        have twinPart := (faithful.isNamePart related).symm.trans isPart
        rw [namesUntil_cons_of_isNamePart sparse stopped isPart,
          namesUntil_cons_of_isNamePart twinSparse twinGoesOn twinPart, List.any_cons,
          List.any_cons, accept _ _ related isPart, inTail]
      | false =>
        have notTwinPart := (faithful.isNamePart related).symm.trans isPart
        simpa [namesUntil, stopped, twinGoesOn, isPart, notTwinPart] using inTail

end Place

end ClassAtlas
