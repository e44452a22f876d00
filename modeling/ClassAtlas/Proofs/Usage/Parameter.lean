import ClassAtlas.Proofs.Token.WrittenType
import ClassAtlas.Proofs.Usage.HintName

/-!
Parameters are found as they are written.

The parameters of a function are found by a scan that looks for the start of a type, without a parser.
In a parameter list as a program writes it, with any trivia, the scan reports the parameters whose type
names the target and nothing else: modifiers and what stands before an equality sign start no type, and
in a default value no variable follows what looks like one.
-/

namespace ClassAtlas

namespace Token

/-- Whether a token can stand before the type of a parameter: a keyword, or another word that is no sign
of a type. -/
def IsModifier (token : Token) : Prop :=
  (∃ word, token.kind = .keyword word) ∨ token.kind = .other ∧ token.isTypePunctuation = false

/-- Tokens that are passed between a parameter and the comma after it: trivia, or a default value with
balanced parentheses and without variables. -/
def IsDefault (tokens : List Token) : Prop :=
  (∀ token ∈ tokens, token.isTrivia = true) ∨
    ∃ blank equals value, tokens = blank ++ equals :: value ∧
      (∀ token ∈ blank, token.isTrivia = true) ∧ equals.IsSign "=" ∧ ParenBalanced value ∧
      ∀ token ∈ value, token.kind ≠ .variableName

/-- Tokens that hold the name of a function or none. -/
def IsFunctionName (tokens : List Token) : Prop :=
  significant tokens = [] ∨
    ∃ word : Token, significant tokens = [word] ∧ word.isMark .openParen = false ∧ word.text ≠ "&"

end Token

/-- A parameter as it is written. -/
structure WrittenParameter where
  modifiers : List Token
  /-- The type, without trivia around it; empty if there is none. -/
  type : List Token
  /-- The ampersand of a parameter taken by reference. -/
  reference : List Token
  /-- The dots of a parameter that takes all further arguments. -/
  ellipsis : List Token
  name : Token
  default : List Token
  modifiers_pass : ∀ token ∈ modifiers, token.isTrivia = true ∨ token.IsModifier
  type_reads : type = [] ∨ Token.IsTypeText type
  reference_holds : Token.HoldsAtMost "&" reference
  ellipsis_holds : Token.HoldsAtMost "..." ellipsis
  name_isVariable : name.kind = .variableName
  /-- A variable is not spelled like the dots. -/
  name_isName : name.text ≠ "..."
  default_passes : Token.IsDefault default

namespace WrittenParameter

/-- The tokens from the type of a parameter up to its name. -/
def hint (parameter : WrittenParameter) : List Token :=
  parameter.type ++ (parameter.reference ++ (parameter.ellipsis ++ [parameter.name]))

/-- All tokens of a parameter. -/
def tokens (parameter : WrittenParameter) : List Token :=
  parameter.modifiers ++ (parameter.hint ++ parameter.default)

/-- The record of a parameter whose type names the target: the line of the first such name, and the
text from the type up to the name of the parameter. -/
def record? (view : View) (parameter : WrittenParameter) : Option UsageRecord :=
  (parameter.type.find? view.namesTarget).map fun name =>
    .found name.line .typeHint (Token.code parameter.hint) none

end WrittenParameter

/-- Parameters with commas between them, and perhaps one at the end. -/
inductive ListsParameters : List WrittenParameter → List Token → Prop where
  | nil {blank : List Token} (isBlank : ∀ token ∈ blank, token.isTrivia = true) :
      ListsParameters [] blank
  | last (parameter : WrittenParameter) : ListsParameters [parameter] parameter.tokens
  | cons (parameter : WrittenParameter) {comma : Token} {parameters : List WrittenParameter}
      {rest : List Token} (isComma : comma.IsSpelled .comma)
      (others : ListsParameters parameters rest) :
      ListsParameters (parameter :: parameters) (parameter.tokens ++ comma :: rest)

namespace Token

section Header

/-- What stands between the keyword of a function and its parameter list is passed. -/
theorem afterParameterParen?_eq {reference name : List Token} {opens : Token}
    (holds : HoldsAtMost "&" reference) (isName : IsFunctionName name)
    (isOpen : opens.IsSpelled .openParen) (rest : List Token) :
    afterParameterParen? (reference ++ (name ++ opens :: rest)) = some rest := by
  have isSignificant := isTrivia_of_isMark isOpen.isMark
  have named : ∃ next after, skipTrivia (name ++ opens :: rest) = next :: after ∧ next.text ≠ "&" ∧
      passIf (!·.isMark .openParen) (next :: after) = opens :: rest := by
    rcases isName with none | ⟨word, one, notOpen, isWord⟩
    · refine ⟨opens, rest, ?_, ?_, ?_⟩
      · exact skipTrivia_append_blank (isTrivia_of_significant_nil none) isSignificant rest
      · rw [isOpen.2]
        decide
      · rw [passIf, if_neg (by simp [isOpen.isMark])]
    · obtain ⟨wordSignificant, blank, more, rfl, isBlank, none⟩ := exists_of_significant_cons one
      refine ⟨word, more ++ opens :: rest, ?_, isWord, ?_⟩
      · rw [List.append_assoc, List.cons_append]
        exact skipTrivia_append_blank isBlank wordSignificant _
      · rw [passIf, if_pos (by simp [notOpen])]
        exact skipTrivia_append_blank (isTrivia_of_significant_nil none) isSignificant rest
  obtain ⟨next, after, ahead, other, passed⟩ := named
  simp only [afterParameterParen?, holds.passIf_eq ahead other, passed, isOpen.isMark, if_true]

end Header

section Passing

variable {token : Token} {tokens : List Token}

theorem isFlat_of_isTyped (typed : token.isTyped = true) : token.IsFlat := (isQuiet_of_isTyped typed).1

theorem isFlat_of_isTrivia (isTrivia : token.isTrivia = true) : token.IsFlat :=
  isFlat_of_isTyped (isTyped_of_isTrivia isTrivia)

theorem isFlat_of_isModifier (isModifier : token.IsModifier) : token.IsFlat := by
  rcases isModifier with ⟨word, kind⟩ | ⟨kind, -⟩ <;> constructor <;> simp [isMark, kind]

theorem isFlat_of_isVariable (isVariable : token.kind = .variableName) : token.IsFlat := by
  constructor <;> simp [isMark, isVariable]

theorem startsType_of_isModifier (isModifier : token.IsModifier) : token.startsType = false := by
  rcases isModifier with ⟨word, kind⟩ | ⟨kind, noSign⟩
  · simp [startsType, isNamePart, TokenKind.isNamePart, kind]
  · simp only [isTypePunctuation, kind, beq_self_eq_true, Bool.true_and, Bool.or_eq_false_iff] at noSign
    simp [startsType, isNamePart, TokenKind.isNamePart, kind, noSign.1]

theorem startsType_of_isSign {text : String} (isSign : token.IsSign text) (other : text ≠ "?") :
    token.startsType = false := by
  simp [startsType, isNamePart, TokenKind.isNamePart, isSign.1, isSign.2, other]

theorem isTyped_of_isDots (isDots : token.IsSign "...") : token.isTyped = false := by
  simp [isTyped, isNamePart, TokenKind.isNamePart, isTypePunctuation, isTrivia, TokenKind.isTrivia,
    isDots.1, isDots.2]

theorem startsType_of_isVariable (isVariable : token.kind = .variableName) :
    token.startsType = false := by
  simp [startsType, isNamePart, TokenKind.isNamePart, isVariable]

theorem HoldsAtMost.startsType {text : String} (holds : HoldsAtMost text tokens) (other : text ≠ "?") :
    ∀ token ∈ tokens, token.startsType = false := fun token member =>
  (holds.trivia_or_sign token member).elim startsType_of_isTrivia
    fun isSign => startsType_of_isSign isSign other

theorem HoldsAtMost.isFlat {text : String} (holds : HoldsAtMost text tokens) :
    ∀ token ∈ tokens, token.IsFlat := fun token member =>
  (holds.trivia_or_sign token member).elim isFlat_of_isTrivia isFlat_of_isSign

theorem IsDefault.parenBalanced (isDefault : IsDefault tokens) : ParenBalanced tokens := by
  rcases isDefault with isBlank | ⟨blank, equals, value, rfl, isBlank, isEquals, balanced, -⟩
  · exact parenBalanced_of_flat fun token member => isFlat_of_isTrivia (isBlank token member)
  · have early := parenBalanced_of_flat fun token member => isFlat_of_isTrivia (isBlank token member)
    exact early.append (.flat (isFlat_of_isSign isEquals) balanced)

theorem IsDefault.not_isVariable (isDefault : IsDefault tokens) :
    ∀ token ∈ tokens, token.kind ≠ .variableName := by
  have blank : ∀ {token : Token}, token.isTrivia = true → token.kind ≠ .variableName := by
    intro token isTrivia isVariable
    rw [isTrivia_of_isVariable isVariable] at isTrivia
    cases isTrivia
  rcases isDefault with isBlank | ⟨front, equals, value, rfl, isBlank, isEquals, -, noVariable⟩
  · exact fun token member => blank (isBlank token member)
  · refine List.forall_mem_append.mpr ⟨fun token member => blank (isBlank token member), ?_⟩
    refine List.forall_mem_cons.mpr ⟨?_, noVariable⟩
    rw [isEquals.1]
    decide

end Passing

end Token

namespace Place

open Token

variable {view : View} {index : Nat}

section Scanning

/-- Tokens with which no type starts are passed. -/
theorem parametersFrom_append_passed (view : View) (index : Nat) {passed : List Token}
    (noType : ∀ token ∈ passed, token.startsType = false) (rest : List Token) :
    parametersFrom view index (passed ++ rest) = parametersFrom view (index + passed.length) rest := by
  induction passed generalizing index with
  | nil => rfl
  | cons token passed inductionHypothesis =>
    rw [List.forall_mem_cons] at noType
    rw [List.cons_append, parametersFrom_of_not_startsType noType.1, inductionHypothesis _ noType.2,
      List.length_cons]
    congr 1
    omega

/-- A type is read as a whole, and reported if a variable follows it and it names the target. -/
theorem parametersFrom_append_type {type rest : List Token} (ahead : typeAhead (type ++ rest) = type)
    (starts : ∃ first more, type = first :: more ∧ first.startsType = true) :
    parametersFrom view index (type ++ rest) =
      ((afterVariable? rest).bind fun after => (type.findIdx? view.namesTarget).map fun hit =>
        (⟨.typeHint, index, index + ((type ++ rest).length - after.length), index + hit, none⟩ :
          Sighting)).toList ++ parametersFrom view (index + type.length) rest := by
  obtain ⟨first, more, rfl, starts⟩ := starts
  rw [List.cons_append] at ahead ⊢
  rw [parametersFrom_of_startsType starts, parameter?, ahead, ← List.cons_append, List.drop_left]
  cases afterVariable? rest <;> cases List.findIdx? view.namesTarget (first :: more) <;> rfl

/-- The variable after a type is found, past the dots of a parameter that takes all further
arguments. -/
theorem afterVariable?_eq {ellipsis : List Token} (holds : HoldsAtMost "..." ellipsis) {name : Token}
    (isVariable : name.kind = .variableName) (isName : name.text ≠ "...") (rest : List Token) :
    afterVariable? (ellipsis ++ name :: rest) = some rest := by
  have ahead := skipTrivia_cons (isTrivia_of_isVariable isVariable) rest
  simp only [afterVariable?, holds.passIf_eq ahead isName, isVariable, beq_self_eq_true, if_true]

theorem exists_passed_of_passIf (passes : Token → Bool) (tokens : List Token) :
    ∃ passed, tokens = passed ++ passIf passes tokens ∧
      ∀ token ∈ passed, token.isTrivia = true ∨ passes token = true := by
  cases tokens with
  | nil => exact ⟨[], rfl, by simp⟩
  | cons token rest =>
    rw [passIf]
    split
    case isTrue isPassed =>
      refine ⟨token :: rest.takeWhile isTrivia, ?_, List.forall_mem_cons.mpr ⟨.inr isPassed, ?_⟩⟩
      · rw [List.cons_append]
        exact congrArg (token :: ·) List.takeWhile_append_dropWhile.symm
      · exact fun token inside => .inl (List.all_eq_true.mp List.all_takeWhile token inside)
    case isFalse => exact ⟨[], rfl, by simp⟩

/-- Only trivia and dots are passed before a variable. -/
theorem exists_variable_of_afterVariable? {tokens after : List Token}
    (found : afterVariable? tokens = some after) :
    ∃ passed name, tokens = passed ++ name :: after ∧ name.kind = .variableName ∧
      ∀ token ∈ passed, token.isTrivia = true ∨ token.text = "..." := by
  obtain ⟨dots, dotted, isDots⟩ := exists_passed_of_passIf (·.text == "...") (skipTrivia tokens)
  simp only [afterVariable?] at found
  split at found
  case h_2 => cases found
  case h_1 name rest reached =>
    split at found
    case isFalse => cases found
    case isTrue isVariable =>
      cases found
      rw [reached] at dotted
      refine ⟨tokens.takeWhile isTrivia ++ dots, name, ?_, by simpa using isVariable,
        List.forall_mem_append.mpr ⟨fun token inside => .inl ?_, fun token inside => ?_⟩⟩
      · rw [List.append_assoc, ← dotted]
        exact List.takeWhile_append_dropWhile.symm
      · exact List.all_eq_true.mp List.all_takeWhile token inside
      · simpa using isDots token inside

/-- Whether a parameter ends before the tokens: there are none, or a comma comes first. -/
def EndsParameter (tokens : List Token) : Prop :=
  ∀ token ∈ tokens.head?, token.IsSpelled .comma

theorem endsParameter_nil : EndsParameter [] := by
  intro token isFirst
  cases isFirst

theorem endsParameter_cons {comma : Token} (isComma : comma.IsSpelled .comma) (rest : List Token) :
    EndsParameter (comma :: rest) := by
  intro token isFirst
  cases isFirst
  exact isComma

theorem afterVariable?_append_eq_none {tokens following : List Token}
    (noVariable : ∀ token ∈ tokens, token.kind ≠ .variableName) (ends : EndsParameter following) :
    afterVariable? (tokens ++ following) = none := by
  rw [Option.eq_none_iff_forall_not_mem]
  intro after found
  obtain ⟨passed, name, split, isVariable, isPassed⟩ := exists_variable_of_afterVariable? found
  have beyond : ∃ more, passed = tokens ++ more ∧ following = more ++ name :: after := by
    rcases List.append_eq_append_iff.mp split with ⟨more, equal, rest⟩ | ⟨more, equal, rest⟩
    · exact ⟨more, equal, rest⟩
    · cases more with
      | nil => exact ⟨[], by simpa using equal.symm, by simpa using rest.symm⟩
      | cons token more =>
        rw [List.cons_append, List.cons.injEq] at rest
        exact absurd isVariable (noVariable name (by simp [equal, rest.1]))
  obtain ⟨more, rfl, rfl⟩ := beyond
  -- The comma is not passed before the variable, and is no variable either.
  cases more with
  | nil =>
    have isComma := ends name rfl
    rw [isComma.1] at isVariable
    cases isVariable
  | cons comma more =>
    have isComma := ends comma rfl
    rcases isPassed comma (by simp) with isTrivia | isDots
    · rw [isTrivia_of_isMark isComma.isMark] at isTrivia
      cases isTrivia
    · rw [isComma.2] at isDots
      revert isDots
      decide

theorem endsType_of_endsParameter {tokens : List Token} (ends : EndsParameter tokens) :
    EndsType tokens := by
  intro token isFirst
  have isComma := ends token isFirst
  simp [isTyped, isNamePart, TokenKind.isNamePart, isTypePunctuation, isTrivia, TokenKind.isTrivia,
    isComma.1]

/-- Tokens without variables are passed up to the end of their parameter. -/
theorem parametersFrom_append_default (view : View) (index : Nat) {tokens following : List Token}
    (noVariable : ∀ token ∈ tokens, token.kind ≠ .variableName) (ends : EndsParameter following) :
    parametersFrom view index (tokens ++ following) =
      parametersFrom view (index + tokens.length) following := by
  cases tokens with
  | nil => rfl
  | cons token rest =>
    cases starts : token.startsType with
    | false =>
      rw [List.cons_append, parametersFrom_of_not_startsType starts,
        parametersFrom_append_default view (index + 1) (List.forall_mem_cons.mp noVariable).2 ends,
        List.length_cons]
      congr 1
      omega
    | true =>
      obtain ⟨left, split⟩ := typeAhead_isPrefix (token :: rest)
      obtain ⟨first, more, type⟩ := List.exists_cons_of_ne_nil (typeAhead_ne_nil starts rest)
      have ahead := typeAhead_append (endsType_of_endsParameter ends) (token :: rest)
      rw [type] at split ahead
      rw [List.cons_append, List.cons.injEq] at split
      obtain ⟨rfl, rfl⟩ := split
      have shape : first :: (more ++ left) ++ following = first :: more ++ (left ++ following) := by
        simp
      have noVariableLeft := (List.forall_mem_append.mp (List.forall_mem_cons.mp noVariable).2).2
      rw [shape] at ahead ⊢
      rw [parametersFrom_append_type ahead ⟨first, more, rfl, starts⟩,
        afterVariable?_append_eq_none noVariableLeft ends,
        parametersFrom_append_default view _ noVariableLeft ends, Option.bind_none,
        Option.toList_none, List.nil_append, Nat.add_assoc, ← List.length_append, List.cons_append]
termination_by tokens.length

end Scanning

end Place

namespace WrittenParameter

open Place Token

variable {view : View} {parameter : WrittenParameter} {parameters : List WrittenParameter}
  {inside : List Token}

/-- The sighting of a parameter whose type begins at a position, if it names the target. -/
def sighting? (view : View) (index : Nat) (parameter : WrittenParameter) : Option Sighting :=
  (parameter.type.findIdx? view.namesTarget).map fun hit =>
    ⟨.typeHint, index, index + parameter.hint.length, index + hit, none⟩

theorem hint_startsType (parameter : WrittenParameter) (untyped : parameter.type = []) :
    ∀ token ∈ parameter.hint, token.startsType = false := by
  rw [hint, untyped, List.nil_append]
  refine List.forall_mem_append.mpr ⟨parameter.reference_holds.startsType (by decide),
    List.forall_mem_append.mpr ⟨parameter.ellipsis_holds.startsType (by decide), ?_⟩⟩
  rw [List.forall_mem_singleton]
  exact startsType_of_isVariable parameter.name_isVariable

/-- A type, the dots and the name of a parameter are read as one hint. -/
theorem parametersFrom_append_hint (view : View) (index : Nat) {type ellipsis : List Token}
    (reads : IsTypeText type) (holds : HoldsAtMost "..." ellipsis) {name : Token}
    (isVariable : name.kind = .variableName) (isName : name.text ≠ "...") (following : List Token) :
    parametersFrom view index (type ++ (ellipsis ++ name :: following)) =
      ((type.findIdx? view.namesTarget).map fun hit =>
        (⟨.typeHint, index, index + (type ++ (ellipsis ++ [name])).length, index + hit, none⟩ :
          Sighting)).toList ++
        parametersFrom view (index + (type ++ (ellipsis ++ [name])).length) following := by
  have ends : EndsType (skipTrivia (ellipsis ++ name :: following)) :=
    endsType_skipTrivia (fun token inside => (holds.trivia_or_sign token inside).imp_right
      isTyped_of_isDots) (isTyped_of_isVariable isVariable) following
  have noType : ∀ token ∈ ellipsis ++ [name], token.startsType = false := by
    refine List.forall_mem_append.mpr ⟨holds.startsType (by decide), ?_⟩
    rw [List.forall_mem_singleton]
    exact startsType_of_isVariable isVariable
  have passed : parametersFrom view (index + type.length) (ellipsis ++ [name] ++ following) = _ :=
    parametersFrom_append_passed view _ noType following
  have span : (type ++ (ellipsis ++ name :: following)).length - following.length =
      (type ++ (ellipsis ++ [name])).length := by
    simp only [List.length_append, List.length_cons, List.length_nil]
    omega
  rw [List.append_assoc, List.singleton_append, Nat.add_assoc, ← List.length_append] at passed
  rw [parametersFrom_append_type (reads.typeAhead_eq ends) reads.starts,
    afterVariable?_eq holds isVariable isName, passed, Option.bind_some, span]

/-- A sign after a type names nothing. -/
theorem findIdx?_append_sign {type blank : List Token} {sign : Token} {text : String}
    (isBlank : ∀ token ∈ blank, token.isTrivia = true) (isSign : sign.IsSign text) :
    (type ++ (blank ++ [sign])).findIdx? view.namesTarget = type.findIdx? view.namesTarget := by
  have nothing : (blank ++ [sign]).findIdx? view.namesTarget = none := by
    rw [List.findIdx?_eq_none_iff]
    refine List.forall_mem_append.mpr
      ⟨fun token inside => View.namesTarget_of_isTrivia (isBlank token inside), ?_⟩
    rw [List.forall_mem_singleton]
    simp [View.namesTarget, isNamePart, TokenKind.isNamePart, isSign.1]
  rw [List.findIdx?_append, nothing, Option.map_none, Option.or_none]

/-- A parameter is reported from its type up to its name, if the type names the target. -/
theorem parametersFrom_hint (view : View) (index : Nat) (parameter : WrittenParameter)
    (following : List Token) :
    parametersFrom view index (parameter.hint ++ following) =
      (parameter.sighting? view index).toList ++
        parametersFrom view (index + parameter.hint.length) following := by
  rcases parameter.type_reads with untyped | reads
  · have nothing : parameter.sighting? view index = none := by simp [sighting?, untyped]
    rw [parametersFrom_append_passed view index (parameter.hint_startsType untyped), nothing]
    rfl
  -- The ampersand after a type is taken for a part of it.
  · have isVariable := parameter.name_isVariable
    have isName := parameter.name_isName
    rcases parameter.reference_holds with none | ⟨sign, isSign, one⟩
    · have holds := parameter.ellipsis_holds.append (isTrivia_of_significant_nil none)
      have whole := parametersFrom_append_hint view index reads holds isVariable isName following
      simpa [hint, sighting?] using whole
    · obtain ⟨-, blank, more, split, isBlank, none⟩ := exists_of_significant_cons one
      have holds := parameter.ellipsis_holds.append (isTrivia_of_significant_nil none)
      have isPart : sign.isTypePunctuation = true := by simp [isTypePunctuation, isSign.1, isSign.2]
      have whole := parametersFrom_append_hint view index
        (reads.append_sign isBlank isPart) holds isVariable isName following
      rw [findIdx?_append_sign isBlank isSign] at whole
      simpa [hint, sighting?, split] using whole

/-- A parameter is passed with what stands before its type and with its default value. -/
theorem parametersFrom_tokens (view : View) (index : Nat) (parameter : WrittenParameter)
    {following : List Token} (ends : EndsParameter following) :
    parametersFrom view index (parameter.tokens ++ following) =
      (parameter.sighting? view (index + parameter.modifiers.length)).toList ++
        parametersFrom view (index + parameter.tokens.length) following := by
  have noType : ∀ token ∈ parameter.modifiers, token.startsType = false := fun token inside =>
    (parameter.modifiers_pass token inside).elim startsType_of_isTrivia startsType_of_isModifier
  rw [tokens, List.append_assoc, parametersFrom_append_passed view index noType, List.append_assoc,
    parametersFrom_hint,
    parametersFrom_append_default view _ parameter.default_passes.not_isVariable ends,
    List.length_append, List.length_append, Nat.add_assoc, Nat.add_assoc]

/-- A parameter that stands in the file is reported with the line of the name in its type and with the
text of its hint. -/
theorem record_sighting? {index : Nat} (stands : StandsAt view.tokens index parameter.hint) :
    (parameter.sighting? view index).map (Sighting.record view.tokens) = parameter.record? view := by
  cases named : parameter.type.find? view.namesTarget with
  | none =>
    have nothing : parameter.type.findIdx? view.namesTarget = none := by
      simpa [List.findIdx?_eq_none_iff] using named
    rw [sighting?, record?, named, nothing]
    rfl
  | some first =>
    obtain ⟨hit, found, line⟩ := (stands.of_isPrefix (List.prefix_append _ _)).exists_hit named
    simp [sighting?, record?, named, found, Sighting.record, line, stands.codeBetween_eq]

/-- The first of some parameters is reported before the others. -/
theorem records_append {index : Nat} {following : List Token} (ends : EndsParameter following)
    (stands : StandsAt view.tokens index (parameter.tokens ++ following)) :
    (parametersFrom view index (parameter.tokens ++ following)).map (Sighting.record view.tokens) =
      (parameter.record? view).toList ++
        (parametersFrom view (index + parameter.tokens.length) following).map
          (Sighting.record view.tokens) := by
  have written : StandsAt view.tokens index
      (parameter.modifiers ++ (parameter.hint ++ parameter.default)) :=
    stands.of_isPrefix (List.prefix_append _ _)
  have placed := written.of_append.of_isPrefix (List.prefix_append _ _)
  rw [parametersFrom_tokens view index parameter ends, List.map_append, ← record_sighting? placed]
  cases parameter.sighting? view (index + parameter.modifiers.length) <;> rfl

/-- The parameters of a list are reported in order, and nothing else is. -/
theorem records_of_listsParameters (lists : ListsParameters parameters inside) {index : Nat}
    (stands : StandsAt view.tokens index inside) :
    (parametersFrom view index inside).map (Sighting.record view.tokens) =
      parameters.filterMap (record? view) := by
  induction lists generalizing index with
  | nil isBlank =>
    have passed := parametersFrom_append_passed view index
      (fun token inside => startsType_of_isTrivia (isBlank token inside)) []
    rw [List.append_nil, parametersFrom] at passed
    rw [passed]
    rfl
  | last parameter =>
    rw [← List.append_nil parameter.tokens] at stands ⊢
    rw [records_append endsParameter_nil stands, parametersFrom]
    cases found : parameter.record? view <;> simp [found]
  | @cons parameter comma parameters rest isComma others inductionHypothesis =>
    have passed : comma.startsType = false := by
      simp [Token.startsType, isNamePart, TokenKind.isNamePart, isComma.1]
    rw [records_append (endsParameter_cons isComma rest) stands,
      parametersFrom_of_not_startsType passed, inductionHypothesis stands.of_append.tail]
    cases found : parameter.record? view <;> simp [found]

theorem tokens_parenBalanced (parameter : WrittenParameter) : ParenBalanced parameter.tokens := by
  refine (parenBalanced_of_flat fun token inside => ?_).append
    ((parenBalanced_of_flat fun token inside => ?_).append parameter.default_passes.parenBalanced)
  · exact (parameter.modifiers_pass token inside).elim isFlat_of_isTrivia isFlat_of_isModifier
  · simp only [hint, List.mem_append, List.mem_singleton] at inside
    rcases inside with inType | inReference | inEllipsis | rfl
    · rcases parameter.type_reads with untyped | reads
      · rw [untyped] at inType
        cases inType
      · exact isFlat_of_isTyped (reads.typed token inType)
    · exact parameter.reference_holds.isFlat token inReference
    · exact parameter.ellipsis_holds.isFlat token inEllipsis
    · exact isFlat_of_isVariable parameter.name_isVariable

end WrittenParameter

theorem ListsParameters.parenBalanced {parameters : List WrittenParameter} {inside : List Token}
    (lists : ListsParameters parameters inside) : Token.ParenBalanced inside := by
  induction lists with
  | nil isBlank =>
    exact Token.parenBalanced_of_flat fun token inside =>
      Token.isFlat_of_isTrivia (isBlank token inside)
  | last parameter => exact parameter.tokens_parenBalanced
  | cons parameter isComma others inductionHypothesis =>
    refine parameter.tokens_parenBalanced.append (.flat ⟨?_, ?_⟩ inductionHypothesis)
    · exact Token.isMark_of_ne isComma.isMark (by decide)
    · exact Token.isMark_of_ne isComma.isMark (by decide)

namespace Place

open Token

variable {view : View} {place : Place} {parameters : List WrittenParameter}

/-- A function reports those of its parameters whose type names the target, in order: each once, with the
line of the first such name and the text from the type up to the name of the parameter. -/
theorem parameters_reported_once (member : place ∈ list view.tokens)
    {reference name inside rest : List Token} {opens closes : Token}
    (isReference : HoldsAtMost "&" reference) (isName : IsFunctionName name)
    (isOpen : opens.IsSpelled .openParen) (lists : ListsParameters parameters inside)
    (isClose : closes.isMark .closeParen = true)
    (after : place.after = reference ++ (name ++ opens :: (inside ++ closes :: rest))) :
    (parameterSightings view place).map (Sighting.record view.tokens) =
      parameters.filterMap (WrittenParameter.record? view) := by
  have begins : afterParameterParen? place.after = some (inside ++ closes :: rest) := by
    rw [after, afterParameterParen?_eq isReference isName isOpen]
  have placed := (standsAt_indexOf member (afterParameterParen?_suffix begins)).of_isPrefix
    (List.prefix_append _ _)
  rw [parameterSightings_eq, begins]
  simp only [lists.parenBalanced.insideParen_eq isClose]
  exact WrittenParameter.records_of_listsParameters lists placed

section Sample

/-- An untyped parameter with a default value that names a class in parentheses. -/
def sampleUntyped : WrittenParameter where
  modifiers := [⟨.keyword .readonlyWord, "readonly", 1⟩, ⟨.whitespace, " ", 1⟩]
  type := []
  reference := []
  ellipsis := []
  name := ⟨.variableName, "$x", 1⟩
  default := [⟨.other, "=", 1⟩, ⟨.name, "f", 1⟩, ⟨.mark .openParen, "(", 1⟩, ⟨.name, "A", 1⟩,
    ⟨.mark .closeParen, ")", 1⟩]
  modifiers_pass := by
    simp only [List.forall_mem_cons, List.not_mem_nil, false_implies, implies_true, and_true]
    exact ⟨.inr (.inl ⟨_, rfl⟩), .inl rfl⟩
  type_reads := .inl rfl
  reference_holds := .inl rfl
  ellipsis_holds := .inl rfl
  name_isVariable := rfl
  name_isName := by decide
  default_passes := by
    refine .inr ⟨[], _, _, rfl, nofun, ⟨rfl, rfl⟩, ?_, by decide⟩
    have flat : ∀ text, (⟨.name, text, 1⟩ : Token).IsFlat := fun _ => ⟨rfl, rfl⟩
    exact .flat (flat "f") (.paren rfl (.flat (flat "A") .nil) rfl .nil)

/-- A parameter that takes all further arguments by reference, of one of two types. -/
def sampleVariadic : WrittenParameter where
  modifiers := [⟨.comment, "/**/", 2⟩]
  type := [⟨.other, "?", 2⟩, ⟨.name, "B", 2⟩, ⟨.other, "|", 2⟩, ⟨.name, "A", 3⟩]
  reference := [⟨.whitespace, " ", 3⟩, ⟨.other, "&", 3⟩]
  ellipsis := [⟨.other, "...", 3⟩]
  name := ⟨.variableName, "$y", 3⟩
  default := []
  modifiers_pass := by
    rw [List.forall_mem_singleton]
    exact .inl rfl
  type_reads := .inr ⟨⟨_, _, rfl, by decide⟩, by decide,
    ⟨[⟨.other, "?", 2⟩, ⟨.name, "B", 2⟩, ⟨.other, "|", 2⟩], _, rfl, rfl⟩⟩
  reference_holds := .inr ⟨_, ⟨rfl, rfl⟩, rfl⟩
  ellipsis_holds := .inr ⟨_, ⟨rfl, rfl⟩, rfl⟩
  name_isVariable := rfl
  name_isName := by decide
  default_passes := .inl nofun

/-- A function with two parameters and a comma at the end of its list. -/
def sampleSignature : Place where
  before := []
  token := ⟨.keyword .functionWord, "function", 1⟩
  after := [⟨.other, "&", 1⟩] ++ ([⟨.name, "g", 1⟩] ++ ⟨.mark .openParen, "(", 1⟩ ::
    ((sampleUntyped.tokens ++ ⟨.mark .comma, ",", 1⟩ ::
      (sampleVariadic.tokens ++ [⟨.mark .comma, ",", 3⟩])) ++ [⟨.mark .closeParen, ")", 3⟩]))

/-- A parameter is reported once, with all of its type; one that is untyped is not, also when its default
value names the target. -/
theorem parameters_reported_once_variadic :
    let view := View.ofTokens (sampleSignature.token :: sampleSignature.after) "A"
    (parameterSightings view sampleSignature).map (Sighting.record view.tokens) =
      [.found 3 .typeHint "?B|A &...$y" none] := by
  intro view
  have lists : ListsParameters [sampleUntyped, sampleVariadic] (sampleUntyped.tokens ++
      ⟨.mark .comma, ",", 1⟩ :: (sampleVariadic.tokens ++ [⟨.mark .comma, ",", 3⟩])) :=
    .cons sampleUntyped ⟨rfl, rfl⟩ (.cons sampleVariadic ⟨rfl, rfl⟩ (.nil nofun))
  have named : sampleVariadic.type.find? view.namesTarget = some ⟨.name, "A", 3⟩ := by decide +kernel
  have text : Token.code sampleVariadic.hint = "?B|A &...$y" := by decide +kernel
  have member : sampleSignature ∈ list view.tokens :=
    mem_list_append [] sampleSignature.token sampleSignature.after
  have isName : IsFunctionName [⟨.name, "g", 1⟩] := .inr ⟨_, rfl, rfl, by decide⟩
  rw [parameters_reported_once member (.inr ⟨_, ⟨rfl, rfl⟩, rfl⟩) isName ⟨rfl, rfl⟩ lists rfl rfl]
  simp [WrittenParameter.record?, named, text, show sampleUntyped.type = [] from rfl]

end Sample

end Place

end ClassAtlas
