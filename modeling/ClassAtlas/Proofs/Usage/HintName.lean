import ClassAtlas.Proofs.Token.Depth
import ClassAtlas.Proofs.Usage.Correspondence

/-!
Where the name of a type hint stands.

A parameter is reported at a token inside the parameter list of its function, a result type at a token
past that list and at the depth of its opening parenthesis, and a property at a token that follows its
visibility with nothing in between but trivia, property words and parts of its type.
-/

namespace ClassAtlas

namespace Token

theorem exists_paren_of_afterParameterParen? {tokens rest : List Token}
    (found : afterParameterParen? tokens = some rest) :
    ∃ paren, paren.isMark .openParen = true ∧ paren :: rest <:+ tokens := by
  simp only [afterParameterParen?] at found
  split at found
  case h_2 => cases found
  case h_1 paren tail reached =>
    split at found
    case isFalse => cases found
    case isTrue opens =>
      cases found
      refine ⟨paren, opens, ?_⟩
      rw [← reached]
      exact (passIf_suffix _ _).trans ((passIf_suffix _ _).trans (skipTrivia_suffix tokens))

/-- Whether a token is no parenthesis and begins no function. -/
def IsQuiet (token : Token) : Prop := token.IsFlat ∧ Detector.isFunctionWord token = false

/-- Whether a token can stand between a visibility and the name that a property is reported at. -/
def IsPropertyPart (token : Token) : Prop :=
  token.isTyped = true ∨ token.isKeyword .staticWord = true ∨ token.isKeyword .readonlyWord = true

theorem kind_of_isTyped {token : Token} (typed : token.isTyped = true) :
    (∀ mark, token.isMark mark = false) ∧ ∀ word, token.isKeyword word = false := by
  simp only [isTyped, isNamePart, TokenKind.isNamePart, isTypePunctuation, isTrivia,
    TokenKind.isTrivia, Bool.or_eq_true, Bool.and_eq_true, beq_iff_eq] at typed
  constructor
  · intro mark
    rcases typed with ((kind | kind) | ⟨kind, -⟩) | kind | kind <;> simp [isMark, kind]
  · intro word
    rcases typed with ((kind | kind) | ⟨kind, -⟩) | kind | kind <;> simp [isKeyword, kind]

theorem isMark_of_isPropertyPart {token : Token} (part : token.IsPropertyPart) (mark : Mark) :
    token.isMark mark = false := by
  rcases part with typed | isWord | isWord
  · exact (kind_of_isTyped typed).1 mark
  · exact isMark_of_isKeyword isWord mark
  · exact isMark_of_isKeyword isWord mark

theorem isQuiet_of_isTyped {token : Token} (typed : token.isTyped = true) : token.IsQuiet := by
  obtain ⟨noMark, noWord⟩ := kind_of_isTyped typed
  exact ⟨⟨noMark _, noMark _⟩, by simp [Detector.isFunctionWord, noWord]⟩

theorem isQuiet_of_isColon {token : Token} (isColon : token.isMark .colon = true) : token.IsQuiet :=
  ⟨⟨isMark_of_ne isColon (by decide), isMark_of_ne isColon (by decide)⟩,
    by simp [Detector.isFunctionWord, isKeyword_of_isMark isColon]⟩

theorem isQuiet_of_isUse {token : Token} (isUse : token.isKeyword .useWord = true) :
    token.IsQuiet := by
  refine ⟨⟨isMark_of_isKeyword isUse _, isMark_of_isKeyword isUse _⟩, ?_⟩
  simp only [isKeyword, beq_iff_eq] at isUse
  simp [Detector.isFunctionWord, isKeyword, isUse]

end Token

namespace Place

variable {file : List Token} {place : Place}

theorem between_skipTrivia_quiet (member : place ∈ list file) {tokens : List Token}
    (ahead : tokens <:+ place.after) :
    Token.Between file (place.indexOf tokens) (place.indexOf (Token.skipTrivia tokens))
      Token.IsQuiet :=
  (between_skipTrivia member ahead).mono fun _ => Token.isQuiet_of_isTyped

/-- Position of the end of the parameter list of the function whose keyword stands at a place: its
closing parenthesis, or the end of the file. Absent if no list follows. -/
def parameterEnd? (place : Place) : Option Nat :=
  (Token.afterParameterParen? place.after).map fun tokens =>
    place.indexOf tokens + (Token.insideParen tokens).length

end Place

/-- What is known of the parameter list of a function: it opens after the keyword, and up to its end
the depth is above that at its opening. -/
structure ParameterList (file : List Token) (keyword opening stop : Nat) : Prop where
  keyword_lt_opening : keyword < opening
  opens : ∃ paren, file[opening]? = some paren ∧ paren.isMark .openParen = true
  opening_lt_stop : opening < stop
  deeper : ∀ index, opening < index → index ≤ stop →
    Token.depthAt file opening < Token.depthAt file index

/-- What is known of a name in the result type of a function: it follows the closing parenthesis of the
parameter list, at the depth of the opening one, and the name is preceded by a colon and parts of the
type. If a function begins in between, the parentheses that open after it are deeper. -/
structure ResultName (file : List Token) (opening stop anchor : Nat) : Prop where
  closes : ∃ paren, file[stop]? = some paren ∧ paren.isMark .closeParen = true
  stop_lt_anchor : stop < anchor
  level : Token.depthAt file anchor = Token.depthAt file opening
  nested : ∀ keyword word index paren, stop < keyword → keyword < index → index < anchor →
    file[keyword]? = some word → Detector.isFunctionWord word = true →
    file[index]? = some paren → paren.isMark .openParen = true →
      Token.depthAt file opening < Token.depthAt file index
  colon : ∃ index sign, index < anchor ∧ file[index]? = some sign ∧ sign.isMark .colon = true ∧
    Token.Between file (index + 1) anchor (·.isTyped = true)

/-- What is known of the name that a property is reported at: its visibility stands outside all
parentheses, and only parts of a property stand between the two. -/
structure PropertyName (file : List Token) (keyword anchor : Nat) : Prop where
  level : Token.depthAt file keyword = 0
  keyword_lt_anchor : keyword < anchor
  parts : Token.Between file (keyword + 1) anchor Token.IsPropertyPart

namespace ResultName

variable {file : List Token} {opening stop anchor : Nat}

/-- The name of a result type that directly follows a parameter list. -/
theorem of_quiet (closes : ∃ paren, file[stop]? = some paren ∧ paren.isMark .closeParen = true)
    (past : Token.depthAt file (stop + 1) = Token.depthAt file opening) (later : stop < anchor)
    (quiet : Token.Between file (stop + 1) anchor Token.IsQuiet)
    (colon : ∃ index sign, index < anchor ∧ file[index]? = some sign ∧ sign.isMark .colon = true ∧
      Token.Between file (index + 1) anchor (·.isTyped = true)) :
    ResultName file opening stop anchor where
  closes := closes
  stop_lt_anchor := later
  level := (Token.depthAt_eq_of_flat (quiet.mono fun _ isQuiet => isQuiet.1) later).trans past
  nested := by
    intro keyword word index paren begins _ ends _ _ stands opens
    have isQuiet := quiet index paren (by omega) ends stands
    rw [isQuiet.1.1] at opens
    cases opens
  colon := colon

/-- The name of a result type that follows the variables which a closure binds. -/
theorem of_binding {bound closing : Nat}
    (closes : ∃ paren, file[stop]? = some paren ∧ paren.isMark .closeParen = true)
    (past : Token.depthAt file (stop + 1) = Token.depthAt file opening) (later : stop < bound)
    (early : Token.Between file (stop + 1) bound Token.IsQuiet)
    (deeper : ∀ index, bound < index → index ≤ closing →
      Token.depthAt file bound < Token.depthAt file index)
    (beyond : Token.depthAt file (closing + 1) = Token.depthAt file bound)
    (bound_lt_closing : bound < closing) (closing_lt_anchor : closing < anchor)
    (late : Token.Between file (closing + 1) anchor Token.IsQuiet)
    (colon : ∃ index sign, index < anchor ∧ file[index]? = some sign ∧ sign.isMark .colon = true ∧
      Token.Between file (index + 1) anchor (·.isTyped = true)) :
    ResultName file opening stop anchor := by
  have boundLevel : Token.depthAt file bound = Token.depthAt file opening :=
    (Token.depthAt_eq_of_flat (early.mono fun _ isQuiet => isQuiet.1) later).trans past
  refine ⟨closes, by omega, ?_, ?_, colon⟩
  · calc Token.depthAt file anchor
        = Token.depthAt file (closing + 1) :=
          Token.depthAt_eq_of_flat (late.mono fun _ isQuiet => isQuiet.1) closing_lt_anchor
      _ = Token.depthAt file bound := beyond
      _ = Token.depthAt file opening := boundLevel
  -- The function begins past the word `use`, so the parenthesis is one inside the binding.
  · intro keyword word index paren begins ordered ends isWord begun stands opens
    have notQuiet : ¬ paren.IsQuiet := fun isQuiet => by
      rw [isQuiet.1.1] at opens
      cases opens
    have notEarly : bound ≤ keyword := by
      by_contra before
      have isQuiet := early keyword word begins (by omega) isWord
      rw [isQuiet.2] at begun
      cases begun
    by_cases inside : index ≤ closing
    · exact boundLevel ▸ deeper index (by omega) inside
    · exact absurd (late index paren (by omega) ends stands) notQuiet

end ResultName

namespace Place

variable {view : View} {place : Place} {sighting : Sighting}

section Parameters

theorem exists_parameterList {file tokens : List Token} {place : Place} (member : place ∈ list file)
    (opens : Token.afterParameterParen? place.after = some tokens) :
    ∃ paren, paren.isMark .openParen = true ∧ paren :: tokens <:+ place.after ∧
      ParameterList file place.index (place.indexOf (paren :: tokens))
        (place.indexOf tokens + (Token.insideParen tokens).length) := by
  obtain ⟨paren, isOpen, ahead⟩ := Token.exists_paren_of_afterParameterParen? opens
  have stands := getElem?_indexOf member ahead
  have next := indexOf_tail ahead
  refine ⟨paren, isOpen, ahead, index_lt_indexOf place _, ⟨paren, stands, isOpen⟩, by omega,
    fun index begins ends => ?_⟩
  rw [next] at ends
  exact Token.lt_depthAt_of_inside stands isOpen (drop_indexOf_tail member ahead) begins ends

theorem pairwise_toList {holds : Sighting → Sighting → Prop} (found : Option Sighting) :
    found.toList.Pairwise holds := by
  cases found with
  | none => exact .nil
  | some sighting => exact List.pairwise_singleton _ _

/-- Parameters are reported at tokens of the list, further and further on. -/
theorem parametersFrom_anchors (view : View) (index : Nat) (tokens : List Token) :
    (∀ sighting ∈ parametersFrom view index tokens,
        index ≤ sighting.anchor ∧ sighting.anchor < index + tokens.length) ∧
      (parametersFrom view index tokens).Pairwise fun first second => first.anchor < second.anchor := by
  fun_induction parametersFrom view index tokens with
  | case1 => exact ⟨by simp, .nil⟩
  | case2 index token rest starts type size others parameter inductionHypothesis =>
    obtain ⟨later, increasing⟩ := inductionHypothesis
    have typeLength : type.length ≤ (token :: rest).length := Token.length_typeAhead_le _
    have sizeLength : size ≤ (token :: rest).length := by
      simp only [size, List.length_cons] at typeLength ⊢
      omega
    -- The name found lies in the type, and the other parameters are read from its end on.
    have here : ∀ sighting ∈ parameter.toList,
        index ≤ sighting.anchor ∧ sighting.anchor < index + size := by
      intro sighting found
      simp only [parameter, Option.mem_toList, Option.bind_eq_bind, Option.bind_eq_some_iff,
        Option.some.injEq] at found
      obtain ⟨after, -, hit, named, rfl⟩ := found
      have inside := (List.findIdx?_eq_some_iff_getElem.mp named).1
      simp only [size]
      omega
    constructor
    · refine List.forall_mem_append.mpr ⟨fun sighting found => ?_, fun sighting found => ?_⟩
      · have bounds := here sighting found
        omega
      · have bounds := later sighting found
        rw [List.length_drop] at bounds
        omega
    · refine List.pairwise_append.mpr ⟨?_, increasing, fun first found second following => ?_⟩
      · exact pairwise_toList parameter
      · have bounds := here first found
        have laterBounds := later second following
        omega
  | case3 index token rest _ inductionHypothesis =>
    obtain ⟨later, increasing⟩ := inductionHypothesis
    refine ⟨fun sighting found => ?_, increasing⟩
    have bounds := later sighting found
    rw [List.length_cons]
    omega

theorem parameterSightings_eq (view : View) (place : Place) :
    parameterSightings view place =
      match Token.afterParameterParen? place.after with
      | none => []
      | some tokens => parametersFrom view (place.indexOf tokens) (Token.insideParen tokens) := rfl

/-- A parameter is reported at a token of the parameter list. -/
theorem anchor_of_mem_parameterSightings (member : place ∈ list view.tokens)
    (found : sighting ∈ parameterSightings view place) :
    ∃ opening stop, place.parameterEnd? = some stop ∧
      ParameterList view.tokens place.index opening stop ∧ opening < sighting.anchor ∧
      sighting.anchor < stop := by
  rw [parameterSightings_eq] at found
  split at found
  case h_1 => cases found
  case h_2 tokens opens =>
    obtain ⟨paren, -, ahead, parameters⟩ := exists_parameterList member opens
    have next := indexOf_tail ahead
    have bounds := (parametersFrom_anchors view _ _).1 sighting found
    refine ⟨_, _, by rw [parameterEnd?, opens]; rfl, parameters, ?_, bounds.2⟩
    omega

theorem parameterSightings_increasing (view : View) (place : Place) :
    (parameterSightings view place).Pairwise fun first second => first.anchor < second.anchor := by
  rw [parameterSightings_eq]
  split
  · exact .nil
  · exact (parametersFrom_anchors view _ _).2

end Parameters

section Properties

/-- Only trivia and property words are passed before the type of a property. -/
theorem exists_passed_of_skipPropertyWords (tokens : List Token) :
    ∃ passed, tokens = passed ++ skipPropertyWords tokens ∧
      ∀ token ∈ passed, token.IsPropertyPart := by
  have blank : ∀ tokens : List Token,
      ∀ token ∈ tokens.takeWhile Token.isTrivia, token.IsPropertyPart := fun tokens token inside =>
    .inl (Token.isTyped_of_isTrivia (List.all_eq_true.mp List.all_takeWhile token inside))
  have split : ∀ tokens : List Token,
      tokens = tokens.takeWhile Token.isTrivia ++ Token.skipTrivia tokens := fun tokens =>
    List.takeWhile_append_dropWhile.symm
  fun_induction skipPropertyWords tokens with
  | case1 tokens ahead =>
    exact ⟨tokens.takeWhile Token.isTrivia, by rw [← ahead, ← split], blank tokens⟩
  | case2 tokens token rest ahead isWord inductionHypothesis =>
    obtain ⟨passed, equal, parts⟩ := inductionHypothesis
    have whole := split tokens
    rw [ahead] at whole
    refine ⟨tokens.takeWhile Token.isTrivia ++ token :: passed, ?_, ?_⟩
    · rw [List.append_assoc, List.cons_append, ← equal]
      exact whole
    · refine List.forall_mem_append.mpr ⟨blank tokens, List.forall_mem_cons.mpr ⟨?_, parts⟩⟩
      rw [Bool.or_eq_true] at isWord
      exact .inr isWord
  | case3 tokens token rest ahead isOther =>
    exact ⟨tokens.takeWhile Token.isTrivia, by rw [← ahead, ← split], blank tokens⟩

theorem isTyped_of_mem_typeAhead {tokens : List Token} {token : Token}
    (member : token ∈ Token.typeAhead tokens) : token.isTyped = true := by
  have inRun : token ∈ tokens.takeWhile Token.isTyped := by
    have kept := List.mem_reverse.mp member
    exact List.mem_reverse.mp ((List.dropWhile_suffix _).subset kept)
  exact List.all_eq_true.mp List.all_takeWhile token inRun

/-- Up to a token of a type there are only parts of it. -/
theorem between_typeAhead {file tokens : List Token} {place : Place} (member : place ∈ list file)
    (ahead : tokens <:+ place.after) {hit : Nat} (inside : hit ≤ (Token.typeAhead tokens).length) :
    Token.Between file (place.indexOf tokens) (place.indexOf tokens + hit) (·.isTyped = true) := by
  have typed := ((standsAt_indexOf member ahead).of_isPrefix (Token.typeAhead_isPrefix tokens)).between
    fun token inType => isTyped_of_mem_typeAhead inType
  exact typed.narrow (Nat.le_refl _) (by omega)

/-- A property is reported at a name that only parts of a property separate from its visibility. -/
theorem anchor_of_mem_propertySightings (member : place ∈ list view.tokens)
    (found : sighting ∈ propertySightings view place) :
    PropertyName view.tokens place.index sighting.anchor := by
  simp only [propertySightings] at found
  split at found
  · cases found
  case isFalse outside =>
    split at found
    · cases found
    split at found
    case isFalse => cases found
    case isTrue =>
      split at found
      · cases found
      split at found
      case isFalse => cases found
      case isTrue =>
        split at found
        · cases found
        case h_2 hit named =>
          rw [List.mem_singleton] at found
          subst found
          have ahead := skipPropertyWords_suffix place.after
          obtain ⟨passed, split, parts⟩ := exists_passed_of_skipPropertyWords place.after
          have words : Token.Between view.tokens (place.index + 1)
              (place.indexOf (skipPropertyWords place.after)) Token.IsPropertyPart := by
            have whole : passed ++ skipPropertyWords place.after <:+ place.after :=
              split ▸ List.suffix_rfl
            have between := between_indexOf member whole parts
            rwa [← split, indexOf_after] at between
          have inside := (List.findIdx?_eq_some_iff_getElem.mp named).1
          refine ⟨?_, ?_, words.trans ((between_typeAhead member ahead (Nat.le_of_lt inside)).mono
            fun token typed => .inl typed)⟩
          · rw [depthAt_index member]
            omega
          · have later := index_lt_indexOf place (skipPropertyWords place.after)
            simp only
            omega

end Properties

section Results

/-- What a closure binds stands in parentheses after `use`; otherwise nothing is passed. -/
theorem afterBinding?_cases {tokens ahead : List Token} (found : afterBinding? tokens = some ahead) :
    ahead = tokens ∨
      ∃ use rest paren bound inside after, tokens = use :: rest ∧ use.isKeyword .useWord = true ∧
        Token.skipTrivia rest = paren :: bound ∧ paren.isMark .openParen = true ∧
        Token.closeParen? 0 bound = some (inside, after) ∧ ahead = Token.skipTrivia after := by
  cases tokens with
  | nil => exact .inl (Option.some.inj found).symm
  | cons use rest =>
    simp only [afterBinding?] at found
    split at found
    case isFalse => exact .inl (Option.some.inj found).symm
    case isTrue isUse =>
      split at found
      case h_2 => cases found
      case h_1 paren bound reached =>
        split at found
        case isFalse => cases found
        case isTrue opens =>
          obtain ⟨⟨inside, after⟩, closes, rfl⟩ := Option.map_eq_some_iff.mp found
          exact .inr ⟨use, rest, paren, bound, inside, after, rfl, isUse, reached, opens, closes, rfl⟩

/-- A result type is reported at a name that only parts of the type separate from its colon. -/
theorem anchor_of_resultType? {ahead : List Token} (member : place ∈ list view.tokens)
    (placed : ahead <:+ place.after) (found : resultType? view place ahead = some sighting) :
    place.indexOf ahead < sighting.anchor ∧
      Token.Between view.tokens (place.indexOf ahead) sighting.anchor Token.IsQuiet ∧
      ∃ sign, view.tokens[place.indexOf ahead]? = some sign ∧ sign.isMark .colon = true ∧
        Token.Between view.tokens (place.indexOf ahead + 1) sighting.anchor (·.isTyped = true) := by
  cases ahead with
  | nil => cases found
  | cons colon rest =>
    simp only [resultType?] at found
    split at found
    case isFalse => cases found
    case isTrue isColon =>
      obtain ⟨first, -, found⟩ := Option.bind_eq_some_iff.mp found
      split at found
      case isFalse => cases found
      case isTrue =>
        obtain ⟨hit, named, found⟩ := Option.bind_eq_some_iff.mp found
        cases found
        have stands := getElem?_indexOf member placed
        have next := indexOf_tail placed
        have restPlaced := (List.suffix_cons colon rest).trans placed
        have typedPlaced := (Token.skipTrivia_suffix rest).trans restPlaced
        have inside := (List.findIdx?_eq_some_iff_getElem.mp named).1
        have blanks := between_skipTrivia member restPlaced
        have typed := blanks.trans (between_typeAhead member typedPlaced (Nat.le_of_lt inside))
        rw [next] at typed
        have ordered := indexOf_le_indexOf restPlaced (Token.skipTrivia_suffix rest)
        refine ⟨by simp only; omega, ?_, colon, stands, isColon, typed⟩
        exact (Token.between_single stands (Token.isQuiet_of_isColon isColon)).trans
          (typed.mono fun _ => Token.isQuiet_of_isTyped)

/-- The name of a result type is at the depth of the parameter list before it, also past the variables
that a closure binds. -/
theorem resultName_of_afterBinding {after ahead : List Token} {opening stop anchor : Nat}
    (member : place ∈ list view.tokens) (placed : after <:+ place.after)
    (begins : place.indexOf after = stop + 1)
    (closes : ∃ paren, view.tokens[stop]? = some paren ∧ paren.isMark .closeParen = true)
    (past : Token.depthAt view.tokens (stop + 1) = Token.depthAt view.tokens opening)
    (binding : afterBinding? (Token.skipTrivia after) = some ahead)
    (before : place.indexOf ahead < anchor)
    (quiet : Token.Between view.tokens (place.indexOf ahead) anchor Token.IsQuiet)
    (colon : ∃ index sign, index < anchor ∧ view.tokens[index]? = some sign ∧
      sign.isMark .colon = true ∧
      Token.Between view.tokens (index + 1) anchor (·.isTyped = true)) :
    ResultName view.tokens opening stop anchor := by
  have blanks := between_skipTrivia_quiet member placed
  have later := indexOf_le_indexOf placed (Token.skipTrivia_suffix after)
  rw [begins] at blanks later
  rcases afterBinding?_cases binding with rfl |
    ⟨use, rest, paren, bound, inside, beyond, isAhead, isUse, reached, opens, closed, rfl⟩
  · exact .of_quiet closes past (by omega) (blanks.trans quiet) colon
  · rw [isAhead] at blanks later
    have useAhead : use :: rest <:+ place.after :=
      isAhead ▸ (Token.skipTrivia_suffix after).trans placed
    have restAhead := (List.suffix_cons use rest).trans useAhead
    have useQuiet := Token.between_single (getElem?_indexOf member useAhead)
      (Token.isQuiet_of_isUse isUse)
    have useBefore := indexOf_tail useAhead
    rw [← useBefore] at useQuiet
    have spaces := between_skipTrivia_quiet member restAhead
    have spacesBefore := indexOf_le_indexOf restAhead (Token.skipTrivia_suffix rest)
    rw [reached] at spaces spacesBefore
    -- What the closure binds is enclosed in parentheses, like the parameters.
    have boundAhead : paren :: bound <:+ place.after :=
      reached ▸ (Token.skipTrivia_suffix rest).trans restAhead
    have stands := getElem?_indexOf member boundAhead
    have tail := drop_indexOf_tail member boundAhead
    obtain ⟨-, boundPast, -⟩ := Token.exists_closing stands opens tail closed
    have beyondAhead : beyond <:+ place.after :=
      (Token.closeParen?_parts closed).2.trans ((List.suffix_cons paren bound).trans boundAhead)
    have lateBlanks := between_skipTrivia_quiet member beyondAhead
    have lateBefore := indexOf_le_indexOf beyondAhead (Token.skipTrivia_suffix beyond)
    rw [indexOf_afterParen member boundAhead opens closed] at lateBlanks lateBefore
    refine .of_binding closes past (by omega) (blanks.trans (useQuiet.trans spaces))
      (fun index begins ends => ?_) boundPast (by omega) (by omega) (lateBlanks.trans quiet) colon
    refine Token.lt_depthAt_of_inside stands opens tail begins ?_
    rw [Token.insideParen_eq closed]
    exact ends

/-- A result type is reported past the parameter list, at the depth of its opening parenthesis. -/
theorem anchor_of_mem_returnTypeSightings (member : place ∈ list view.tokens)
    (found : sighting ∈ returnTypeSightings view place) :
    ∃ opening stop, place.parameterEnd? = some stop ∧
      ParameterList view.tokens place.index opening stop ∧
      ResultName view.tokens opening stop sighting.anchor := by
  rw [returnTypeSightings_eq, Option.mem_toList] at found
  obtain ⟨tokens, opens, found⟩ := Option.bind_eq_some_iff.mp found
  obtain ⟨⟨inside, after⟩, closes, found⟩ := Option.bind_eq_some_iff.mp found
  obtain ⟨ahead, binding, found⟩ := Option.bind_eq_some_iff.mp found
  obtain ⟨paren, isOpen, parenAhead, parameters⟩ := exists_parameterList member opens
  have next := indexOf_tail parenAhead
  have listEnd : place.parameterEnd? = some (place.indexOf tokens + inside.length) := by
    rw [parameterEnd?, opens, Option.map_some, Token.insideParen_eq closes]
  rw [Token.insideParen_eq closes] at parameters
  refine ⟨_, _, listEnd, parameters, ?_⟩
  have afterAhead : after <:+ place.after :=
    (Token.closeParen?_parts closes).2.trans (Token.afterParameterParen?_suffix opens)
  have begins := indexOf_afterParen member parenAhead isOpen closes
  obtain ⟨closing, past, -⟩ := Token.exists_closing (getElem?_indexOf member parenAhead) isOpen
    (drop_indexOf_tail member parenAhead) closes
  rw [← next] at begins closing past
  have placed := resultType_suffix opens closes binding
  obtain ⟨before, quiet, sign, isSign, isColon, typed⟩ := anchor_of_resultType? member placed found
  exact resultName_of_afterBinding member afterAhead begins closing past binding before quiet
    ⟨_, sign, before, isSign, isColon, typed⟩

end Results

end Place

end ClassAtlas
