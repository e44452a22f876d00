import ClassAtlas.Name.Context
import ClassAtlas.Proofs.Token.Walk

/-!
How an import statement is read.

A statement is read token by token: trivia is passed, a name and a local name take their tokens
together, and any other token changes the state by itself or ends the statement. What every step keeps
holds of the statement as a whole, and nothing after the token that ends it matters.
-/

namespace ClassAtlas.Import

/-- Whether a token is read by itself: it is no trivia, no part of a name and not `as`. -/
def isSign (token : Token) : Bool :=
  !(token.isTrivia || token.isNamePart || token.isKeyword .asWord)

/-- The state after a token that is read by itself; absent if the token ends the statement. -/
def Reading.take? (reading : Reading) (token : Token) : Option Reading :=
  let ownKind := ImportKind.ofToken? token
  if ownKind.isSome && !reading.stem.isEmpty then
    some { reading with kind := ownKind.getD reading.kind }
  else if token.isMark .openBrace then some reading.openGroup
  else if token.isMark .comma then some reading.finish
  else if token.isMark .closeBrace then some { reading.finish with stem := "" }
  else none

/-- One step of reading: the state and the tokens ahead before it and after it. -/
inductive Step : Reading → List Token → Reading → List Token → Prop where
  | trivia {reading : Reading} {token : Token} {rest : List Token}
      (isTrivia : token.isTrivia = true) : Step reading (token :: rest) reading rest
  | name {reading : Reading} {token : Token} {rest : List Token}
      (isPart : token.isNamePart = true) :
      Step reading (token :: rest)
        { reading with current := reading.stem ++ token.text ++ Token.nameAhead rest }
        (Token.afterName rest)
  | asName {reading : Reading} {token next : Token} {rest after : List Token}
      (isAs : token.isKeyword .asWord = true) (ahead : Token.skipTrivia rest = next :: after)
      (isName : next.kind = .name) :
      Step reading (token :: rest) { reading with localName := next.text } after
  | asOther {reading : Reading} {token next : Token} {rest after : List Token}
      (isAs : token.isKeyword .asWord = true) (ahead : Token.skipTrivia rest = next :: after)
      (notName : next.kind ≠ .name) : Step reading (token :: rest) reading (next :: after)
  | sign {reading next : Reading} {token : Token} {rest : List Token}
      (isSign : isSign token = true) (taken : reading.take? token = some next) :
      Step reading (token :: rest) next rest

/-- The places at which a statement ends, with the tokens left there. -/
inductive Ends : Reading → List Token → List Token → Prop where
  | nil {reading : Reading} : Ends reading [] []
  | afterAs {reading : Reading} {token : Token} {rest : List Token}
      (isAs : token.isKeyword .asWord = true) (ahead : Token.skipTrivia rest = []) :
      Ends reading (token :: rest) []
  | stop {reading : Reading} {token : Token} {rest : List Token} (isSign : isSign token = true)
      (stops : reading.take? token = none) : Ends reading (token :: rest) (token :: rest)

theorem not_isTrivia_of_isAs {token : Token} (isAs : token.isKeyword .asWord = true) :
    token.isTrivia = false ∧ token.isNamePart = false := by
  have kind : token.kind = .keyword .asWord := by simpa [Token.isKeyword] using isAs
  rw [Token.isTrivia, Token.isNamePart, kind]
  exact ⟨rfl, rfl⟩

theorem readClauses_of_sign (reading : Reading) {token : Token} (rest : List Token)
    (sign : isSign token = true) :
    readClauses reading (token :: rest) =
      match reading.take? token with
      | some next => readClauses next rest
      | none => (reading.finish, token :: rest) := by
  simp only [isSign, Bool.not_eq_true', Bool.or_eq_false_iff] at sign
  obtain ⟨⟨notTrivia, notPart⟩, notAs⟩ := sign
  rw [readClauses, if_neg (by simp [notTrivia]), if_neg (by simp [notPart]),
    if_neg (by simp [notAs])]
  simp only [Reading.take?]
  split
  · rfl
  split
  · rfl
  split
  · rfl
  split <;> rfl

theorem readClauses_of_as (reading : Reading) {token : Token} (rest : List Token)
    (isAs : token.isKeyword .asWord = true) :
    readClauses reading (token :: rest) =
      match Token.skipTrivia rest with
      | [] => (reading.finish, [])
      | next :: after =>
        if next.kind == .name then readClauses { reading with localName := next.text } after
        else readClauses reading (next :: after) := by
  obtain ⟨notTrivia, notPart⟩ := not_isTrivia_of_isAs isAs
  rw [readClauses, if_neg (by simp [notTrivia]), if_neg (by simp [notPart]), if_pos isAs]
  split <;> split <;> simp_all

/-- A step does not change what is read in the end. -/
theorem Step.readClauses_eq {reading next : Reading} {tokens rest : List Token}
    (step : Step reading tokens next rest) :
    readClauses reading tokens = readClauses next rest := by
  cases step with
  | trivia isTrivia => rw [readClauses, if_pos isTrivia]
  | name isPart =>
    rw [readClauses, if_neg (by simp [Token.not_isTrivia_of_isNamePart isPart]), if_pos isPart]
  | asName isAs ahead isName => simp [readClauses_of_as reading _ isAs, ahead, isName]
  | asOther isAs ahead notName => simp [readClauses_of_as reading _ isAs, ahead, notName]
  | sign isSign taken => rw [readClauses_of_sign reading _ isSign, taken]

theorem Ends.readClauses_eq {reading : Reading} {tokens left : List Token}
    (ends : Ends reading tokens left) : readClauses reading tokens = (reading.finish, left) := by
  cases ends with
  | nil => rw [readClauses]
  | afterAs isAs ahead => rw [readClauses_of_as reading _ isAs, ahead]
  | stop isSign stops => rw [readClauses_of_sign reading _ isSign, stops]

/-- Induction along the reading of a statement: it ends, or goes on with a step. -/
theorem readClauses_induction {motive : Reading → List Token → Prop}
    (ends : ∀ reading tokens left, Ends reading tokens left → motive reading tokens)
    (step : ∀ reading tokens next rest, Step reading tokens next rest → motive next rest →
      motive reading tokens)
    (reading : Reading) (tokens : List Token) : motive reading tokens := by
  have isSignOf : ∀ {token : Token}, ¬ token.isTrivia = true → ¬ token.isNamePart = true →
      ¬ token.isKeyword .asWord = true → isSign token = true := by
    intro token notTrivia notPart notAs
    simp [isSign, notTrivia, notPart, notAs]
  induction reading, tokens using readClauses.induct with
  | case1 reading => exact ends reading _ _ .nil
  | case2 reading token rest isTrivia inductionHypothesis =>
    exact step reading _ _ _ (.trivia isTrivia) inductionHypothesis
  | case3 reading token rest _ isPart inductionHypothesis =>
    exact step reading _ _ _ (.name isPart) inductionHypothesis
  | case4 reading token rest _ _ isAs ahead => exact ends reading _ _ (.afterAs isAs ahead)
  | case5 reading token rest _ _ isAs next after ahead isName inductionHypothesis =>
    exact step reading _ _ _ (.asName isAs ahead (by simpa using isName)) inductionHypothesis
  | case6 reading token rest _ _ isAs next after ahead notName inductionHypothesis =>
    exact step reading _ _ _ (.asOther isAs ahead (by simpa using notName)) inductionHypothesis
  | case7 reading token rest notTrivia notPart notAs ownKind own inductionHypothesis =>
    exact step reading _ _ _ (.sign (isSignOf notTrivia notPart notAs)
      (by rw [Reading.take?, if_pos own])) inductionHypothesis
  | case8 reading token rest notTrivia notPart notAs ownKind own opens inductionHypothesis =>
    exact step reading _ _ _ (.sign (isSignOf notTrivia notPart notAs)
      (by rw [Reading.take?, if_neg own, if_pos opens])) inductionHypothesis
  | case9 reading token rest notTrivia notPart notAs ownKind own opens comma inductionHypothesis =>
    exact step reading _ _ _ (.sign (isSignOf notTrivia notPart notAs)
      (by rw [Reading.take?, if_neg own, if_neg opens, if_pos comma])) inductionHypothesis
  | case10 reading token rest notTrivia notPart notAs ownKind own opens comma closes
      inductionHypothesis =>
    exact step reading _ _ _ (.sign (isSignOf notTrivia notPart notAs)
      (by rw [Reading.take?, if_neg own, if_neg opens, if_neg comma, if_pos closes]))
      inductionHypothesis
  | case11 reading token rest notTrivia notPart notAs ownKind own opens comma closes =>
    exact ends reading _ _ (.stop (isSignOf notTrivia notPart notAs)
      (by rw [Reading.take?, if_neg own, if_neg opens, if_neg comma, if_neg closes]))

/-- A step leaves a tail of the tokens. -/
theorem Step.suffix {reading next : Reading} {tokens rest : List Token}
    (step : Step reading tokens next rest) : rest <:+ tokens := by
  cases step with
  | trivia isTrivia => exact List.suffix_cons _ _
  | name isPart => exact (Token.afterName_suffix _).trans (List.suffix_cons _ _)
  | asName isAs ahead isName =>
    exact (List.suffix_cons _ _).trans
      ((Token.suffix_of_skipTrivia ahead).trans (List.suffix_cons _ _))
  | asOther isAs ahead notName =>
    exact (Token.suffix_of_skipTrivia ahead).trans (List.suffix_cons _ _)
  | sign isSign taken => exact List.suffix_cons _ _

/-- Reading leaves a tail of the tokens. -/
theorem readClauses_suffix (reading : Reading) (tokens : List Token) :
    (readClauses reading tokens).2 <:+ tokens := by
  induction reading, tokens using readClauses_induction with
  | ends reading tokens left ends =>
    rw [ends.readClauses_eq]
    cases ends with
    | nil => exact List.suffix_rfl
    | afterAs isAs ahead => exact List.nil_suffix
    | stop isSign stops => exact List.suffix_rfl
  | step reading tokens next rest step inductionHypothesis =>
    rw [step.readClauses_eq]
    exact inductionHypothesis.trans step.suffix

/-- What every step of reading an import statement keeps. A name is read as a run of tokens of the
file that are parts of names. -/
structure Reading.Kept (file : List Token) (holds : Reading → Prop) : Prop where
  finish : ∀ reading, holds reading → holds reading.finish
  name : ∀ reading run, holds reading → run <:+: file → (∀ token ∈ run, token.isNamePart = true) →
    holds { reading with current := reading.stem ++ Token.joinedText run }
  localName : ∀ reading localName, holds reading → holds { reading with localName := localName }
  kind : ∀ reading kind, holds reading → holds { reading with kind := kind }
  openGroup : ∀ reading, holds reading → holds reading.openGroup
  closeGroup : ∀ reading, holds reading → holds { reading with stem := "" }

namespace Reading.Kept

variable {file : List Token} {holds : Reading → Prop}

theorem take? (kept : Kept file holds) {reading next : Reading} (now : holds reading)
    {token : Token} (taken : reading.take? token = some next) : holds next := by
  simp only [Reading.take?] at taken
  split at taken
  · cases taken
    exact kept.kind reading _ now
  split at taken
  · cases taken
    exact kept.openGroup reading now
  split at taken
  · cases taken
    exact kept.finish reading now
  split at taken
  · cases taken
    exact kept.closeGroup _ (kept.finish reading now)
  · cases taken

theorem step (kept : Kept file holds) {reading next : Reading} {tokens rest : List Token}
    (now : holds reading) (placed : tokens <:+ file) (step : Step reading tokens next rest) :
    holds next := by
  cases step with
  | trivia isTrivia => exact now
  | @name token rest isPart =>
    have run : token :: rest.takeWhile Token.isNamePart <:+: file :=
      (List.cons_prefix_cons.mpr ⟨rfl, List.takeWhile_prefix _⟩).isInfix.trans placed.isInfix
    have parts : ∀ part ∈ token :: rest.takeWhile Token.isNamePart, part.isNamePart = true := by
      intro part member
      rcases List.mem_cons.mp member with rfl | later
      · exact isPart
      · exact List.all_eq_true.mp List.all_takeWhile part later
    have named := kept.name reading _ now run parts
    rwa [Token.joinedText_takeWhile_cons, ← String.append_assoc] at named
  | asName isAs ahead isName => exact kept.localName reading _ now
  | asOther isAs ahead notName => exact now
  | sign isSign taken => exact kept.take? now taken

/-- What every step keeps is kept to the end. -/
theorem readClauses (kept : Kept file holds) {reading : Reading} {tokens : List Token}
    (start : holds reading) (placed : tokens <:+ file) :
    holds (Import.readClauses reading tokens).1 := by
  induction reading, tokens using readClauses_induction with
  | ends reading tokens left ends =>
    rw [ends.readClauses_eq]
    exact kept.finish reading start
  | step reading tokens next rest step inductionHypothesis =>
    rw [step.readClauses_eq]
    exact inductionHypothesis (kept.step start placed step) (step.suffix.trans placed)

end Reading.Kept

/-- The tokens of a statement after its keyword, trivia and the words `function` and `const` passed,
with the kind that these words give. -/
def bodyOf (tokens : List Token) : ImportKind × List Token :=
  match Token.skipTrivia tokens with
  | [] => (.classLike, [])
  | token :: rest =>
    match ImportKind.ofToken? token with
    | some kind => (kind, rest)
    | none => (.classLike, token :: rest)

theorem bodyOf_suffix (tokens : List Token) : (bodyOf tokens).2 <:+ tokens := by
  have skipped := Token.skipTrivia_suffix tokens
  rw [bodyOf]
  split
  · exact List.nil_suffix
  case h_2 token rest ahead =>
    rw [ahead] at skipped
    split
    · exact (List.suffix_cons token rest).trans skipped
    · exact skipped

/-- A statement is read by reading the clauses of its body. -/
theorem read_eq (tokens : List Token) :
    read tokens =
      ((readClauses (.start (bodyOf tokens).1) (bodyOf tokens).2).1.clauses.reverse,
        (readClauses (.start (bodyOf tokens).1) (bodyOf tokens).2).2) := by
  simp only [read, bodyOf]
  cases Token.skipTrivia tokens with
  | nil => rfl
  | cons token rest => cases ImportKind.ofToken? token <;> rfl

theorem read_suffix (tokens : List Token) : (read tokens).2 <:+ tokens := by
  rw [read_eq]
  exact (readClauses_suffix _ _).trans (bodyOf_suffix tokens)

/-- What every step keeps holds of the state in which a statement of the file ends. -/
theorem Reading.Kept.statementAt {file : List Token} {holds : Reading → Prop}
    (kept : Kept file holds) (start : ∀ statement, holds (.start statement)) (index : Nat) :
    ∃ reading, holds reading ∧ (statementAt file index).clauses = reading.clauses.reverse :=
  ⟨_, kept.readClauses (start _) ((bodyOf_suffix _).trans (List.drop_suffix _ file)),
    congrArg Prod.fst (read_eq (file.drop (index + 1)))⟩

section Extension

variable {reading : Reading} (tail : List Token)

/-- A step that leaves tokens is the same with more tokens after them. -/
theorem Step.append {next : Reading} {tokens rest : List Token}
    (step : Step reading tokens next rest) (goesOn : rest ≠ []) :
    Step reading (tokens ++ tail) next (rest ++ tail) := by
  cases step with
  | trivia isTrivia => exact .trivia isTrivia
  | @name token rest isPart =>
    have extended : Step reading (token :: (rest ++ tail)) _ _ := .name isPart
    rwa [Token.nameAhead_append goesOn, Token.afterName_append goesOn] at extended
  | asName isAs ahead isName => exact .asName isAs (Token.skipTrivia_append ahead tail) isName
  | asOther isAs ahead notName => exact .asOther isAs (Token.skipTrivia_append ahead tail) notName
  | sign isSign taken => exact .sign isSign taken

/-- A step that leaves no token can be made with more tokens after them, and leaves some of these. -/
theorem Step.append_nil {next : Reading} {tokens : List Token} (step : Step reading tokens next []) :
    ∃ next rest, Step reading (tokens ++ tail) next rest ∧ rest <:+ tail := by
  generalize left : ([] : List Token) = rest at step
  cases step with
  | trivia isTrivia => exact ⟨_, _, .trivia isTrivia, by rw [← left]; exact List.suffix_rfl⟩
  | name isPart => exact ⟨_, _, .name isPart, Token.dropWhile_append_suffix left.symm tail⟩
  | asName isAs ahead isName =>
    exact ⟨_, _, .asName isAs (Token.skipTrivia_append ahead tail) isName,
      by rw [← left]; exact List.suffix_rfl⟩
  | asOther isAs ahead notName => cases left
  | sign isSign taken => exact ⟨_, _, .sign isSign taken, by rw [← left]; exact List.suffix_rfl⟩

/-- Tokens after the one that ends a statement are not looked at. -/
theorem readClauses_append {front : List Token} (ends : (readClauses reading front).2 ≠ []) :
    readClauses reading (front ++ tail) =
      ((readClauses reading front).1, (readClauses reading front).2 ++ tail) := by
  induction reading, front using readClauses_induction with
  | ends reading tokens left ended =>
    rw [ended.readClauses_eq] at ends ⊢
    cases ended with
    | nil => exact absurd rfl ends
    | afterAs isAs ahead => exact absurd rfl ends
    | stop isSign stops => exact (Ends.stop isSign stops).readClauses_eq
  | step reading tokens next rest step inductionHypothesis =>
    rw [step.readClauses_eq] at ends ⊢
    have goesOn : rest ≠ [] := by
      rintro rfl
      rw [Ends.nil.readClauses_eq] at ends
      exact ends rfl
    rw [(step.append tail goesOn).readClauses_eq, inductionHypothesis ends]

/-- A statement that goes through all tokens goes on after them. -/
theorem readClauses_append_suffix {front : List Token} (through : (readClauses reading front).2 = []) :
    (readClauses reading (front ++ tail)).2 <:+ tail := by
  induction reading, front using readClauses_induction with
  | ends reading tokens left ended =>
    rw [ended.readClauses_eq] at through
    cases ended with
    | nil => exact readClauses_suffix reading tail
    | afterAs isAs ahead =>
      have skipped := Token.dropWhile_append_suffix ahead tail
      rw [List.cons_append, readClauses_of_as reading _ isAs]
      split
      · exact List.nil_suffix
      case h_2 next after reached =>
        rw [← Token.skipTrivia, reached] at skipped
        split
        · exact (readClauses_suffix _ _).trans ((List.suffix_cons next after).trans skipped)
        · exact (readClauses_suffix _ _).trans skipped
    | stop isSign stops => cases through
  | step reading tokens next rest step inductionHypothesis =>
    rw [step.readClauses_eq] at through
    by_cases goesOn : rest = []
    · subst goesOn
      obtain ⟨next, rest, further, left⟩ := step.append_nil tail
      rw [further.readClauses_eq]
      exact (readClauses_suffix next rest).trans left
    · rw [(step.append tail goesOn).readClauses_eq]
      exact inductionHypothesis through

theorem bodyOf_append {front : List Token} (begins : Token.skipTrivia front ≠ []) :
    bodyOf (front ++ tail) = ((bodyOf front).1, (bodyOf front).2 ++ tail) := by
  cases ahead : Token.skipTrivia front with
  | nil => exact absurd ahead begins
  | cons token rest =>
    simp only [bodyOf, Token.skipTrivia_append ahead tail, ahead]
    cases ImportKind.ofToken? token <;> rfl

/-- Tokens after the one that ends a statement do not change what is read. -/
theorem read_append {front : List Token} (ends : (read front).2 ≠ []) :
    read (front ++ tail) = ((read front).1, (read front).2 ++ tail) := by
  have begins : Token.skipTrivia front ≠ [] := by
    intro blank
    rw [read_eq, bodyOf, blank, Ends.nil.readClauses_eq] at ends
    exact ends rfl
  rw [read_eq] at ends
  rw [read_eq, read_eq, bodyOf_append tail begins, readClauses_append tail ends]

theorem read_append_suffix {front : List Token} (through : (read front).2 = []) :
    (read (front ++ tail)).2 <:+ tail := by
  by_cases begins : Token.skipTrivia front = []
  · have skipped : Token.skipTrivia (front ++ tail) <:+ tail :=
      Token.dropWhile_append_suffix begins tail
    rw [read_eq]
    refine (readClauses_suffix _ _).trans (List.IsSuffix.trans ?_ skipped)
    rw [bodyOf]
    split
    · exact List.nil_suffix
    case h_2 token rest ahead =>
      rw [ahead]
      split
      · exact List.suffix_cons token rest
      · exact List.suffix_rfl
  · rw [read_eq] at through ⊢
    rw [bodyOf_append tail begins]
    exact readClauses_append_suffix tail through

end Extension

section Locality

variable {tokens : List Token} {index : Nat}

theorem index_lt_stop (inside : index < tokens.length) : index < (statementAt tokens index).stop := by
  have left := (read_suffix (tokens.drop (index + 1))).length_le
  rw [List.length_drop] at left
  simp only [statementAt, if_pos inside]
  omega

theorem stop_le_length (tokens : List Token) (index : Nat) :
    (statementAt tokens index).stop ≤ tokens.length :=
  Nat.min_le_right _ _

theorem drop_take_append {start stop : Nat} (order : start ≤ stop) (tokens : List Token) :
    (tokens.take stop).drop start ++ tokens.drop stop = tokens.drop start := by
  have later : tokens.drop stop = (tokens.drop start).drop (stop - start) := by
    rw [List.drop_drop, Nat.add_sub_cancel' order]
  rw [List.drop_take, later, List.take_append_drop]

/-- The tokens of a statement after its keyword, up to and including the one that ends it. -/
def inner (tokens : List Token) (index : Nat) : List Token :=
  (tokens.take (statementAt tokens index).stop).drop (index + 1)

theorem inner_append (inside : index < tokens.length) :
    inner tokens index ++ tokens.drop (statementAt tokens index).stop = tokens.drop (index + 1) :=
  drop_take_append (index_lt_stop inside) tokens

/-- A statement ends among its own tokens, or at the end of the file. -/
theorem inner_ends (inside : index < tokens.length) :
    (read (inner tokens index)).2 ≠ [] ∨ (statementAt tokens index).stop = tokens.length := by
  by_cases through : (read (inner tokens index)).2 = []
  · right
    have left := (read_append_suffix (tokens.drop (statementAt tokens index).stop) through).length_le
    rw [inner_append inside, List.length_drop] at left
    have bound := (read_suffix (tokens.drop (index + 1))).length_le
    rw [List.length_drop] at bound
    simp only [statementAt, if_pos inside] at left ⊢
    omega
  · exact .inl through

/-- A statement depends on its own tokens alone. -/
theorem statementAt_congr {other : List Token} (inside : index < tokens.length)
    (length : other.length = tokens.length)
    (same : (other.take (statementAt tokens index).stop).drop (index + 1) = inner tokens index) :
    statementAt other index = statementAt tokens index := by
  have split : inner tokens index ++ other.drop (statementAt tokens index).stop =
      other.drop (index + 1) := by
    rw [← same]
    exact drop_take_append (index_lt_stop inside) other
  have readSame : (read (other.drop (index + 1))).1 = (read (tokens.drop (index + 1))).1 ∧
      (read (other.drop (index + 1))).2.length = (read (tokens.drop (index + 1))).2.length := by
    rw [← split, ← inner_append inside]
    rcases inner_ends inside with ends | atEnd
    · rw [read_append _ ends, read_append _ ends]
      simp [length]
    · rw [atEnd, List.drop_length, ← length, List.drop_length]
      exact ⟨rfl, rfl⟩
  simp only [statementAt, length, readSame.1, readSame.2]

/-- A token that changes outside of a statement does not change the statement. -/
theorem statementAt_set {position : Nat} (inside : index < tokens.length)
    (outside : position < index ∨ (statementAt tokens index).stop ≤ position) (token : Token) :
    statementAt (tokens.set position token) index = statementAt tokens index := by
  refine statementAt_congr inside List.length_set ?_
  rcases outside with earlier | later
  · rw [inner, List.drop_take, List.drop_take, List.drop_set_of_lt (by omega)]
  · rw [inner, List.take_set_of_le later]

/-- A statement is the same in a file that ends with it. -/
theorem statementAt_take (inside : index < tokens.length) :
    (statementAt (tokens.take (statementAt tokens index).stop) index).clauses =
      (statementAt tokens index).clauses := by
  change (read (inner tokens index)).1 = (read (tokens.drop (index + 1))).1
  rw [← inner_append inside]
  rcases inner_ends inside with ends | atEnd
  · rw [read_append _ ends]
  · rw [atEnd, List.drop_length, List.append_nil]

end Locality

end ClassAtlas.Import
