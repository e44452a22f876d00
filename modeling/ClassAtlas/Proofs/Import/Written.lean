import ClassAtlas.Import.Position
import ClassAtlas.Proofs.Import.Reading
import ClassAtlas.Proofs.Text.Search

/-!
Import statements are read back.

A grammar says which clauses a statement stands for and as which tokens it is written; trivia may stand
anywhere between these. The name of a clause in a group is the prefix with one separator at its end,
followed by the name of the item as it is written: a separator with which an item starts is kept.
-/

namespace ClassAtlas.Import

open Token (significant)

/-- A name that does not end in a separator. -/
structure IsClauseName (token : Token) : Prop where
  isName : token.kind = .name
  nonempty : token.text ≠ ""
  closed : Text.endsWith token.text "\\" = false

/-- The start of the names in a group: its prefix with one separator at the end. -/
def stemOf (text : String) : String := if Text.endsWith text "\\" then text else text ++ "\\"

/-- A clause and its tokens: a name, with `as` and a local name or without. -/
inductive SaysClause (stem : String) (kind : ImportKind) : ImportClause → List Token → Prop where
  | named {name : Token} (isName : IsClauseName name) :
      SaysClause stem kind ⟨Name.unrooted (stem ++ name.text), "", kind⟩ [name]
  | renamed {name asWord localName : Token} (isName : IsClauseName name)
      (isAs : asWord.isKeyword .asWord = true) (isLocal : localName.kind = .name) :
      SaysClause stem kind ⟨Name.unrooted (stem ++ name.text), localName.text, kind⟩
        [name, asWord, localName]

/-- An item of a group and its tokens: a clause of the kind of the statement, or of its own kind. -/
inductive SaysItem (stem : String) (statement : ImportKind) : ImportClause → List Token → Prop where
  | shared {clause : ImportClause} {written : List Token}
      (stated : SaysClause stem statement clause written) : SaysItem stem statement clause written
  | own {keyword : Token} {kind : ImportKind} {clause : ImportClause} {written : List Token}
      (isKind : ImportKind.ofToken? keyword = some kind) (stated : SaysClause stem kind clause written) :
      SaysItem stem statement clause (keyword :: written)

/-- One or more clauses and their tokens, with commas between them. -/
inductive SaysList (stated : ImportClause → List Token → Prop) :
    List ImportClause → List Token → Prop where
  | single {clause : ImportClause} {written : List Token} (first : stated clause written) :
      SaysList stated [clause] written
  | cons {clause : ImportClause} {clauses : List ImportClause} {written others : List Token}
      {comma : Token} (first : stated clause written) (isComma : comma.isMark .comma = true)
      (rest : SaysList stated clauses others) :
      SaysList stated (clause :: clauses) (written ++ comma :: others)

/-- The clauses of a statement and its tokens after the kind: a list, or a prefix with a list in
braces, after which one more comma may stand. -/
inductive SaysBody (statement : ImportKind) : List ImportClause → List Token → Prop where
  | list {clauses : List ImportClause} {written : List Token}
      (stated : SaysList (SaysClause "" statement) clauses written) : SaysBody statement clauses written
  | group {stem opens closes : Token} {clauses : List ImportClause} {written trailing : List Token}
      (isStem : stem.kind = .name) (isOpen : opens.isMark .openBrace = true)
      (stated : SaysList (SaysItem (stemOf stem.text) statement) clauses written)
      (atMostComma : trailing = [] ∨ ∃ comma : Token, comma.isMark .comma = true ∧ trailing = [comma])
      (isClose : closes.isMark .closeBrace = true) :
      SaysBody statement clauses (stem :: opens :: (written ++ (trailing ++ [closes])))

/-- The clauses of a statement and its tokens between its keyword and its semicolon. -/
inductive SaysStatement : List ImportClause → List Token → Prop where
  | classes {clauses : List ImportClause} {written : List Token}
      (stated : SaysBody .classLike clauses written) : SaysStatement clauses written
  | kind {keyword : Token} {kind : ImportKind} {clauses : List ImportClause} {written : List Token}
      (isKind : ImportKind.ofToken? keyword = some kind) (stated : SaysBody kind clauses written) :
      SaysStatement clauses (keyword :: written)

/-- The state between two clauses. -/
def Reading.between (statement : ImportKind) (stem : String) (clauses : List ImportClause) : Reading :=
  ⟨statement, stem, "", "", statement, clauses⟩

theorem readClauses_append_blank (reading : Reading) {blank : List Token}
    (isBlank : ∀ token ∈ blank, token.isTrivia = true) (rest : List Token) :
    readClauses reading (blank ++ rest) = readClauses reading rest := by
  induction blank with
  | nil => rfl
  | cons token blank inductionHypothesis =>
    have here := (Step.trivia (isBlank token List.mem_cons_self) : Step reading _ _ (blank ++ rest))
    rw [List.cons_append, here.readClauses_eq]
    exact inductionHypothesis fun token member => isBlank token (List.mem_cons_of_mem _ member)

section Steps

variable {semicolon : Token} {after : List Token}

/-- Whether no token at the front goes on with a name. -/
def StartsApart (tokens : List Token) : Prop := ∀ token ∈ tokens.head?, token.isNamePart = false

theorem startsApart_cons {token : Token} (notPart : token.isNamePart = false) (rest : List Token) :
    StartsApart (token :: rest) := by
  intro first isFirst
  cases isFirst
  exact notPart

theorem not_isNamePart_of_isMark {token : Token} {mark : Mark} (isMark : token.isMark mark = true) :
    token.isNamePart = false := by
  simp only [Token.isMark, beq_iff_eq] at isMark
  rw [Token.isNamePart, isMark]
  rfl

theorem not_isNamePart_of_isKeyword {token : Token} {word : Keyword}
    (isKeyword : token.isKeyword word = true) : token.isNamePart = false := by
  simp only [Token.isKeyword, beq_iff_eq] at isKeyword
  rw [Token.isNamePart, isKeyword]
  rfl

theorem isSign_of_isMark {token : Token} {mark : Mark} (isMark : token.isMark mark = true) :
    isSign token = true := by
  have notKeyword := Token.isKeyword_of_isMark isMark .asWord
  have notPart := not_isNamePart_of_isMark isMark
  simp only [Token.isMark, beq_iff_eq] at isMark
  rw [isSign, notKeyword, notPart, Token.isTrivia, isMark]
  rfl

theorem ofToken?_of_isMark {token : Token} {mark : Mark} (isMark : token.isMark mark = true) :
    ImportKind.ofToken? token = none := by
  simp [ImportKind.ofToken?, Token.isKeyword_of_isMark isMark]

theorem isSign_of_ofToken? {token : Token} {kind : ImportKind}
    (isKind : ImportKind.ofToken? token = some kind) : isSign token = true := by
  have isWord : token.isKeyword .functionWord = true ∨ token.isKeyword .constWord = true := by
    simp only [ImportKind.ofToken?] at isKind
    split at isKind
    case isTrue isWord => exact .inl isWord
    case isFalse =>
      split at isKind
      case isTrue isWord => exact .inr isWord
      case isFalse => cases isKind
  simp only [Token.isKeyword, beq_iff_eq] at isWord
  rcases isWord with word | word
  · rw [isSign, Token.isTrivia, Token.isNamePart, Token.isKeyword, word]
    rfl
  · rw [isSign, Token.isTrivia, Token.isNamePart, Token.isKeyword, word]
    rfl

theorem Reading.take?_comma (reading : Reading) {comma : Token} (isComma : comma.isMark .comma = true) :
    reading.take? comma = some reading.finish := by
  simp [Reading.take?, ofToken?_of_isMark isComma, isComma, Token.isMark_of_ne isComma]

theorem Reading.take?_openBrace (reading : Reading) {opens : Token}
    (isOpen : opens.isMark .openBrace = true) : reading.take? opens = some reading.openGroup := by
  simp [Reading.take?, ofToken?_of_isMark isOpen, isOpen]

theorem Reading.take?_closeBrace (reading : Reading) {closes : Token}
    (isClose : closes.isMark .closeBrace = true) :
    reading.take? closes = some { reading.finish with stem := "" } := by
  simp [Reading.take?, ofToken?_of_isMark isClose, isClose, Token.isMark_of_ne isClose]

theorem Reading.take?_semicolon (reading : Reading) {semicolon : Token}
    (ends : semicolon.isMark .semicolon = true) : reading.take? semicolon = none := by
  simp [Reading.take?, ofToken?_of_isMark ends, Token.isMark_of_ne ends]

/-- Tokens whose significant ones start apart do so themselves, with a semicolon after them. -/
theorem StartsApart.append {rest : List Token} (apart : StartsApart (significant rest))
    (ends : semicolon.isMark .semicolon = true) : StartsApart (rest ++ semicolon :: after) := by
  cases rest with
  | nil => exact startsApart_cons (not_isNamePart_of_isMark ends) after
  | cons token rest =>
    refine startsApart_cons ?_ _
    by_cases isTrivia : token.isTrivia = true
    · exact Bool.eq_false_iff.mpr fun isPart => by
        rw [Token.not_isTrivia_of_isNamePart isPart] at isTrivia
        cases isTrivia
    · exact apart token (by simp [significant, isTrivia])

/-- A name is read by itself where no name goes on after it. -/
theorem readClauses_name (reading : Reading) {name : Token} (isName : name.kind = .name)
    {rest : List Token} (apart : StartsApart rest) :
    readClauses reading (name :: rest) =
      readClauses { reading with current := reading.stem ++ name.text } rest := by
  have isPart : name.isNamePart = true := by
    rw [Token.isNamePart, isName]
    rfl
  have step : Step reading (name :: rest) _ _ := .name isPart
  have noMore : Token.nameAhead rest = "" ∧ Token.afterName rest = rest := by
    cases rest with
    | nil => exact ⟨rfl, rfl⟩
    | cons next more =>
      have notPart := apart next rfl
      simp [Token.nameAhead, Token.afterName, notPart, Token.joinedText]
  rw [step.readClauses_eq, noMore.1, noMore.2, String.append_empty]

/-- Whether reading over written tokens, with trivia between them, comes to a state that ends its
clause as given. -/
def Reads (semicolon : Token) (after : List Token) (reading : Reading) (written : List Token)
    (ended : Reading) : Prop :=
  ∀ body more, significant body = written ++ more → StartsApart more →
    ∃ rest pending, significant rest = more ∧ pending.finish = ended ∧
      readClauses reading (body ++ semicolon :: after) = readClauses pending (rest ++ semicolon :: after)

/-- Reading goes up to a significant token. -/
theorem exists_readClauses_cons (semicolon : Token) (after : List Token) {body more : List Token}
    {token : Token} (stated : significant body = token :: more) :
    ∃ rest, significant rest = more ∧ ∀ reading, readClauses reading (body ++ semicolon :: after) =
      readClauses reading (token :: (rest ++ semicolon :: after)) := by
  obtain ⟨-, blank, rest, rfl, isBlank, left⟩ := Token.exists_of_significant_cons stated
  refine ⟨rest, left, fun reading => ?_⟩
  rw [List.append_assoc, readClauses_append_blank reading isBlank]
  rfl

theorem exists_readClauses_sign (semicolon : Token) (after : List Token) {body more : List Token}
    {token : Token} {reading next : Reading} (stated : significant body = token :: more)
    (isSign : isSign token = true)
    (taken : reading.take? token = some next) :
    ∃ rest, significant rest = more ∧ readClauses reading (body ++ semicolon :: after) =
      readClauses next (rest ++ semicolon :: after) := by
  obtain ⟨rest, left, reads⟩ := exists_readClauses_cons semicolon after stated
  have step : Step reading (token :: (rest ++ semicolon :: after)) next _ := .sign isSign taken
  exact ⟨rest, left, (reads reading).trans step.readClauses_eq⟩

end Steps

section Clauses

variable {semicolon : Token} {after : List Token} {statement kind : ImportKind} {stem : String}
  {clause : ImportClause} {clauses before : List ImportClause} {written : List Token}

/-- A name after a stem is left over when leading separators are removed, with its last character. -/
theorem IsClauseName.exists_toList {name : Token} (isName : IsClauseName name) (stem : String) :
    ∃ front last, (Name.unrooted (stem ++ name.text)).toList = front ++ [last] ∧ last ≠ '\\' := by
  rcases List.eq_nil_or_concat name.text.toList with empty | ⟨front, last, chars⟩
  · exact absurd (String.toList_eq_nil_iff.mp empty) isName.nonempty
  · have notSeparator : last ≠ '\\' := by
      rintro rfl
      have closed := isName.closed
      rw [← Bool.not_eq_true, Text.endsWith_iff, chars] at closed
      exact closed ⟨front, by simp⟩
    refine ⟨(stem.toList ++ front).dropWhile Name.isSeparator, last, ?_, notSeparator⟩
    have stays : [last].dropWhile Name.isSeparator = [last] := by
      simp [Name.isSeparator, notSeparator]
    rw [Name.unrooted, Text.toList_dropStart, String.toList_append, chars, List.concat_eq_append,
      ← List.append_assoc, List.dropWhile_append, stays]
    split
    case isTrue none => rw [List.isEmpty_iff.mp none, List.nil_append]
    case isFalse => rfl

/-- Ending a clause whose name has been read adds it to the clauses. -/
theorem finish_clause {name : Token} (isName : IsClauseName name) (localName : String) :
    Reading.finish ⟨statement, stem, stem ++ name.text, localName, kind, before⟩ =
      .between statement stem (⟨Name.unrooted (stem ++ name.text), localName, kind⟩ :: before) := by
  obtain ⟨front, last, chars, notSeparator⟩ := isName.exists_toList stem
  have nonempty : (Name.unrooted (stem ++ name.text)).isEmpty = false := by
    refine Bool.eq_false_iff.mpr fun empty => ?_
    rw [String.isEmpty_iff.mp empty] at chars
    simp at chars
  have closed : Text.endsWith (Name.unrooted (stem ++ name.text)) "\\" = false := by
    refine Bool.eq_false_iff.mpr fun separated => ?_
    rw [Text.endsWith_iff, chars] at separated
    obtain ⟨start, same⟩ := separated
    exact notSeparator (List.cons.inj (List.append_inj' same rfl).2).1.symm
  simp only [Reading.finish, nonempty, closed, Bool.or_self, Bool.false_eq_true, if_false,
    Reading.between]

theorem SaysClause.reads (ends : semicolon.isMark .semicolon = true)
    (stated : SaysClause stem kind clause written) :
    Reads semicolon after ⟨statement, stem, "", "", kind, before⟩ written
      (.between statement stem (clause :: before)) := by
  intro body more spells apart
  cases stated with
  | @named name isName =>
    obtain ⟨rest, left, reads⟩ := exists_readClauses_cons semicolon after spells
    refine ⟨rest, _, left, finish_clause isName "", ?_⟩
    have goesOn : StartsApart (rest ++ semicolon :: after) := .append (by rwa [left]) ends
    rw [reads, readClauses_name _ isName.isName goesOn]
  | @renamed name asWord localName isName isAs isLocal =>
    obtain ⟨afterName, left, readsName⟩ := exists_readClauses_cons semicolon after spells
    obtain ⟨afterAs, leftAs, readsAs⟩ := exists_readClauses_cons semicolon after left
    obtain ⟨isSignificant, blank, rest, rfl, isBlank, leftLocal⟩ :=
      Token.exists_of_significant_cons leftAs
    refine ⟨rest, _, leftLocal, finish_clause isName localName.text, ?_⟩
    have goesOn : StartsApart (afterName ++ semicolon :: after) := by
      refine .append ?_ ends
      rw [left]
      exact startsApart_cons (not_isNamePart_of_isKeyword isAs) _
    have ahead := Token.skipTrivia_append_blank isBlank isSignificant (rest ++ semicolon :: after)
    have step : Step ⟨statement, stem, stem ++ name.text, "", kind, before⟩ (asWord :: _) _ _ :=
      .asName isAs ahead isLocal
    rw [readsName, readClauses_name _ isName.isName goesOn, readsAs, List.append_assoc,
      List.cons_append, step.readClauses_eq]

/-- A keyword before an item of a group gives the item its kind. -/
theorem SaysItem.reads (ends : semicolon.isMark .semicolon = true) (inGroup : stem ≠ "")
    (stated : SaysItem stem statement clause written) :
    Reads semicolon after (.between statement stem before) written
      (.between statement stem (clause :: before)) := by
  cases stated with
  | shared stated => exact stated.reads ends
  | @own keyword kind _ written isKind stated =>
    intro body more spells apart
    have taken : (Reading.between statement stem before).take? keyword =
        some ⟨statement, stem, "", "", kind, before⟩ := by
      simp [Reading.take?, Reading.between, isKind, inGroup]
    obtain ⟨rest, left, reads⟩ :=
      exists_readClauses_sign semicolon after spells (isSign_of_ofToken? isKind) taken
    obtain ⟨later, pending, leftLater, ended, readsLater⟩ := stated.reads ends rest more left apart
    exact ⟨later, pending, leftLater, ended, reads.trans readsLater⟩

/-- Clauses with commas between them are read one after the other. -/
theorem SaysList.reads {stated : ImportClause → List Token → Prop}
    (each : ∀ clause written before, stated clause written →
      Reads semicolon after (.between statement stem before) written
        (.between statement stem (clause :: before)))
    (list : SaysList stated clauses written) (before : List ImportClause) :
    Reads semicolon after (.between statement stem before) written
      (.between statement stem (clauses.reverse ++ before)) := by
  induction list generalizing before with
  | single first => exact each _ _ before first
  | @cons clause clauses written others comma first isComma _ inductionHypothesis =>
    intro body more spells apart
    rw [List.append_assoc] at spells
    obtain ⟨rest, pending, left, ended, reads⟩ :=
      each clause written before first body _ spells
        (startsApart_cons (not_isNamePart_of_isMark isComma) _)
    obtain ⟨next, leftNext, readsNext⟩ := exists_readClauses_sign semicolon after left
      (isSign_of_isMark isComma) (pending.take?_comma isComma)
    rw [ended] at readsNext
    obtain ⟨later, lastPending, leftLater, endedLater, readsLater⟩ :=
      inductionHypothesis (clause :: before) next more leftNext apart
    refine ⟨later, lastPending, leftLater, ?_, reads.trans (readsNext.trans readsLater)⟩
    rw [endedLater, List.reverse_cons, List.append_assoc]
    rfl

end Clauses

section Statements

variable {semicolon : Token} {after : List Token} {statement : ImportKind}
  {clauses : List ImportClause} {written : List Token}

/-- Between two clauses there is none to end. -/
theorem Reading.finish_between (statement : ImportKind) (stem : String) (clauses : List ImportClause) :
    (Reading.between statement stem clauses).finish = .between statement stem clauses := by
  rfl

theorem stemOf_ne_empty (text : String) : stemOf text ≠ "" := by
  rw [stemOf]
  split
  case isTrue closed =>
    rintro rfl
    revert closed
    decide
  case isFalse => simp

/-- What is read of a group that is open, with or without a comma at its end. -/
theorem exists_readClauses_closes (stem : String) {trailing body more : List Token} {closes : Token}
    {pending : Reading} (ended : pending.finish = .between statement stem clauses)
    (atMostComma : trailing = [] ∨ ∃ comma : Token, comma.isMark .comma = true ∧ trailing = [comma])
    (isClose : closes.isMark .closeBrace = true)
    (spells : significant body = trailing ++ closes :: more) :
    ∃ rest, significant rest = more ∧ readClauses pending (body ++ semicolon :: after) =
      readClauses (.between statement "" clauses) (rest ++ semicolon :: after) := by
  have closing : ∀ {pending : Reading}, pending.finish = .between statement stem clauses →
      pending.take? closes = some (.between statement "" clauses) := by
    intro pending ended
    rw [pending.take?_closeBrace isClose, ended]
    rfl
  obtain rfl | ⟨comma, isComma, rfl⟩ := atMostComma
  · exact exists_readClauses_sign semicolon after spells (isSign_of_isMark isClose) (closing ended)
  · obtain ⟨inside, left, reads⟩ := exists_readClauses_sign semicolon after spells
      (isSign_of_isMark isComma) (pending.take?_comma isComma)
    rw [ended] at reads
    obtain ⟨rest, leftRest, readsRest⟩ := exists_readClauses_sign semicolon after left
      (isSign_of_isMark isClose) (closing (Reading.finish_between statement stem clauses))
    exact ⟨rest, leftRest, reads.trans readsRest⟩

theorem SaysBody.reads (ends : semicolon.isMark .semicolon = true)
    (stated : SaysBody statement clauses written) :
    Reads semicolon after (.start statement) written (.between statement "" clauses.reverse) := by
  cases stated with
  | list list =>
    have reads : Reads semicolon after (.between statement "" []) written _ :=
      list.reads (fun _ _ _ stated => stated.reads ends) []
    rwa [List.append_nil] at reads
  | @group stem opens closes _ written trailing isStem isOpen list atMostComma isClose =>
    intro body more spells apart
    obtain ⟨afterStem, left, readsStem⟩ := exists_readClauses_cons semicolon after spells
    have goesOn : StartsApart (afterStem ++ semicolon :: after) := by
      refine .append ?_ ends
      rw [left]
      exact startsApart_cons (not_isNamePart_of_isMark isOpen) _
    have opened : Reading.take? ⟨statement, "", "" ++ stem.text, "", statement, []⟩ opens =
        some (.between statement (stemOf stem.text) []) := by
      rw [Reading.take?_openBrace _ isOpen, String.empty_append]
      rfl
    obtain ⟨inside, leftInside, readsInside⟩ :=
      exists_readClauses_sign semicolon after left (isSign_of_isMark isOpen) opened
    have closesApart : StartsApart (trailing ++ closes :: more) := by
      obtain rfl | ⟨comma, isComma, rfl⟩ := atMostComma
      · exact startsApart_cons (not_isNamePart_of_isMark isClose) _
      · exact startsApart_cons (not_isNamePart_of_isMark isComma) _
    have listed : Reads semicolon after (.between statement (stemOf stem.text) []) written _ :=
      list.reads (fun _ _ _ stated => stated.reads ends (stemOf_ne_empty stem.text)) []
    rw [List.append_nil] at listed
    obtain ⟨atEnd, pending, leftEnd, ended, readsEnd⟩ :=
      listed inside (trailing ++ closes :: more) (by rw [leftInside]; simp) closesApart
    obtain ⟨rest, leftRest, readsRest⟩ :=
      exists_readClauses_closes (stemOf stem.text) ended atMostComma isClose leftEnd
    refine ⟨rest, _, leftRest, Reading.finish_between _ _ _, ?_⟩
    rw [readsStem, Reading.start, readClauses_name _ isStem goesOn, readsInside, readsEnd, readsRest]

theorem SaysList.exists_head {stated : ImportClause → List Token → Prop}
    (each : ∀ clause written, stated clause written → ∃ first rest, written = first :: rest ∧
      first.kind = .name) (list : SaysList stated clauses written) :
    ∃ first rest, written = first :: rest ∧ first.kind = .name := by
  cases list with
  | single first => exact each _ _ first
  | cons first =>
    obtain ⟨name, rest, rfl, isName⟩ := each _ _ first
    exact ⟨name, _, rfl, isName⟩

/-- A statement starts with a name, after its kind. -/
theorem SaysBody.exists_head (stated : SaysBody statement clauses written) :
    ∃ first rest, written = first :: rest ∧ first.kind = .name := by
  cases stated with
  | list list =>
    refine list.exists_head fun clause written stated => ?_
    cases stated with
    | named isName => exact ⟨_, _, rfl, isName.isName⟩
    | renamed isName => exact ⟨_, _, rfl, isName.isName⟩
  | group isStem => exact ⟨_, _, rfl, isStem⟩

/-- A statement is read up to its semicolon. -/
theorem Reads.readClauses_eq (ends : semicolon.isMark .semicolon = true) {reading : Reading}
    (reads : Reads semicolon after reading written (.between statement "" clauses)) {body : List Token}
    (spells : significant body = written) :
    readClauses reading (body ++ semicolon :: after) =
      (.between statement "" clauses, semicolon :: after) := by
  obtain ⟨rest, pending, left, ended, readsRest⟩ :=
    reads body [] (by rw [spells, List.append_nil]) nofun
  have stops : Ends pending (semicolon :: after) (semicolon :: after) :=
    .stop (isSign_of_isMark ends) (pending.take?_semicolon ends)
  rw [readsRest, readClauses_append_blank pending (Token.isTrivia_of_significant_nil left),
    stops.readClauses_eq, ended]

theorem ofToken?_of_name {token : Token} (isName : token.kind = .name) :
    ImportKind.ofToken? token = none := by
  simp [ImportKind.ofToken?, Token.isKeyword, isName]

theorem SaysStatement.read_eq (ends : semicolon.isMark .semicolon = true)
    (stated : SaysStatement clauses written) {body : List Token} (spells : significant body = written) :
    read (body ++ semicolon :: after) = (clauses, semicolon :: after) := by
  rw [Import.read_eq]
  cases stated with
  | classes stated =>
    obtain ⟨first, more, rfl, isName⟩ := stated.exists_head
    obtain ⟨isSignificant, blank, rest, rfl, isBlank, -⟩ := Token.exists_of_significant_cons spells
    have bodyOf_eq : bodyOf (blank ++ first :: rest ++ semicolon :: after) =
        (.classLike, first :: (rest ++ semicolon :: after)) := by
      rw [List.append_assoc, bodyOf, List.cons_append,
        Token.skipTrivia_append_blank isBlank isSignificant]
      simp only [ofToken?_of_name isName]
    have readsBody :
        readClauses (.start .classLike) (blank ++ first :: rest ++ semicolon :: after) = _ :=
      (stated.reads ends).readClauses_eq ends spells
    rw [List.append_assoc, readClauses_append_blank _ isBlank, List.cons_append] at readsBody
    rw [bodyOf_eq, readsBody]
    simp [Reading.between]
  | @kind keyword kind _ written isKind stated =>
    obtain ⟨isSignificant, blank, rest, rfl, isBlank, left⟩ := Token.exists_of_significant_cons spells
    have bodyOf_eq : bodyOf (blank ++ keyword :: rest ++ semicolon :: after) =
        (kind, rest ++ semicolon :: after) := by
      rw [List.append_assoc, bodyOf, List.cons_append,
        Token.skipTrivia_append_blank isBlank isSignificant]
      simp only [isKind]
    rw [bodyOf_eq, (stated.reads ends).readClauses_eq ends left]
    simp [Reading.between]

/-- An import statement is read back as the clauses it says, up to its semicolon. -/
theorem reads_back (front : List Token) (keyword : Token) (body after : List Token)
    (stated : SaysStatement clauses (significant body)) (ends : semicolon.isMark .semicolon = true) :
    spanAt (front ++ keyword :: (body ++ semicolon :: after)) front.length =
        .ok ⟨front.length, front.length + 1 + body.length, clauses⟩ ∧
      statementAt (front ++ keyword :: (body ++ semicolon :: after)) front.length =
        ⟨front.length, front.length + 1 + body.length + 1, clauses⟩ := by
  have ahead : (front ++ keyword :: (body ++ semicolon :: after)).drop (front.length + 1) =
      body ++ semicolon :: after := by
    simp [List.drop_append]
  have read : read (body ++ semicolon :: after) = (clauses, semicolon :: after) :=
    stated.read_eq ends rfl
  have inside : front.length < front.length + (body.length + (after.length + 1) + 1) := by omega
  constructor
  · rw [spanAt, show (front.length : Int) + 1 = (front.length + 1 : Nat) from rfl, Token.aheadAt_ofNat,
      ahead]
    simp only [bind, Except.bind, read, pure, Except.pure, List.length_append, List.length_cons,
      Except.ok.injEq, Span.mk.injEq, and_true, true_and]
    omega
  · simp only [statementAt, ahead, read, List.length_append, List.length_cons, if_pos inside,
      Statement.mk.injEq, true_and, and_true]
    omega

/-- In a group an item may have a kind and a local name of its own, and a comma may stand at its end. -/
theorem reads_back_group :
    spanAt [⟨.keyword .useWord, "use", 1⟩, ⟨.whitespace, " ", 1⟩, ⟨.name, "\\A", 1⟩,
        ⟨.mark .openBrace, "\x7b", 1⟩, ⟨.keyword .functionWord, "function", 1⟩,
        ⟨.whitespace, " ", 1⟩, ⟨.name, "f", 1⟩, ⟨.keyword .asWord, "as", 1⟩, ⟨.comment, "/**/", 1⟩,
        ⟨.name, "g", 1⟩, ⟨.mark .comma, ",", 1⟩,
        ⟨.name, "B", 1⟩, ⟨.mark .comma, ",", 1⟩, ⟨.mark .closeBrace, "\x7d", 1⟩,
        ⟨.mark .semicolon, ";", 1⟩] 0 =
      .ok ⟨0, 14, [⟨"A\\f", "g", .function⟩, ⟨"A\\B", "", .classLike⟩]⟩ := by
  have isName : ∀ text, text = "f" ∨ text = "B" → IsClauseName ⟨.name, text, 1⟩ := by
    rintro _ (rfl | rfl)
    · exact ⟨rfl, by decide, by decide⟩
    · exact ⟨rfl, by decide, by decide⟩
  have own : SaysItem (stemOf "\\A") .classLike ⟨"A\\f", "g", .function⟩
      [⟨.keyword .functionWord, "function", 1⟩, ⟨.name, "f", 1⟩, ⟨.keyword .asWord, "as", 1⟩,
        ⟨.name, "g", 1⟩] :=
    .own rfl (@SaysClause.renamed (stemOf "\\A") .function ⟨.name, "f", 1⟩ ⟨.keyword .asWord, "as", 1⟩
      ⟨.name, "g", 1⟩ (isName "f" (.inl rfl)) rfl rfl)
  have shared : SaysItem (stemOf "\\A") .classLike ⟨"A\\B", "", .classLike⟩ [⟨.name, "B", 1⟩] :=
    .shared (.named (isName "B" (.inr rfl)))
  have comma : (⟨.mark .comma, ",", 1⟩ : Token).isMark .comma = true := rfl
  have stated := @SaysBody.group .classLike ⟨.name, "\\A", 1⟩ ⟨.mark .openBrace, "\x7b", 1⟩
    ⟨.mark .closeBrace, "\x7d", 1⟩ _ _ _ rfl rfl (.cons own comma (.single shared))
    (.inr ⟨_, comma, rfl⟩) rfl
  exact (reads_back [] ⟨.keyword .useWord, "use", 1⟩
    [⟨.whitespace, " ", 1⟩, ⟨.name, "\\A", 1⟩, ⟨.mark .openBrace, "\x7b", 1⟩,
      ⟨.keyword .functionWord, "function", 1⟩, ⟨.whitespace, " ", 1⟩, ⟨.name, "f", 1⟩,
      ⟨.keyword .asWord, "as", 1⟩, ⟨.comment, "/**/", 1⟩, ⟨.name, "g", 1⟩, ⟨.mark .comma, ",", 1⟩,
      ⟨.name, "B", 1⟩, ⟨.mark .comma, ",", 1⟩, ⟨.mark .closeBrace, "\x7d", 1⟩] [] (.classes stated) rfl).1

/-- A separator at the start of an item is kept after the prefix, so that two stand there. -/
theorem item_keeps_separator :
    (statementAt [⟨.keyword .useWord, "use", 1⟩, ⟨.whitespace, " ", 1⟩, ⟨.name, "A\\", 1⟩,
        ⟨.mark .openBrace, "\x7b", 1⟩, ⟨.name, "\\B", 1⟩, ⟨.mark .closeBrace, "\x7d", 1⟩,
        ⟨.mark .semicolon, ";", 1⟩] 0).clauses = [⟨"A\\\\B", "", .classLike⟩] ∧
      "A\\\\B" ≠ "A\\B" := by
  constructor
  · decide +kernel
  · decide

end Statements

end ClassAtlas.Import
