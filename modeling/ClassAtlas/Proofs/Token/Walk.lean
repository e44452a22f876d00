import ClassAtlas.Proofs.Token.Coverage
import ClassAtlas.Usage.TypeHint
import ClassAtlas.Usage.Reference

/-!
Where walks over tokens lead.

Every walk leaves a suffix of the tokens it was given and reads a part that precedes it, so all that the
detectors look at is a contiguous part of the file.
-/

namespace ClassAtlas

namespace Token

/-- The text of contiguous tokens is a contiguous part of the text. -/
theorem joinedText_isInfix {run tokens : List Token} (contiguous : run <:+: tokens) :
    (joinedText run).toList <:+: (joinedText tokens).toList := by
  obtain ⟨front, back, rfl⟩ := contiguous
  simp only [joinedText_append, String.toList_append]
  exact ⟨_, _, rfl⟩

theorem not_isTrivia_of_isNamePart {token : Token} (isPart : token.isNamePart = true) :
    token.isTrivia = false := by
  simp only [isNamePart, TokenKind.isNamePart, Bool.or_eq_true, beq_iff_eq] at isPart
  rcases isPart with kind | kind <;> rw [isTrivia, kind] <;> rfl

theorem isKeyword_of_isMark {token : Token} {mark : Mark} (isMark : token.isMark mark = true)
    (word : Keyword) : token.isKeyword word = false := by
  simp only [Token.isMark, beq_iff_eq] at isMark
  simp [isKeyword, isMark]

theorem isTrivia_of_isMark {token : Token} {mark : Mark} (isMark : token.isMark mark = true) :
    token.isTrivia = false := by
  simp only [Token.isMark, beq_iff_eq] at isMark
  rw [isTrivia, isMark]
  rfl

theorem isMark_of_ne {token : Token} {mark other : Mark} (isMark : token.isMark mark = true)
    (ne : mark ≠ other) : token.isMark other = false := by
  simp only [Token.isMark, beq_iff_eq] at isMark
  simp [Token.isMark, isMark, ne]

theorem isMark_of_isKeyword {token : Token} {word : Keyword} (isKeyword : token.isKeyword word = true)
    (mark : Mark) : token.isMark mark = false := by
  simp only [Token.isKeyword, beq_iff_eq] at isKeyword
  simp [isMark, isKeyword]

theorem skipTrivia_suffix (tokens : List Token) : skipTrivia tokens <:+ tokens :=
  List.dropWhile_suffix _

theorem suffix_of_skipTrivia {tokens rest : List Token} {next : Token}
    (ahead : skipTrivia tokens = next :: rest) : next :: rest <:+ tokens :=
  ahead ▸ skipTrivia_suffix tokens

/-- The tokens that are no trivia. -/
def significant (tokens : List Token) : List Token := tokens.filter (!·.isTrivia)

@[simp] theorem significant_append (front back : List Token) :
    significant (front ++ back) = significant front ++ significant back :=
  List.filter_append front back

theorem isTrivia_of_significant_nil {tokens : List Token} (none : significant tokens = []) :
    ∀ token ∈ tokens, token.isTrivia = true := by
  simpa [significant] using none

/-- Before the first significant token there is trivia. -/
theorem exists_of_significant_cons {tokens more : List Token} {token : Token}
    (written : significant tokens = token :: more) :
    token.isTrivia = false ∧ ∃ blank rest, tokens = blank ++ token :: rest ∧
      (∀ token ∈ blank, token.isTrivia = true) ∧ significant rest = more := by
  obtain ⟨blank, rest, split, isBlank, isSignificant, left⟩ := List.filter_eq_cons_iff.mp written
  refine ⟨by simpa using isSignificant, blank, rest, split, ?_, left⟩
  simpa using isBlank

theorem skipTrivia_append_trivia {blank : List Token} (isBlank : ∀ token ∈ blank, token.isTrivia = true)
    (rest : List Token) : skipTrivia (blank ++ rest) = skipTrivia rest :=
  List.dropWhile_append_of_pos isBlank

theorem skipTrivia_cons {token : Token} (isSignificant : token.isTrivia = false) (rest : List Token) :
    skipTrivia (token :: rest) = token :: rest :=
  List.dropWhile_cons_of_neg (by simp [isSignificant])

theorem skipTrivia_append_blank {blank : List Token} (isBlank : ∀ token ∈ blank, token.isTrivia = true)
    {token : Token} (isSignificant : token.isTrivia = false) (rest : List Token) :
    skipTrivia (blank ++ token :: rest) = token :: rest := by
  rw [skipTrivia_append_trivia isBlank, skipTrivia_cons isSignificant]

theorem afterName_suffix (tokens : List Token) : afterName tokens <:+ tokens :=
  List.dropWhile_suffix _

/-- A walk that ends inside the tokens does not depend on tokens after them. -/
theorem dropWhile_append_of_ne_nil {passes : Token → Bool} {front : List Token}
    (ends : front.dropWhile passes ≠ []) (tail : List Token) :
    (front ++ tail).dropWhile passes = front.dropWhile passes ++ tail ∧
      (front ++ tail).takeWhile passes = front.takeWhile passes := by
  induction front with
  | nil => exact absurd rfl ends
  | cons token rest inductionHypothesis =>
    by_cases passed : passes token = true
    · rw [List.dropWhile_cons_of_pos passed] at ends
      simp [passed, inductionHypothesis ends]
    · simp [passed]

theorem skipTrivia_append {front after : List Token} {next : Token}
    (ahead : skipTrivia front = next :: after) (tail : List Token) :
    skipTrivia (front ++ tail) = next :: (after ++ tail) := by
  have ends : skipTrivia front ≠ [] := by simp [ahead]
  have extended := (dropWhile_append_of_ne_nil ends tail).1
  rwa [← skipTrivia, ← skipTrivia, ahead] at extended

theorem afterName_append {front : List Token} (ends : afterName front ≠ []) (tail : List Token) :
    afterName (front ++ tail) = afterName front ++ tail :=
  (dropWhile_append_of_ne_nil ends tail).1

theorem nameAhead_append {front : List Token} (ends : afterName front ≠ []) (tail : List Token) :
    nameAhead (front ++ tail) = nameAhead front :=
  congrArg joinedText (dropWhile_append_of_ne_nil ends tail).2

/-- A walk through all tokens goes on with those after them. -/
theorem dropWhile_append_suffix {passes : Token → Bool} {front : List Token}
    (through : front.dropWhile passes = []) (tail : List Token) :
    (front ++ tail).dropWhile passes <:+ tail := by
  rw [List.dropWhile_append, through]
  exact List.dropWhile_suffix passes

/-- A name that starts with a token is that token and the name parts right after it. -/
theorem joinedText_takeWhile_cons (token : Token) (rest : List Token) :
    joinedText (token :: rest.takeWhile isNamePart) = token.text ++ nameAhead rest := by
  rw [joinedText_cons, nameAhead]

theorem typeAhead_isPrefix (tokens : List Token) : typeAhead tokens <+: tokens := by
  have trimmed : (typeAhead tokens) <+: tokens.takeWhile fun token =>
      token.isNamePart || token.isTypePunctuation || token.isTrivia := by
    rw [← List.reverse_suffix, typeAhead, List.reverse_reverse]
    exact List.dropWhile_suffix _
  exact trimmed.trans (List.takeWhile_prefix _)

/-- A closed parenthesis holds the tokens up to its end, and what follows it is the rest. -/
theorem closeParen?_parts {depth : Nat} {tokens inside after : List Token}
    (closes : closeParen? depth tokens = some (inside, after)) :
    inside <+: tokens ∧ after <:+ tokens := by
  induction tokens generalizing depth inside after with
  | nil => simp [closeParen?] at closes
  | cons token rest inductionHypothesis =>
    have deeper : ∀ {depth : Nat},
        (closeParen? depth rest).map (fun parts => (token :: parts.1, parts.2)) =
          some (inside, after) → inside <+: token :: rest ∧ after <:+ token :: rest := by
      intro depth found
      obtain ⟨⟨inner, tail⟩, closed, equal⟩ := Option.map_eq_some_iff.mp found
      cases equal
      obtain ⟨front, back⟩ := inductionHypothesis closed
      exact ⟨List.cons_prefix_cons.mpr ⟨rfl, front⟩, back.trans (List.suffix_cons token rest)⟩
    simp only [closeParen?] at closes
    split at closes
    · split at closes
      · cases closes
        exact ⟨List.nil_prefix, List.suffix_cons token rest⟩
      · exact deeper closes
    · exact deeper closes

theorem passIf_suffix (passes : Token → Bool) (tokens : List Token) :
    passIf passes tokens <:+ tokens := by
  cases tokens with
  | nil => exact List.suffix_rfl
  | cons token rest =>
    rw [passIf]
    split
    · exact (skipTrivia_suffix rest).trans (List.suffix_cons token rest)
    · exact List.suffix_rfl

theorem afterParameterParen?_suffix {tokens rest : List Token}
    (found : afterParameterParen? tokens = some rest) : rest <:+ tokens := by
  simp only [afterParameterParen?] at found
  split at found
  case h_2 => cases found
  case h_1 paren tail reached =>
    split at found
    case isFalse => cases found
    case isTrue =>
      cases found
      have tailAhead : rest <:+ passIf _ (passIf _ (skipTrivia tokens)) :=
        reached ▸ List.suffix_cons paren rest
      exact tailAhead.trans ((passIf_suffix _ _).trans
        ((passIf_suffix _ _).trans (skipTrivia_suffix tokens)))

end Token

namespace Place

theorem skipPropertyWords_suffix (tokens : List Token) : skipPropertyWords tokens <:+ tokens := by
  fun_induction skipPropertyWords tokens with
  | case1 tokens ahead => exact List.nil_suffix
  | case2 tokens token rest ahead isWord inductionHypothesis =>
    have reached : token :: rest <:+ tokens := ahead ▸ Token.skipTrivia_suffix tokens
    exact inductionHypothesis.trans ((List.suffix_cons token rest).trans reached)
  | case3 tokens token rest ahead isOther => exact ahead ▸ Token.skipTrivia_suffix tokens

theorem afterBinding?_suffix {tokens rest : List Token} (found : afterBinding? tokens = some rest) :
    rest <:+ tokens := by
  cases tokens with
  | nil => simp_all [afterBinding?]
  | cons token tail =>
    simp only [afterBinding?] at found
    split at found
    case isFalse =>
      cases found
      exact List.suffix_rfl
    case isTrue =>
      split at found
      case h_2 => cases found
      case h_1 next bound reached =>
        split at found
        case isFalse => cases found
        case isTrue =>
          obtain ⟨⟨inside, after⟩, closes, rfl⟩ := Option.map_eq_some_iff.mp found
          have afterSuffix := (Token.closeParen?_parts closes).2
          have boundSuffix : bound <:+ tail :=
            (List.suffix_cons next bound).trans (reached ▸ Token.skipTrivia_suffix tail)
          exact (Token.skipTrivia_suffix after).trans
            (afterSuffix.trans (boundSuffix.trans (List.suffix_cons token tail)))

theorem namesUntil_suffix (stops : Token → Bool) (tokens : List Token) :
    (namesUntil stops tokens).2 <:+ tokens := by
  fun_induction namesUntil stops tokens with
  | case1 => exact List.suffix_rfl
  | case2 token rest => exact List.suffix_rfl
  | case3 token rest _ _ names after found inductionHypothesis =>
    rw [found] at inductionHypothesis
    exact inductionHypothesis.trans
      ((Token.afterName_suffix rest).trans (List.suffix_cons token rest))
  | case4 token rest _ _ inductionHypothesis =>
    exact inductionHypothesis.trans (List.suffix_cons token rest)

/-- Every name in a list of names is a run of tokens before its end. -/
theorem exists_run_of_mem_namesUntil {stops : Token → Bool} {tokens : List Token} {name : String}
    (member : name ∈ (namesUntil stops tokens).1) :
    ∃ front run back, tokens = front ++ run ++ back ++ (namesUntil stops tokens).2 ∧ run ≠ [] ∧
      (∀ token ∈ run, token.isNamePart = true) ∧ name = Token.joinedText run := by
  fun_induction namesUntil stops tokens with
  | case1 => cases member
  | case2 token rest => cases member
  | case3 token rest _ isPart names after found inductionHypothesis =>
    rw [found] at inductionHypothesis
    have whole : rest = rest.takeWhile Token.isNamePart ++ Token.afterName rest :=
      List.takeWhile_append_dropWhile.symm
    rcases List.mem_cons.mp member with rfl | later
    · obtain ⟨passed, equal⟩ := namesUntil_suffix stops (Token.afterName rest)
      rw [found] at equal
      refine ⟨[], token :: rest.takeWhile Token.isNamePart, passed, ?_, by simp, ?_, ?_⟩
      · simp only [List.nil_append, List.cons_append, List.append_assoc]
        rw [equal, ← whole]
      · exact List.forall_mem_cons.mpr ⟨isPart, List.all_eq_true.mp List.all_takeWhile⟩
      · exact (Token.joinedText_takeWhile_cons token rest).symm
    · obtain ⟨front, run, back, equal, nonempty, parts, text⟩ := inductionHypothesis later
      refine ⟨token :: (rest.takeWhile Token.isNamePart ++ front), run, back, ?_, nonempty, parts,
        text⟩
      simp only [List.cons_append, List.append_assoc] at equal ⊢
      rw [← equal, ← whole]
  | case4 token rest _ _ inductionHypothesis =>
    obtain ⟨front, run, back, equal, nonempty, parts, text⟩ := inductionHypothesis member
    exact ⟨token :: front, run, back, by simpa using equal, nonempty, parts, text⟩

/-- A place splits the tokens at its own. -/
theorem tokens_eq_of_mem_listFrom {before tokens : List Token} {place : Place}
    (member : place ∈ listFrom before tokens) :
    before.reverse ++ tokens = place.before.reverse ++ place.token :: place.after := by
  induction tokens generalizing before with
  | nil => cases member
  | cons token after inductionHypothesis =>
    rcases List.mem_cons.mp member with rfl | later
    · rfl
    · rw [← inductionHypothesis later]
      simp

theorem tokens_eq_of_mem_list {tokens : List Token} {place : Place} (member : place ∈ list tokens) :
    tokens = place.before.reverse ++ place.token :: place.after :=
  tokens_eq_of_mem_listFrom member

theorem after_suffix {tokens : List Token} {place : Place} (member : place ∈ list tokens) :
    place.after <:+ tokens :=
  ⟨place.before.reverse ++ [place.token], by simp [tokens_eq_of_mem_list member]⟩

end Place

end ClassAtlas
