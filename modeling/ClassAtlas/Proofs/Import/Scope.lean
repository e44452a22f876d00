import ClassAtlas.Proofs.Import.UseKind
import Mathlib.Data.List.Induction
import Mathlib.Data.List.TakeWhile

/-!
Where a `use` keyword includes traits.

The blocks open at a place are kept as a stack, and a class header announces its body by a flag. Both
say what can be read off the tokens before the place: which brace opened the innermost block, and
whether a class header leads up to that brace. The keyword includes traits in a class body, and also
where a class-opening keyword stands a few tokens before it; elsewhere it is an import, and its clauses
reach the aliases of the file.
-/

namespace ClassAtlas

namespace Token

/-- Whether every brace among the tokens has its partner among them. -/
inductive Balanced : List Token → Prop
  | nil : Balanced []
  | plain {token : Token} {rest : List Token} (notOpen : token.isMark .openBrace = false)
      (notClose : token.isMark .closeBrace = false) (balanced : Balanced rest) :
      Balanced (token :: rest)
  | block {opening closing : Token} {inside rest : List Token}
      (opens : opening.isMark .openBrace = true) (inner : Balanced inside)
      (closes : closing.isMark .closeBrace = true) (outer : Balanced rest) :
      Balanced (opening :: inside ++ closing :: rest)

theorem Balanced.append {first second : List Token} (balanced : Balanced first)
    (next : Balanced second) : Balanced (first ++ second) := by
  induction balanced with
  | nil => exact next
  | plain notOpen notClose _ inductionHypothesis => exact .plain notOpen notClose inductionHypothesis
  | @block opening closing inside rest opens inner closes _ _ inductionHypothesis =>
    have whole := Balanced.block opens inner closes inductionHypothesis
    simpa using whole

end Token

namespace UseKind

/-- Whether the nearest significant token before a place is a double colon. -/
def FollowsDoubleColon (before : List Token) : Prop :=
  ∃ front colons trivia, before = front ++ colons :: trivia ∧ colons.isMark .doubleColon = true ∧
    ∀ token ∈ trivia, token.isTrivia = true

/-- Whether a token after the given ones opens a class, trait or enum. -/
def Opens (before : List Token) (token : Token) : Prop :=
  isOpenerWord token = true ∧ ¬ FollowsDoubleColon before

/-- Whether a class header leads up to a place: a keyword that begins a class-like declaration, with no
opening brace and no semicolon after it. -/
def ClassHeader (before : List Token) : Prop :=
  ∃ front word between, before = front ++ word :: between ∧
    (word.isKeyword .interfaceWord = true ∨ Opens front word) ∧
    ∀ token ∈ between, token.isMark .openBrace = false ∧ token.isMark .semicolon = false

/-- Whether the innermost block open at a place is a class body: a class header leads up to the brace
that opens it, and the braces since then are balanced. -/
def InClassBody (before : List Token) : Prop :=
  ∃ outer brace inside, before = outer ++ brace :: inside ∧ brace.isMark .openBrace = true ∧
    Token.Balanced inside ∧ ClassHeader outer

/-- Whether a class-opening keyword is among the last tokens before a place, as many as are looked back
on, with no semicolon and no `namespace` after it. -/
def OpenerNear (before : List Token) : Prop :=
  ∃ front word between, before = front ++ word :: between ∧ between.length < lookback ∧
    Opens front word ∧
    ∀ token ∈ between, token.isMark .semicolon = false ∧ token.isKeyword .namespaceWord = false

section Openers

theorem followsDoubleColon_iff (before : List Token) :
    FollowsDoubleColon before ↔
      ∃ colons rest, Token.skipTrivia before.reverse = colons :: rest ∧
        colons.isMark .doubleColon = true := by
  constructor
  · rintro ⟨front, colons, trivia, rfl, isColons, blank⟩
    refine ⟨colons, front.reverse, ?_, isColons⟩
    have skipped : trivia.reverse.dropWhile Token.isTrivia = [] := by
      rw [List.dropWhile_eq_nil_iff]
      intro token member
      exact blank token (List.mem_reverse.mp member)
    have stays : colons.isTrivia = false := by
      simp only [Token.isMark, beq_iff_eq] at isColons
      simp [Token.isTrivia, TokenKind.isTrivia, isColons]
    simp [Token.skipTrivia, List.dropWhile_append, skipped, stays]
  · rintro ⟨colons, rest, ahead, isColons⟩
    have split := List.takeWhile_append_dropWhile (p := Token.isTrivia) (l := before.reverse)
    rw [← Token.skipTrivia, ahead] at split
    refine ⟨rest.reverse, colons, (before.reverse.takeWhile Token.isTrivia).reverse, ?_, isColons, ?_⟩
    · have turned := congrArg List.reverse split
      simpa using turned.symm
    · intro token member
      exact List.mem_takeWhile_imp (List.mem_reverse.mp member)

theorem opensClass_iff (before : List Token) (token : Token) :
    opensClass token before.reverse = true ↔ Opens before token := by
  rw [Opens, followsDoubleColon_iff, opensClass, Bool.and_eq_true]
  cases Token.skipTrivia before.reverse with
  | nil => simp
  | cons previous rest => simp

theorem opensClass_eq_false_of_isMark {token : Token} {mark : Mark} (isMark : token.isMark mark = true)
    (before : List Token) : opensClass token before = false := by
  simp [opensClass, isOpenerWord, Token.isKeyword_of_isMark isMark]

theorem openerNear_eq_true_iff {count : Nat} {back : List Token} :
    openerNear count back = true ↔
      ∃ between word front, back = between ++ word :: front ∧ between.length < count ∧
        opensClass word front = true ∧ ∀ token ∈ between,
          token.isMark .semicolon = false ∧ token.isKeyword .namespaceWord = false := by
  induction count generalizing back with
  | zero => simp [openerNear]
  | succ count inductionHypothesis =>
    cases back with
    | nil => simp [openerNear]
    | cons token rest =>
      rw [openerNear]
      split
      case isTrue opens => simpa using ⟨[], token, rest, rfl, by simp, opens, by simp⟩
      case isFalse notOpener =>
        have passes : (∃ between word front, token :: rest = between ++ word :: front ∧
              between.length < count + 1 ∧ opensClass word front = true ∧ ∀ other ∈ between,
                other.isMark .semicolon = false ∧ other.isKeyword .namespaceWord = false) ↔
            (token.isMark .semicolon = false ∧ token.isKeyword .namespaceWord = false) ∧
              openerNear count rest = true := by
          rw [inductionHypothesis]
          constructor
          · rintro ⟨_ | ⟨first, between⟩, word, front, split, short, opens, plain⟩
            · cases split
              exact absurd opens notOpener
            · cases split
              exact ⟨plain _ List.mem_cons_self, between, word, front, rfl, by simpa using short, opens,
                fun other member => plain other (List.mem_cons_of_mem _ member)⟩
          · rintro ⟨here, between, word, front, rfl, short, opens, plain⟩
            exact ⟨token :: between, word, front, rfl, by simpa using short, opens,
              List.forall_mem_cons.mpr ⟨here, plain⟩⟩
        rw [passes]
        split
        case isTrue stops =>
          simp only [Bool.or_eq_true] at stops
          rcases stops with stops | stops <;> simp [stops]
        case isFalse goesOn =>
          simp only [Bool.or_eq_true, not_or, Bool.not_eq_true] at goesOn
          simp [goesOn]

/-- Looking back finds an opener exactly if one is near. -/
theorem openerNear_iff (before : List Token) :
    openerNear lookback before.reverse = true ↔ OpenerNear before := by
  rw [openerNear_eq_true_iff]
  constructor
  · rintro ⟨between, word, front, turned, short, opens, plain⟩
    rw [← List.reverse_reverse front, opensClass_iff] at opens
    refine ⟨front.reverse, word, between.reverse, ?_, by simpa using short, opens, ?_⟩
    · have straight := congrArg List.reverse turned
      simpa using straight
    · intro token member
      exact plain token (List.mem_reverse.mp member)
  · rintro ⟨front, word, between, rfl, short, opens, plain⟩
    refine ⟨between.reverse, word, front.reverse, by simp, by simpa using short,
      (opensClass_iff front word).mpr opens, ?_⟩
    intro token member
    exact plain token (List.mem_reverse.mp member)

instance (before : List Token) : Decidable (OpenerNear before) :=
  decidable_of_iff _ (openerNear_iff before)

end Openers

section Blocks

/-- The blocks open after tokens in source order. -/
abbrev Scopes.ofTokens (before : List Token) : Scopes := .ofBefore before.reverse

theorem Scopes.ofTokens_snoc (before : List Token) (token : Token) :
    Scopes.ofTokens (before ++ [token]) = (Scopes.ofTokens before).after token before.reverse := by
  simp [Scopes.ofTokens, Scopes.ofBefore]

theorem Scopes.after_openBrace {token : Token} (opens : token.isMark .openBrace = true)
    (scopes : Scopes) (before : List Token) :
    scopes.after token before = ⟨scopes.pending :: scopes.blocks, false⟩ := by
  simp [after, Token.isKeyword_of_isMark opens, opensClass_eq_false_of_isMark opens, opens]

theorem Scopes.after_closeBrace {token : Token} (closes : token.isMark .closeBrace = true)
    (scopes : Scopes) (before : List Token) :
    scopes.after token before = { scopes with blocks := scopes.blocks.tail } := by
  simp [after, Token.isKeyword_of_isMark closes, opensClass_eq_false_of_isMark closes, closes,
    Token.isMark_of_ne closes (show Mark.closeBrace ≠ .openBrace by decide)]

theorem Scopes.blocks_after_plain {token : Token} (notOpen : token.isMark .openBrace = false)
    (notClose : token.isMark .closeBrace = false) (scopes : Scopes) (before : List Token) :
    (scopes.after token before).blocks = scopes.blocks := by
  simp only [after, notOpen, notClose]
  split
  · rfl
  · simp only [Bool.false_eq_true, if_false]
    split <;> rfl

/-- Balanced tokens leave the open blocks as they were. -/
theorem Scopes.blocks_append {inside : List Token} (balanced : Token.Balanced inside)
    (before : List Token) :
    (Scopes.ofTokens (before ++ inside)).blocks = (Scopes.ofTokens before).blocks := by
  induction balanced generalizing before with
  | nil => rw [List.append_nil]
  | @plain token rest notOpen notClose _ inductionHypothesis =>
    rw [List.append_cons, inductionHypothesis, ofTokens_snoc, blocks_after_plain notOpen notClose]
  | @block opening closing inside rest opens _ closes _ inner outer =>
    have shape : before ++ (opening :: inside ++ closing :: rest) =
        before ++ [opening] ++ inside ++ [closing] ++ rest := by simp
    rw [shape, outer, ofTokens_snoc, after_closeBrace closes, inner, ofTokens_snoc,
      after_openBrace opens, List.tail_cons]

/-- The innermost open block begins at a brace from which on the braces are balanced. -/
theorem Scopes.exists_brace {before : List Token} {flag : Bool} {blocks : List Bool}
    (opened : (Scopes.ofTokens before).blocks = flag :: blocks) :
    ∃ outer brace inside, before = outer ++ brace :: inside ∧ brace.isMark .openBrace = true ∧
      Token.Balanced inside ∧ (Scopes.ofTokens outer).pending = flag ∧
      (Scopes.ofTokens outer).blocks = blocks := by
  induction length : before.length using Nat.strongRecOn generalizing before flag blocks with
  | ind count inductionHypothesis =>
    rcases List.eq_nil_or_concat before with rfl | ⟨rest, last, rfl⟩
    · cases opened
    rw [List.concat_eq_append, ofTokens_snoc] at opened
    rw [List.concat_eq_append, List.length_append, List.length_singleton] at length
    rw [List.concat_eq_append]
    by_cases opens : last.isMark .openBrace = true
    · rw [after_openBrace opens] at opened
      cases opened
      exact ⟨rest, last, [], rfl, opens, .nil, rfl, rfl⟩
    by_cases closes : last.isMark .closeBrace = true
    · -- The brace that the closing one ends is passed over, with the block before it.
      rw [after_closeBrace closes] at opened
      obtain ⟨inner, equal⟩ : ∃ inner, (Scopes.ofTokens rest).blocks = inner :: flag :: blocks := by
        cases blocksEq : (Scopes.ofTokens rest).blocks with
        | nil => simp [blocksEq] at opened
        | cons inner others => exact ⟨inner, by simpa [blocksEq] using opened⟩
      obtain ⟨outer, brace, inside, rfl, isBrace, balanced, -, further⟩ :=
        inductionHypothesis rest.length (by omega) equal rfl
      obtain ⟨front, first, passed, rfl, isFirst, passedBalanced, pending, others⟩ :=
        inductionHypothesis outer.length (by simp at length; omega) further rfl
      refine ⟨front, first, passed ++ (brace :: inside ++ last :: []), by simp, isFirst, ?_, pending,
        others⟩
      exact passedBalanced.append (.block isBrace balanced closes .nil)
    · simp only [Bool.not_eq_true] at opens closes
      rw [blocks_after_plain opens closes] at opened
      obtain ⟨outer, brace, inside, rfl, isBrace, balanced, pending, others⟩ :=
        inductionHypothesis rest.length (by omega) opened rfl
      refine ⟨outer, brace, inside ++ [last], by simp, isBrace, ?_, pending, others⟩
      exact balanced.append (.plain opens closes .nil)

theorem classHeader_snoc (before : List Token) (token : Token) :
    ClassHeader (before ++ [token]) ↔
      (token.isKeyword .interfaceWord = true ∨ Opens before token) ∨
        ClassHeader before ∧ token.isMark .openBrace = false ∧ token.isMark .semicolon = false := by
  constructor
  · rintro ⟨front, word, between, split, begins, plain⟩
    rcases List.eq_nil_or_concat between with rfl | ⟨between, last, rfl⟩
    · obtain ⟨rfl, same⟩ := List.append_inj' split rfl
      cases same
      exact .inl begins
    · rw [List.concat_eq_append, ← List.cons_append, ← List.append_assoc] at split
      obtain ⟨rfl, same⟩ := List.append_inj' split rfl
      cases same
      simp only [List.concat_eq_append, List.forall_mem_append, List.forall_mem_singleton] at plain
      exact .inr ⟨⟨front, word, between, rfl, begins, plain.1⟩, plain.2⟩
  · rintro (begins | ⟨⟨front, word, between, rfl, begins, plain⟩, last⟩)
    · exact ⟨before, token, [], rfl, begins, by simp⟩
    · exact ⟨front, word, between ++ [token], by simp, begins,
        List.forall_mem_append.mpr ⟨plain, List.forall_mem_singleton.mpr last⟩⟩

/-- A class body is announced exactly if a class header leads up to a place. -/
theorem Scopes.pending_iff (before : List Token) :
    (Scopes.ofTokens before).pending = true ↔ ClassHeader before := by
  induction before using List.reverseRecOn with
  | nil =>
    constructor
    · intro pending
      cases pending
    · rintro ⟨front, word, between, split, -⟩
      simp at split
  | append_singleton rest last inductionHypothesis =>
    rw [ofTokens_snoc, classHeader_snoc, ← inductionHypothesis, ← opensClass_iff, after]
    by_cases begins : last.isKeyword .interfaceWord = true ∨ opensClass last rest.reverse = true
    · simp [begins]
    · have notBegins : (last.isKeyword .interfaceWord || opensClass last rest.reverse) = false := by
        simpa using begins
      simp only [notBegins, begins, Bool.false_eq_true, if_false, false_or]
      by_cases opens : last.isMark .openBrace = true
      · simp [opens]
      by_cases closes : last.isMark .closeBrace = true
      · simp [opens, closes, Token.isMark_of_ne closes (show Mark.closeBrace ≠ .semicolon by decide)]
      by_cases ends : last.isMark .semicolon = true
      · simp [opens, closes, ends]
      · simp [opens, closes, ends]

/-- The stack of open blocks says whether a place is in a class body. -/
theorem Scopes.inClassBody_iff (before : List Token) :
    (Scopes.ofTokens before).inClassBody = true ↔ InClassBody before := by
  rw [inClassBody]
  constructor
  · intro inside
    obtain ⟨blocks, opened⟩ : ∃ blocks, (Scopes.ofTokens before).blocks = true :: blocks := by
      cases blocksEq : (Scopes.ofTokens before).blocks with
      | nil => simp [blocksEq] at inside
      | cons flag blocks => exact ⟨blocks, by simpa [blocksEq] using inside⟩
    obtain ⟨outer, brace, passed, split, isBrace, balanced, pending, -⟩ := exists_brace opened
    exact ⟨outer, brace, passed, split, isBrace, balanced, (pending_iff outer).mp pending⟩
  · rintro ⟨outer, brace, inside, rfl, isBrace, balanced, header⟩
    rw [List.append_cons, blocks_append balanced, ofTokens_snoc, after_openBrace isBrace,
      (pending_iff outer).mpr header]
    rfl

instance (before : List Token) : Decidable (InClassBody before) :=
  decidable_of_iff _ (Scopes.inClassBody_iff before)

end Blocks

end UseKind

namespace Aliases

theorem lookup_bind (aliases : Aliases) (localName fullName key : String) :
    List.lookup key (aliases.bind localName fullName) =
      if key = localName then some fullName else List.lookup key aliases := by
  induction aliases with
  | nil =>
    by_cases same : key = localName
    · simp [bind, same]
    · simp [bind, List.lookup_cons, beq_false_of_ne same, same]
  | cons entry rest inductionHypothesis =>
    obtain ⟨known, old⟩ := entry
    by_cases isKnown : known = localName
    · subst isKnown
      by_cases same : key = known
      · simp [bind, same]
      · simp [bind, List.lookup_cons, beq_false_of_ne same, same]
    · by_cases same : key = known
      · subst same
        simp [bind, isKnown]
      · simp [bind, List.lookup_cons, isKnown, beq_false_of_ne same, inductionHypothesis]

/-- Whether a class clause among those given binds a local name to a full one. -/
def BoundBy (clauses : List ImportClause) (key fullName : String) : Prop :=
  ∃ clause ∈ clauses, clause.kind = .classLike ∧ clause.key = key ∧ clause.name = fullName

/-- A local name that class clauses bind means what one of them says; any other keeps its meaning. -/
theorem lookup_bindClauses (aliases : Aliases) (clauses : List ImportClause) (key : String) :
    (∃ fullName, List.lookup key (aliases.bindClauses clauses) = some fullName ∧
        BoundBy clauses key fullName) ∨
      List.lookup key (aliases.bindClauses clauses) = List.lookup key aliases ∧
        ∀ clause ∈ clauses, clause.kind = .classLike → clause.key ≠ key := by
  induction clauses using List.reverseRecOn with
  | nil => exact .inr ⟨rfl, by simp⟩
  | append_singleton front last inductionHypothesis =>
    have step : aliases.bindClauses (front ++ [last]) =
        if last.kind = .classLike then (aliases.bindClauses front).bind last.key last.name
        else aliases.bindClauses front := by
      rw [bindClauses, List.foldl_append]
      rfl
    have widen : ∀ {fullName}, BoundBy front key fullName → BoundBy (front ++ [last]) key fullName :=
      fun ⟨clause, member, bound⟩ => ⟨clause, List.mem_append_left _ member, bound⟩
    by_cases binds : last.kind = .classLike ∧ key = last.key
    · obtain ⟨isClass, rfl⟩ := binds
      refine .inl ⟨last.name, ?_, last, by simp, isClass, rfl, rfl⟩
      rw [step, if_pos isClass, lookup_bind, if_pos rfl]
    · have kept : List.lookup key (aliases.bindClauses (front ++ [last])) =
          List.lookup key (aliases.bindClauses front) := by
        rw [step]
        split
        case isTrue isClass => rw [lookup_bind, if_neg fun same => binds ⟨isClass, same⟩]
        case isFalse => rfl
      rw [kept]
      refine inductionHypothesis.imp (fun ⟨fullName, found, bound⟩ => ⟨fullName, found, widen bound⟩) ?_
      rintro ⟨same, others⟩
      refine ⟨same, List.forall_mem_append.mpr ⟨others, List.forall_mem_singleton.mpr ?_⟩⟩
      exact fun isClass equal => binds ⟨isClass, equal.symm⟩

theorem ofUses_snoc (tokens : List Token) (uses : List (Nat × UseKind)) (use : Nat × UseKind) :
    ofUses tokens (uses ++ [use]) =
      if use.2 = .fileImport then
        (ofUses tokens uses).bindClauses (Import.statementAt tokens use.1).clauses
      else ofUses tokens uses := by
  rw [ofUses, List.foldl_append]
  rfl

/-- A local name that an import binds means what the import, or a later one, binds it to. -/
theorem lookup_ofUses {tokens : List Token} (front back : List (Nat × UseKind)) {index : Nat}
    {key fullName : String} (bound : BoundBy (Import.statementAt tokens index).clauses key fullName) :
    ∃ later ∈ (index, UseKind.fileImport) :: back, later.2 = .fileImport ∧ ∃ meaning,
      List.lookup key (ofUses tokens (front ++ (index, .fileImport) :: back)) = some meaning ∧
        BoundBy (Import.statementAt tokens later.1).clauses key meaning := by
  induction back using List.reverseRecOn with
  | nil =>
    refine ⟨_, List.mem_cons_self, rfl, ?_⟩
    rw [ofUses_snoc, if_pos rfl]
    obtain found | ⟨-, others⟩ := lookup_bindClauses (ofUses tokens front)
      (Import.statementAt tokens index).clauses key
    · exact found
    · obtain ⟨clause, member, isClass, same, -⟩ := bound
      exact absurd same (others clause member isClass)
  | append_singleton back last inductionHypothesis =>
    obtain ⟨later, listed, isImport, meaning, found, binds⟩ := inductionHypothesis
    have still : later ∈ (index, UseKind.fileImport) :: (back ++ [last]) := by
      rw [← List.cons_append]
      exact List.mem_append_left _ listed
    rw [← List.cons_append, ← List.append_assoc, ofUses_snoc]
    split
    case isFalse => exact ⟨later, still, isImport, meaning, found, binds⟩
    case isTrue isLast =>
      obtain ⟨newer, bindsNow⟩ | ⟨kept, -⟩ := lookup_bindClauses
        (ofUses tokens (front ++ (index, .fileImport) :: back))
        (Import.statementAt tokens last.1).clauses key
      · exact ⟨last, by simp, isLast, newer, bindsNow⟩
      · exact ⟨later, still, isImport, meaning, kept.trans found, binds⟩

end Aliases

namespace UseKind

/-- Whether an import reaches the aliases of its file: each local name that it binds to a class means
what the last import that binds it says, which is this one or a later one. -/
def FeedsAliases (tokens : List Token) (index : Nat) : Prop :=
  ∀ clause ∈ (Import.statementAt tokens index).clauses, clause.kind = .classLike →
    ∃ later meaning, index ≤ later ∧
      (Context.ofTokens tokens).useKind? later = some .fileImport ∧
      Aliases.BoundBy (Import.statementAt tokens later).clauses clause.key meaning ∧
      List.lookup clause.key (Context.ofTokens tokens).aliases = some meaning

theorem feedsAliases_of_mem {tokens : List Token} {place : Place}
    (member : place ∈ places tokens) (isImport : ofPlace place = .fileImport) :
    FeedsAliases tokens place.index := by
  intro clause listed isClass
  obtain ⟨front, back, split⟩ := List.append_of_mem member
  have uses : list tokens = front.map (fun place => (place.index, ofPlace place)) ++
      (place.index, .fileImport) :: back.map fun place => (place.index, ofPlace place) := by
    rw [list_eq, split, List.map_append, List.map_cons, isImport]
  obtain ⟨later, known, laterImport, meaning, found, binds⟩ :=
    Aliases.lookup_ofUses (front.map fun place => (place.index, ofPlace place))
      (back.map fun place => (place.index, ofPlace place)) ⟨clause, listed, isClass, rfl, rfl⟩
  have ordered : (place :: back).Pairwise fun first second => first.index < second.index := by
    have all : (places tokens).Pairwise fun first second => first.index < second.index :=
      (Place.list_increasing tokens).sublist List.filter_sublist
    rw [split] at all
    exact (List.pairwise_append.mp all).2.1
  have fromPlace : ∃ other ∈ place :: back, later = (other.index, ofPlace other) := by
    rcases List.mem_cons.mp known with rfl | further
    · exact ⟨place, List.mem_cons_self, by rw [isImport]⟩
    · obtain ⟨other, inBack, rfl⟩ := List.mem_map.mp further
      exact ⟨other, List.mem_cons_of_mem _ inBack, rfl⟩
  obtain ⟨other, inTail, rfl⟩ := fromPlace
  have isUse : other ∈ places tokens := by
    rw [split]
    exact List.mem_append_right _ inTail
  refine ⟨other.index, meaning, ?_, ?_, binds, ?_⟩
  · rcases List.mem_cons.mp inTail with rfl | further
    · exact Nat.le_refl _
    · exact Nat.le_of_lt (List.rel_of_pairwise_cons ordered further)
  · obtain ⟨inList, isWord⟩ := List.mem_filter.mp isUse
    rw [Context.useKind?_ofTokens inList, if_pos isWord]
    exact congrArg some laterImport
  · rw [← uses] at found
    exact found

/-- A `use` that binds no variables includes traits exactly in a class body or shortly after a
class-opening keyword; elsewhere it is an import, and what it binds reaches the aliases of the file. -/
theorem mixin_iff_inClassBody_or_openerNear (before after : List Token) (use : Token)
    (isUse : use.isKeyword .useWord = true)
    (notClosure : ∀ next ∈ (Token.skipTrivia after).head?, next.isMark .openParen = false) :
    ((Context.ofTokens (before ++ use :: after)).useKind? before.length = some .mixin ↔
      InClassBody before ∨ OpenerNear before) ∧
    (¬ (InClassBody before ∨ OpenerNear before) →
      (Context.ofTokens (before ++ use :: after)).useKind? before.length = some .fileImport ∧
        FeedsAliases (before ++ use :: after) before.length) := by
  have member : (⟨before.reverse, use, after⟩ : Place) ∈ Place.list (before ++ use :: after) :=
    Place.mem_list_append before use after
  have kind : (Context.ofTokens (before ++ use :: after)).useKind? before.length =
      some (ofPlace ⟨before.reverse, use, after⟩) := by
    have looked := Context.useKind?_ofTokens member
    rw [Place.index, List.length_reverse] at looked
    rw [looked, if_pos isUse]
  have opensNoList : ((Token.skipTrivia after).head?.map (·.isMark .openParen)).getD false = false := by
    cases next : (Token.skipTrivia after).head? with
    | none => rfl
    | some token => exact notClosure token next
  have classified : ofPlace ⟨before.reverse, use, after⟩ =
      if openerNear lookback before.reverse || (Scopes.ofTokens before).inClassBody then .mixin
      else .fileImport := by
    rw [ofPlace, classify, opensNoList]
    rfl
  have decided : (openerNear lookback before.reverse || (Scopes.ofTokens before).inClassBody) = true ↔
      InClassBody before ∨ OpenerNear before := by
    rw [Bool.or_eq_true, openerNear_iff, Scopes.inClassBody_iff, or_comm]
  rw [kind, classified]
  constructor
  · rw [← decided]
    split
    case isTrue near => simp [near]
    case isFalse far => simp [far]
  · intro neither
    rw [← decided] at neither
    rw [if_neg neither] at classified ⊢
    refine ⟨rfl, ?_⟩
    have feeds := feedsAliases_of_mem (List.mem_filter.mpr ⟨member, isUse⟩) classified
    rwa [Place.index, List.length_reverse] at feeds

/-- A class `A` with a constant, up to a place in its body. -/
def sampleBody : List Token := [
  ⟨.keyword .classWord, "class", 1⟩, ⟨.whitespace, " ", 1⟩, ⟨.name, "A", 1⟩,
  ⟨.mark .openBrace, "\x7b", 1⟩, ⟨.keyword .constWord, "const", 1⟩, ⟨.whitespace, " ", 1⟩,
  ⟨.name, "X", 1⟩, ⟨.mark .semicolon, ";", 1⟩]

/-- A `use B;` without its keyword. -/
def sampleClause : List Token :=
  [⟨.whitespace, " ", 1⟩, ⟨.name, "B", 1⟩, ⟨.mark .semicolon, ";", 1⟩]

/-- In the body, past a semicolon, `use B;` includes a trait; after the body and another semicolon it
is an import. -/
theorem mixin_iff_inClassBody_or_openerNear_sample :
    let use : Token := ⟨.keyword .useWord, "use", 1⟩
    let closed := sampleBody ++ [⟨.mark .closeBrace, "\x7d", 1⟩, ⟨.mark .semicolon, ";", 1⟩]
    (Context.ofTokens (sampleBody ++ use :: sampleClause)).useKind? sampleBody.length = some .mixin ∧
      (Context.ofTokens (closed ++ use :: sampleClause)).useKind? closed.length = some .fileImport ∧
      FeedsAliases (closed ++ use :: sampleClause) closed.length := by
  intro use closed
  have notClosure : ∀ next ∈ (Token.skipTrivia sampleClause).head?, next.isMark .openParen = false := by
    decide
  exact ⟨(mixin_iff_inClassBody_or_openerNear sampleBody sampleClause use rfl notClosure).1.mpr
      (.inl (by decide)),
    (mixin_iff_inClassBody_or_openerNear closed sampleClause use rfl notClosure).2 (by decide)⟩

/-- The class body alone does not decide: right after an empty class body, `use B;` counts as the
inclusion of a trait although no block is open. -/
theorem mixin_outside_class_body :
    let before : List Token := [
      ⟨.keyword .classWord, "class", 1⟩, ⟨.whitespace, " ", 1⟩, ⟨.name, "A", 1⟩,
      ⟨.whitespace, " ", 1⟩, ⟨.mark .openBrace, "\x7b", 1⟩, ⟨.mark .closeBrace, "\x7d", 1⟩,
      ⟨.whitespace, " ", 1⟩]
    let use : Token := ⟨.keyword .useWord, "use", 1⟩
    use.isKeyword .useWord = true ∧
      (∀ next ∈ (Token.skipTrivia sampleClause).head?, next.isMark .openParen = false) ∧
      ¬ ((Context.ofTokens (before ++ use :: sampleClause)).useKind? before.length = some .mixin ↔
        InClassBody before) := by
  decide

end UseKind

end ClassAtlas
