import ClassAtlas.Proofs.Token.Alignment
import ClassAtlas.Proofs.Token.Place

/-!
How deep a position of a file is inside parentheses.

The depth is counted over the whole file, and a closing parenthesis without an open one does not count.
Between an opening parenthesis and its partner, or the end of the file when it has none, the depth is
above that at the opening one; past the partner it is the same again. So the count over the whole file
and the search for one partner agree also where parentheses are missing.
-/

namespace ClassAtlas.Token

/-- Number of parentheses open before a position of a file. -/
def depthAt (file : List Token) (index : Nat) : Nat := parenDepth (file.take index).reverse

/-- Whether the tokens of a file from one position up to another satisfy a predicate. -/
def Between (file : List Token) (start stop : Nat) (holds : Token → Prop) : Prop :=
  ∀ index token, start ≤ index → index < stop → file[index]? = some token → holds token

section Stretches

variable {file : List Token} {start middle stop : Nat} {holds : Token → Prop}

theorem Between.mono (between : Between file start stop holds) {weaker : Token → Prop}
    (implies : ∀ token, holds token → weaker token) : Between file start stop weaker :=
  fun index token begins ends stands => implies token (between index token begins ends stands)

theorem Between.narrow (between : Between file start stop holds) {first last : Nat}
    (begins : start ≤ first) (ends : last ≤ stop) : Between file first last holds :=
  fun index token early late => between index token (by omega) (by omega)

theorem Between.trans (between : Between file start middle holds)
    (further : Between file middle stop holds) : Between file start stop holds := by
  intro index token begins ends stands
  by_cases early : index < middle
  · exact between index token begins early stands
  · exact further index token (by omega) ends stands

theorem between_single {token : Token} (stands : file[start]? = some token) (here : holds token) :
    Between file start (start + 1) holds := by
  intro index other begins ends found
  obtain rfl : index = start := by omega
  rw [stands] at found
  cases found
  exact here

theorem StandsAt.between {part : List Token} (stands : StandsAt file start part)
    (all : ∀ token ∈ part, holds token) : Between file start (start + part.length) holds := by
  intro index token begins ends found
  obtain ⟨offset, rfl⟩ := Nat.exists_eq_add_of_le begins
  rw [stands.getElem? (by omega)] at found
  exact all token (List.mem_of_getElem? found)

end Stretches

/-- Whether a token is no parenthesis. -/
def IsFlat (token : Token) : Prop :=
  token.isMark .openParen = false ∧ token.isMark .closeParen = false

section Depth

variable {file : List Token} {start stop : Nat}

theorem depthAt_succ {index : Nat} {token : Token} (stands : file[index]? = some token) :
    depthAt file (index + 1) =
      if token.isMark .openParen then depthAt file index + 1
      else if token.isMark .closeParen then depthAt file index - 1
      else depthAt file index := by
  rw [depthAt, List.take_add_one, stands, List.reverse_append]
  rfl

theorem depthAt_succ_of_open {index : Nat} {token : Token} (stands : file[index]? = some token)
    (opens : token.isMark .openParen = true) : depthAt file (index + 1) = depthAt file index + 1 := by
  rw [depthAt_succ stands, if_pos opens]

theorem depthAt_succ_of_close {index : Nat} {token : Token} (stands : file[index]? = some token)
    (closes : token.isMark .closeParen = true) :
    depthAt file (index + 1) = depthAt file index - 1 := by
  have notOpen : token.isMark .openParen = false := by
    simp only [isMark, beq_iff_eq] at closes
    simp [isMark, closes]
  simp [depthAt_succ stands, notOpen, closes]

/-- Tokens that are no parentheses keep the depth. -/
theorem depthAt_eq_of_flat (flat : Between file start stop IsFlat) (ordered : start ≤ stop) :
    depthAt file stop = depthAt file start := by
  induction stop, ordered using Nat.le_induction with
  | base => rfl
  | succ stop ordered inductionHypothesis =>
    rw [← inductionHypothesis (flat.narrow (Nat.le_refl _) (Nat.le_succ stop))]
    cases stands : file[stop]? with
    | none => rw [depthAt, List.take_add_one, stands, depthAt, Option.toList_none, List.append_nil]
    | some token =>
      obtain ⟨notOpen, notClose⟩ := flat stop token ordered (Nat.lt_succ_self stop) stands
      simp [depthAt_succ stands, notOpen, notClose]

end Depth

/-- What the outcome of a search for a closing parenthesis, begun at a position, says about depths: up to
the closing one, or to the end of the file if there is none, they stay above the depth outside, and past
the closing one it is reached again. -/
def StaysAbove (file : List Token) (outer index : Nat) : Option (List Token × List Token) → Prop
  | some (inside, after) =>
    (∀ place, index ≤ place → place ≤ index + inside.length → outer < depthAt file place) ∧
      (∃ closing, file[index + inside.length]? = some closing ∧ closing.isMark .closeParen = true) ∧
      depthAt file (index + inside.length + 1) = outer ∧
      file.drop (index + inside.length + 1) = after
  | none => ∀ place, index ≤ place → place ≤ file.length → outer < depthAt file place

section Searching

variable {file : List Token} {outer index : Nat}

/-- A search may begin one token earlier. -/
theorem StaysAbove.earlier {found : Option (List Token × List Token)}
    (above : StaysAbove file outer (index + 1) found) (here : outer < depthAt file index)
    (token : Token) :
    StaysAbove file outer index (found.map fun parts => (token :: parts.1, parts.2)) := by
  cases found with
  | none =>
    intro place begins ends
    rcases Nat.eq_or_lt_of_le begins with rfl | later
    · exact here
    · exact above place later ends
  | some parts =>
    obtain ⟨inside, after⟩ := parts
    obtain ⟨deep, closing, level, tail⟩ := above
    have moved : index + (token :: inside).length = index + 1 + inside.length := by
      rw [List.length_cons]
      omega
    simp only [Option.map_some, StaysAbove, moved]
    refine ⟨fun place begins ends => ?_, closing, level, tail⟩
    rcases Nat.eq_or_lt_of_le begins with rfl | later
    · exact here
    · exact deep place later ends

theorem getElem?_of_drop {token : Token} {rest : List Token} (ahead : file.drop index = token :: rest) :
    file[index]? = some token := by
  have head := congrArg List.head? ahead
  simpa [List.head?_drop] using head

theorem drop_succ_of_drop {token : Token} {rest : List Token}
    (ahead : file.drop index = token :: rest) : file.drop (index + 1) = rest := by
  have tail := congrArg List.tail ahead
  simpa [List.tail_drop] using tail

/-- The search for a closing parenthesis stays above the depth outside. -/
theorem closeParen?_staysAbove {tokens : List Token} {depth : Nat} (ahead : file.drop index = tokens)
    (deep : depthAt file index = outer + depth + 1) :
    StaysAbove file outer index (closeParen? depth tokens) := by
  induction tokens generalizing depth index with
  | nil =>
    intro place begins ends
    have last : file.length ≤ index := List.drop_eq_nil_iff.mp ahead
    obtain rfl : place = index := by omega
    omega
  | cons token rest inductionHypothesis =>
    have stands := getElem?_of_drop ahead
    have next := drop_succ_of_drop ahead
    have here : outer < depthAt file index := by omega
    rw [closeParen?.eq_def]
    by_cases closes : token.isMark .closeParen = true
    · have falls := depthAt_succ_of_close stands closes
      simp only [closes, if_true]
      cases depth with
      | zero =>
        refine ⟨fun place begins ends => ?_, ⟨token, stands, closes⟩, ?_, next⟩
        · obtain rfl : place = index := by
            simp only [List.length_nil] at ends
            omega
          exact here
        · simp only [List.length_nil, Nat.add_zero]
          omega
      | succ depth => exact (inductionHypothesis next (by omega)).earlier here token
    · simp only [closes]
      refine (inductionHypothesis next ?_).earlier here token
      rw [depthAt_succ stands]
      split <;> omega

end Searching

/-- The tokens inside a parenthesis, given those after the opening one: all of them if it does not
close. -/
def insideParen (tokens : List Token) : List Token :=
  match closeParen? 0 tokens with
  | some (inside, _) => inside
  | none => tokens

theorem insideParen_eq {tokens inside after : List Token}
    (closes : closeParen? 0 tokens = some (inside, after)) : insideParen tokens = inside := by
  simp only [insideParen, closes]

section Parenthesis

variable {file tokens : List Token} {opening : Nat} {paren : Token}

theorem staysAbove_of_open (stands : file[opening]? = some paren)
    (opens : paren.isMark .openParen = true) (ahead : file.drop (opening + 1) = tokens) :
    StaysAbove file (depthAt file opening) (opening + 1) (closeParen? 0 tokens) :=
  closeParen?_staysAbove ahead (depthAt_succ_of_open stands opens)

/-- Inside a parenthesis the depth is above that at its opening. -/
theorem lt_depthAt_of_inside (stands : file[opening]? = some paren)
    (opens : paren.isMark .openParen = true) (ahead : file.drop (opening + 1) = tokens) {index : Nat}
    (begins : opening < index) (ends : index ≤ opening + 1 + (insideParen tokens).length) :
    depthAt file opening < depthAt file index := by
  have found := staysAbove_of_open stands opens ahead
  rw [insideParen] at ends
  cases closed : closeParen? 0 tokens with
  | none =>
    simp only [closed] at found ends
    have length := congrArg List.length ahead
    rw [List.length_drop] at length
    have inside : opening < file.length := (List.getElem?_eq_some_iff.mp stands).1
    exact found index begins (by omega)
  | some parts =>
    obtain ⟨inside, after⟩ := parts
    simp only [closed] at found ends
    exact found.1 index begins ends

/-- A parenthesis that closes does so at a closing one, past which the depth is as before. -/
theorem exists_closing (stands : file[opening]? = some paren)
    (opens : paren.isMark .openParen = true) (ahead : file.drop (opening + 1) = tokens)
    {inside after : List Token} (closes : closeParen? 0 tokens = some (inside, after)) :
    (∃ closing, file[opening + 1 + inside.length]? = some closing ∧
        closing.isMark .closeParen = true) ∧
      depthAt file (opening + 1 + inside.length + 1) = depthAt file opening ∧
      file.drop (opening + 1 + inside.length + 1) = after := by
  have found := staysAbove_of_open stands opens ahead
  rw [closes] at found
  exact found.2

end Parenthesis

/-- Whether each parenthesis that opens in the tokens closes in them. -/
def ClosesParens (tokens : List Token) : Prop :=
  ∀ front paren rest, tokens = front ++ paren :: rest → paren.isMark .openParen = true →
    (closeParen? 0 rest).isSome = true

section Closing

variable {file : List Token}

/-- Where each parenthesis closes, the depth comes back to the outermost level. -/
theorem ClosesParens.depthAt_length (closes : ClosesParens file) {index : Nat}
    (inFile : index ≤ file.length) (level : depthAt file index = 0) : depthAt file file.length = 0 := by
  rcases Nat.eq_or_lt_of_le inFile with rfl | inside
  · exact level
  have stands : file[index]? = some file[index] := List.getElem?_eq_getElem inside
  by_cases opens : file[index].isMark .openParen = true
  · have split : file = file.take index ++ file[index] :: file.drop (index + 1) := by
      rw [List.getElem_cons_drop, List.take_append_drop]
    obtain ⟨⟨within, after⟩, closed⟩ :=
      Option.isSome_iff_exists.mp (closes _ _ _ split opens)
    obtain ⟨⟨closing, ends, -⟩, past, -⟩ := exists_closing stands opens rfl closed
    have bound := (List.getElem?_eq_some_iff.mp ends).1
    exact closes.depthAt_length bound (past.trans level)
  · have next : depthAt file (index + 1) = 0 := by
      rw [depthAt_succ stands, if_neg opens, level]
      exact ite_self 0
    exact closes.depthAt_length inside next
termination_by file.length - index

/-- No parenthesis is open after the tokens just when each that opens in them closes in them. -/
theorem parenDepth_eq_zero_iff (tokens : List Token) :
    parenDepth tokens.reverse = 0 ↔ ClosesParens tokens := by
  have atEnd : depthAt tokens tokens.length = parenDepth tokens.reverse := by
    rw [depthAt, List.take_length]
  rw [← atEnd]
  constructor
  · rintro level front paren rest rfl opens
    rw [Option.isSome_iff_ne_none]
    intro unclosed
    have stands : (front ++ paren :: rest)[front.length]? = some paren := by simp
    have ahead : (front ++ paren :: rest).drop (front.length + 1) = rest := by simp
    have above := staysAbove_of_open stands opens ahead
    rw [unclosed] at above
    have deeper := above (front ++ paren :: rest).length (by simp) (Nat.le_refl _)
    omega
  · exact fun closes => closes.depthAt_length (Nat.zero_le _) rfl

end Closing

end ClassAtlas.Token

namespace ClassAtlas.Place

variable {file : List Token} {place : Place}

theorem depthAt_index (member : place ∈ list file) :
    Token.depthAt file place.index = Token.parenDepth place.before := by
  rw [Token.depthAt, tokens_eq_of_mem_list member, index, ← List.length_reverse, List.take_left,
    List.reverse_reverse]

/-- The tokens after a parenthesis begin right past its closing one. -/
theorem indexOf_afterParen (member : place ∈ list file) {paren : Token}
    {tokens inside after : List Token} (ahead : paren :: tokens <:+ place.after)
    (opens : paren.isMark .openParen = true)
    (closes : Token.closeParen? 0 tokens = some (inside, after)) :
    place.indexOf after = place.indexOf (paren :: tokens) + 1 + inside.length + 1 := by
  have tail := drop_indexOf_tail member ahead
  obtain ⟨⟨closing, stands, -⟩, -, beyond⟩ :=
    Token.exists_closing (getElem?_indexOf member ahead) opens tail closes
  have bound := (List.getElem?_eq_some_iff.mp stands).1
  have afterAhead : after <:+ place.after :=
    (Token.closeParen?_parts closes).2.trans ((List.suffix_cons paren tokens).trans ahead)
  have here := congrArg List.length (drop_indexOf member afterAhead)
  have there := congrArg List.length beyond
  have inFile := indexOf_le_length member afterAhead
  rw [List.length_drop] at here there
  omega

theorem between_indexOf (member : place ∈ list file) {passed rest : List Token}
    (ahead : passed ++ rest <:+ place.after) {holds : Token → Prop}
    (all : ∀ token ∈ passed, holds token) :
    Token.Between file (place.indexOf (passed ++ rest)) (place.indexOf rest) holds := by
  rw [indexOf_append ahead]
  exact ((standsAt_indexOf member ahead).of_isPrefix (List.prefix_append passed rest)).between all

theorem between_skipTrivia (member : place ∈ list file) {tokens : List Token}
    (ahead : tokens <:+ place.after) :
    Token.Between file (place.indexOf tokens) (place.indexOf (Token.skipTrivia tokens))
      (·.isTyped = true) := by
  have split : tokens = tokens.takeWhile Token.isTrivia ++ Token.skipTrivia tokens :=
    List.takeWhile_append_dropWhile.symm
  rw [split] at ahead
  have blanks := between_indexOf member ahead fun token inside =>
    Token.isTyped_of_isTrivia (List.all_eq_true.mp List.all_takeWhile token inside)
  rwa [← split] at blanks

end ClassAtlas.Place
