import ClassAtlas.Proofs.Token.Walk

/-!
Where parts of a file stand.

Detectors work on the tokens ahead of a place and compute positions from lengths. A part of a file
stands at the position that counts the tokens in front of it, and a tail of the tokens after a place
stands where the place says it does.
-/

namespace ClassAtlas

namespace Token

/-- Whether tokens stand in a file one after the other, the first of them at a position. -/
def StandsAt (file : List Token) (index : Nat) (part : List Token) : Prop :=
  ∃ front back, file = front ++ part ++ back ∧ front.length = index

namespace StandsAt

variable {file part : List Token} {index : Nat}

theorem getElem? (stands : StandsAt file index part) {offset : Nat} (inside : offset < part.length) :
    file[index + offset]? = part[offset]? := by
  obtain ⟨front, back, rfl, rfl⟩ := stands
  rw [List.append_assoc, List.getElem?_append_right (by omega), Nat.add_sub_cancel_left,
    List.getElem?_append_left inside]

theorem length_le (stands : StandsAt file index part) : index + part.length ≤ file.length := by
  obtain ⟨front, back, rfl, rfl⟩ := stands
  simp

theorem isInfix (stands : StandsAt file index part) : part <:+: file := by
  obtain ⟨front, back, rfl, rfl⟩ := stands
  exact ⟨front, back, rfl⟩

theorem of_isPrefix (stands : StandsAt file index part) {start : List Token} (leads : start <+: part) :
    StandsAt file index start := by
  obtain ⟨front, back, rfl, rfl⟩ := stands
  obtain ⟨rest, rfl⟩ := leads
  exact ⟨front, rest ++ back, by simp, rfl⟩

/-- What follows some tokens of a part stands after them. -/
theorem of_append {before after : List Token} (stands : StandsAt file index (before ++ after)) :
    StandsAt file (index + before.length) after := by
  obtain ⟨front, back, rfl, rfl⟩ := stands
  exact ⟨front ++ before, back, by simp, by simp⟩

theorem drop (stands : StandsAt file index part) {count : Nat} (inside : count ≤ part.length) :
    StandsAt file (index + count) (part.drop count) := by
  rw [← List.take_append_drop count part] at stands
  have later := stands.of_append
  rwa [List.length_take, Nat.min_eq_left inside] at later

theorem tail {token : Token} {rest : List Token} (stands : StandsAt file index (token :: rest)) :
    StandsAt file (index + 1) rest := by
  rw [← List.singleton_append] at stands
  exact stands.of_append

/-- What is found first in a part stands in the file at the position found. -/
theorem exists_hit (stands : StandsAt file index part) {finds : Token → Bool} {first : Token}
    (found : part.find? finds = some first) :
    ∃ hit, part.findIdx? finds = some hit ∧ file[index + hit]? = some first := by
  rw [List.find?_eq_bind_findIdx?_getElem?, Option.bind_eq_some_iff] at found
  obtain ⟨hit, named, isFirst⟩ := found
  have inside := (List.getElem?_eq_some_iff.mp isFirst).1
  exact ⟨hit, named, (stands.getElem? inside).trans isFirst⟩

/-- The text between the ends of a part is that of the part. -/
theorem codeBetween_eq (stands : StandsAt file index part) :
    codeBetween file index (index + part.length) = code part := by
  obtain ⟨front, back, rfl, rfl⟩ := stands
  rw [codeBetween, Nat.add_sub_cancel_left, List.append_assoc, List.drop_left, List.take_left]

end StandsAt

end Token

namespace Place

variable {tokens rest : List Token} {place : Place}

theorem mem_listFrom_append (earlier before : List Token) (token : Token) (after : List Token) :
    ⟨before.reverse ++ earlier, token, after⟩ ∈ listFrom earlier (before ++ token :: after) := by
  induction before generalizing earlier with
  | nil => exact List.mem_cons_self
  | cons first rest inductionHypothesis =>
    have later := inductionHypothesis (first :: earlier)
    rw [List.reverse_cons, List.append_assoc]
    exact List.mem_cons_of_mem _ later

/-- Every token of a list has its place. -/
theorem mem_list_append (before : List Token) (token : Token) (after : List Token) :
    ⟨before.reverse, token, after⟩ ∈ list (before ++ token :: after) := by
  simpa [list] using mem_listFrom_append [] before token after

/-- The places of a token list stand at increasing positions. -/
theorem listFrom_increasing (before tokens : List Token) :
    (listFrom before tokens).Pairwise fun first second => first.index < second.index := by
  have beyond : ∀ before tokens, ∀ place ∈ listFrom before tokens, before.length ≤ place.index := by
    intro before tokens
    induction tokens generalizing before with
    | nil => simp [listFrom]
    | cons token after inductionHypothesis =>
      rw [listFrom, List.forall_mem_cons]
      refine ⟨Nat.le_refl _, fun place member => ?_⟩
      exact Nat.le_of_succ_le (inductionHypothesis (token :: before) place member)
  induction tokens generalizing before with
  | nil => exact .nil
  | cons token after inductionHypothesis =>
    refine .cons (fun place member => ?_) (inductionHypothesis (token :: before))
    exact beyond (token :: before) after place member

theorem list_increasing (tokens : List Token) :
    (list tokens).Pairwise fun first second => first.index < second.index :=
  listFrom_increasing [] tokens

/-- The token of a place stands at its position. -/
theorem getElem?_index (member : place ∈ list tokens) : tokens[place.index]? = some place.token := by
  rw [tokens_eq_of_mem_list member, List.getElem?_append_right (by simp [index])]
  simp [index]

/-- A position is the position of one place only. -/
theorem eq_of_index_eq (member : place ∈ list tokens) {other : Place}
    (otherMember : other ∈ list tokens) (same : place.index = other.index) : place = other := by
  have whole := (tokens_eq_of_mem_list member).symm.trans (tokens_eq_of_mem_list otherMember)
  obtain ⟨before, rest⟩ := List.append_inj whole (by simpa [index] using same)
  rw [List.cons.injEq] at rest
  cases place
  cases other
  exact Place.mk.injEq .. ▸ ⟨List.reverse_inj.mp before, rest⟩

/-- The tokens after a place are those past its position. -/
theorem drop_index (member : place ∈ list tokens) : tokens.drop (place.index + 1) = place.after := by
  have split : tokens = (place.before.reverse ++ [place.token]) ++ place.after := by
    simpa using tokens_eq_of_mem_list member
  have length : place.index + 1 = (place.before.reverse ++ [place.token]).length := by simp [index]
  rw [split, length, List.drop_left]

theorem index_lt_length (member : place ∈ list tokens) : place.index < tokens.length := by
  have length := congrArg List.length (tokens_eq_of_mem_list member)
  simp only [List.length_append, List.length_reverse, List.length_cons] at length
  rw [index]
  omega

/-- A tail of the tokens after a place stands where the place says. -/
theorem standsAt_indexOf (member : place ∈ list tokens) (ahead : rest <:+ place.after) :
    Token.StandsAt tokens (place.indexOf rest) rest := by
  obtain ⟨passed, equal⟩ := ahead
  refine ⟨place.before.reverse ++ place.token :: passed, [], ?_, ?_⟩
  · rw [tokens_eq_of_mem_list member, ← equal]
    simp
  · rw [indexOf, ← equal]
    simp only [List.length_append, List.length_reverse, List.length_cons]
    omega

/-- A part of the tokens before a place, nearest first, stands after those that are further away. -/
theorem standsAt_before (member : place ∈ list tokens) {near part far : List Token}
    (order : place.before = near ++ (part ++ far)) :
    Token.StandsAt tokens far.length part.reverse := by
  refine ⟨far.reverse, near.reverse ++ place.token :: place.after, ?_, by simp⟩
  rw [tokens_eq_of_mem_list member, order]
  simp

theorem index_lt_indexOf (place : Place) (rest : List Token) : place.index < place.indexOf rest := by
  rw [index, indexOf]
  omega

/-- Passing tokens moves on by their number. -/
theorem indexOf_append {passed : List Token} (ahead : passed ++ rest <:+ place.after) :
    place.indexOf rest = place.indexOf (passed ++ rest) + passed.length := by
  have bound := ahead.length_le
  rw [List.length_append] at bound
  rw [indexOf, indexOf, List.length_append]
  omega

theorem indexOf_le_indexOf {later : List Token} (ahead : rest <:+ place.after) (left : later <:+ rest) :
    place.indexOf rest ≤ place.indexOf later := by
  obtain ⟨passed, rfl⟩ := left
  rw [indexOf_append ahead]
  exact Nat.le_add_right _ _

theorem indexOf_drop (ahead : rest <:+ place.after) {count : Nat} (inside : count ≤ rest.length) :
    place.indexOf (rest.drop count) = place.indexOf rest + count := by
  have bound := ahead.length_le
  rw [indexOf, indexOf, List.length_drop]
  omega

theorem indexOf_lt_indexOf {next : Token} {later : List Token} (ahead : rest <:+ place.after)
    (left : next :: later <:+ rest) : place.indexOf rest < place.indexOf later := by
  have shape : [next] ++ later <:+ place.after := left.trans ahead
  have passed : place.indexOf later = place.indexOf (next :: later) + 1 := indexOf_append shape
  have before := indexOf_le_indexOf ahead left
  omega

theorem indexOf_tail {token : Token} {rest : List Token} (ahead : token :: rest <:+ place.after) :
    place.indexOf rest = place.indexOf (token :: rest) + 1 := by
  rw [← List.singleton_append] at ahead
  exact indexOf_append ahead

theorem getElem?_indexOf (member : place ∈ list tokens) {token : Token} {rest : List Token}
    (ahead : token :: rest <:+ place.after) : tokens[place.indexOf (token :: rest)]? = some token := by
  have inside : 0 < (token :: rest).length := by simp
  have stands := (standsAt_indexOf member ahead).getElem? inside
  simpa using stands

/-- Ahead of where a tail stands there is that tail. -/
theorem drop_indexOf (member : place ∈ list tokens) {rest : List Token} (ahead : rest <:+ place.after) :
    tokens.drop (place.indexOf rest) = rest := by
  obtain ⟨passed, split⟩ := ahead
  have whole : tokens = place.before.reverse ++ place.token :: passed ++ rest := by
    rw [tokens_eq_of_mem_list member, ← split]
    simp
  have length : place.indexOf rest = (place.before.reverse ++ place.token :: passed).length := by
    rw [indexOf, ← split]
    simp only [List.length_append, List.length_reverse, List.length_cons]
    omega
  rw [whole, length, List.drop_left]

theorem drop_indexOf_tail (member : place ∈ list tokens) {token : Token} {rest : List Token}
    (ahead : token :: rest <:+ place.after) :
    tokens.drop (place.indexOf (token :: rest) + 1) = rest := by
  rw [← indexOf_tail ahead]
  exact drop_indexOf member ((List.suffix_cons token rest).trans ahead)

theorem indexOf_after (place : Place) : place.indexOf place.after = place.index + 1 := by
  rw [indexOf, index, Nat.sub_self, Nat.add_zero]

theorem indexOf_le_length (member : place ∈ list tokens) (ahead : rest <:+ place.after) :
    place.indexOf rest ≤ tokens.length :=
  Nat.le_trans (Nat.le_add_right _ _) (standsAt_indexOf member ahead).length_le

end Place

end ClassAtlas
