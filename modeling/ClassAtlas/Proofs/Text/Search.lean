import ClassAtlas.Text.Blank
import ClassAtlas.Text.Search

/-!
Joining, searching and cutting text, seen through the characters of the text.

Every statement about a text is reduced to one about its list of characters: joining is appending,
containing is being an infix, and the part after the last separator is the longest suffix without one.
-/

namespace ClassAtlas.Text

theorem join_cons_cons (separator first second : String) (rest : List String) :
    join separator (first :: second :: rest) =
      first ++ separator ++ join separator (second :: rest) := rfl

@[simp] theorem concat_nil : concat [] = "" := rfl

@[simp] theorem concat_cons (first : String) (rest : List String) :
    concat (first :: rest) = first ++ concat rest := by
  cases rest with
  | nil => simp [concat, join]
  | cons second rest => simp [concat, join_cons_cons]

@[simp] theorem concat_append (front back : List String) :
    concat (front ++ back) = concat front ++ concat back := by
  induction front with
  | nil => simp
  | cons first rest inductionHypothesis => simp [inductionHypothesis, String.append_assoc]

theorem toList_join (separator : Char) (texts : List String) :
    (join (String.ofList [separator]) texts).toList =
      [separator].intercalate (texts.map String.toList) := by
  induction texts with
  | nil => rfl
  | cons first rest inductionHypothesis =>
    cases rest with
    | nil => simp [join]
    | cons second rest =>
      rw [join_cons_cons, String.toList_append, inductionHypothesis]
      simp

theorem notMem_join {char separator : Char} (other : char ≠ separator) {texts : List String}
    (plain : ∀ text ∈ texts, char ∉ text.toList) :
    char ∉ (join (String.ofList [separator]) texts).toList := by
  rw [toList_join]
  induction texts with
  | nil => simp
  | cons first rest inductionHypothesis =>
    rw [List.forall_mem_cons] at plain
    cases rest with
    | nil => simpa using plain.1
    | cons second rest =>
      have later := inductionHypothesis plain.2
      simp only [List.map_cons, List.intercalate_cons_cons, List.mem_append, not_or] at later ⊢
      exact ⟨⟨plain.1, by simpa using other⟩, later⟩

/-- Texts that are not empty and do not hold the separator can be told from what they join to. -/
theorem join_injective {separator : Char} {texts others : List String}
    (plain : ∀ text ∈ texts, separator ∉ text.toList ∧ text ≠ "")
    (otherPlain : ∀ text ∈ others, separator ∉ text.toList ∧ text ≠ "")
    (same : join (String.ofList [separator]) texts = join (String.ofList [separator]) others) :
    texts = others := by
  have cut : ∀ {texts : List String}, (∀ text ∈ texts, separator ∉ text.toList ∧ text ≠ "") →
      texts.map String.toList =
        ((join (String.ofList [separator]) texts).toList.splitOn separator).filter (!·.isEmpty) := by
    intro texts plain
    rw [toList_join]
    cases texts with
    | nil => simp [List.splitOn_nil]
    | cons first rest =>
      rw [List.splitOn_intercalate separator (by simp_all) (by simp), List.filter_eq_self.mpr]
      simp_all
  have mapped : texts.map String.toList = others.map String.toList := by
    rw [cut plain, cut otherPlain, same]
  have restore := congrArg (List.map String.ofList) mapped
  simpa using restore

theorem pieces_of_plain {α : Type} {separates : α → Bool} {items : List α}
    (plain : ∀ item ∈ items, separates item = false) : pieces separates items = [items] := by
  induction items with
  | nil => rfl
  | cons item rest inductionHypothesis =>
    rw [List.forall_mem_cons] at plain
    simp [pieces, plain.1, inductionHypothesis plain.2]

theorem pieces_append_cons {α : Type} {separates : α → Bool} {front : List α}
    (plain : ∀ item ∈ front, separates item = false) {item : α} (isSeparator : separates item = true)
    (rest : List α) :
    pieces separates (front ++ item :: rest) = front :: pieces separates rest := by
  induction front with
  | nil => simp [pieces, isSeparator]
  | cons first more inductionHypothesis =>
    rw [List.forall_mem_cons] at plain
    simp [pieces, plain.1, inductionHypothesis plain.2]

/-- Every item is a separator or stands in one of the pieces. -/
theorem separates_or_mem_pieces {α : Type} (separates : α → Bool) {items : List α} {item : α}
    (member : item ∈ items) :
    separates item = true ∨ ∃ piece ∈ pieces separates items, item ∈ piece := by
  induction items with
  | nil => cases member
  | cons first rest inductionHypothesis =>
    cases isSeparator : separates first with
    | true =>
      rcases List.mem_cons.mp member with rfl | further
      · exact .inl isSeparator
      · simpa [pieces, isSeparator] using inductionHypothesis further
    | false =>
      cases cut : pieces separates rest with
      | nil =>
        rcases List.mem_cons.mp member with rfl | further
        · exact .inr ⟨[item], by simp [pieces, isSeparator, cut], List.mem_singleton_self item⟩
        · exact .inl (by simpa [cut] using inductionHypothesis further)
      | cons piece more =>
        rw [pieces, isSeparator, cut]
        rcases List.mem_cons.mp member with rfl | further
        · exact .inr ⟨item :: piece, List.mem_cons_self, List.mem_cons_self⟩
        rw [cut] at inductionHypothesis
        rcases inductionHypothesis further with separator | ⟨other, among, inside⟩
        · exact .inl separator
        rcases List.mem_cons.mp among with rfl | among
        · exact .inr ⟨first :: other, List.mem_cons_self, List.mem_cons_of_mem _ inside⟩
        · exact .inr ⟨other, List.mem_cons_of_mem _ among, inside⟩

/-- Texts that do not hold the separator are given back by splitting what they join to. -/
theorem splitAt_join {separator : Char} {texts : List String} (nonempty : texts ≠ [])
    (plain : ∀ text ∈ texts, separator ∉ text.toList) :
    splitAt (join (String.ofList [separator]) texts) separator = texts := by
  have separated : ∀ {text : String}, separator ∉ text.toList →
      ∀ char ∈ text.toList, (char == separator) = false := by
    intro text notIn char member
    exact beq_eq_false_iff_ne.mpr fun same => notIn (same ▸ member)
  induction texts with
  | nil => exact absurd rfl nonempty
  | cons first rest inductionHypothesis =>
    rw [List.forall_mem_cons] at plain
    cases rest with
    | nil => simp [join, splitAt, pieces_of_plain (separated plain.1)]
    | cons second others =>
      have later := inductionHypothesis (List.cons_ne_nil second others) plain.2
      rw [splitAt] at later
      rw [join_cons_cons, splitAt, String.toList_append, String.toList_append, String.toList_ofList,
        List.append_assoc, List.singleton_append,
        pieces_append_cons (separated plain.1) (beq_self_eq_true separator), List.map_cons, later,
        String.ofList_toList]

/-- A text can be cut at the first separator in only one way. -/
theorem append_cons_injective {separator : Char} {front other back rest : List Char}
    (plain : separator ∉ front) (otherPlain : separator ∉ other)
    (same : front ++ separator :: back = other ++ separator :: rest) : front = other ∧ back = rest := by
  have cut := congrArg (List.splitOn separator) same
  rw [List.splitOn_append_cons_self_of_not_mem plain,
    List.splitOn_append_cons_self_of_not_mem otherPlain, List.cons.injEq] at cut
  obtain ⟨rfl, -⟩ := cut
  simpa using same

theorem afterStart?_eq_some_iff {α : Type} [BEq α] [LawfulBEq α] {start items rest : List α} :
    afterStart? start items = some rest ↔ items = start ++ rest := by
  induction start generalizing items with
  | nil => simp [afterStart?]
  | cons expected more inductionHypothesis =>
    cases items with
    | nil => simp [afterStart?]
    | cons item others =>
      by_cases same : expected = item
      · simp [afterStart?, same, inductionHypothesis]
      · simp [afterStart?, same, Ne.symm same]

/-- A list occurs in another exactly if it is an infix of it. -/
theorem occursIn_iff {α : Type} [BEq α] [LawfulBEq α] (needle items : List α) :
    occursIn needle items = true ↔ needle <:+: items := by
  induction items with
  | nil => simp [occursIn, List.isEmpty_iff]
  | cons item rest inductionHypothesis =>
    simp only [occursIn, Bool.or_eq_true, List.isPrefixOf_iff_prefix, inductionHypothesis,
      List.infix_cons_iff]

/-- One text occurs in another exactly if its characters are an infix. -/
theorem contains_iff (text needle : String) :
    contains text needle = true ↔ needle.toList <:+: text.toList :=
  occursIn_iff needle.toList text.toList

theorem endsWith_iff (text ending : String) :
    endsWith text ending = true ↔ ending.toList <:+ text.toList := by
  simp [endsWith]

/-- Cutting a text at a separator loses nothing else. -/
theorem toList_of_cutFirst? {text head rest : String} {separator : Char}
    (cut : cutFirst? text separator = some (head, rest)) :
    text.toList = head.toList ++ separator :: rest.toList := by
  have split := List.takeWhile_append_dropWhile (p := (· != separator)) (l := text.toList)
  have stops := List.head?_dropWhile_not (· != separator) text.toList
  simp only [cutFirst?] at cut
  cases dropped : text.toList.dropWhile (· != separator) with
  | nil => simp [dropped] at cut
  | cons found after =>
    have isSeparator : found = separator := by simpa [dropped] using stops
    simp only [dropped, Option.some.injEq, Prod.mk.injEq] at cut
    obtain ⟨rfl, rfl⟩ := cut
    rw [dropped, isSeparator] at split
    simpa using split.symm

/-- The items after the last one that equals a separator; all of them if there is none. -/
def lastPiece (separator : Char) (chars : List Char) : List Char :=
  (chars.reverse.takeWhile (· != separator)).reverse

theorem toList_afterLast (text : String) (separator : Char) :
    (afterLast text separator).toList = lastPiece separator text.toList := by
  have split := List.takeWhile_append_dropWhile (p := (· != separator)) (l := text.toList.reverse)
  simp only [afterLast, cutLast?, lastPiece]
  cases dropped : text.toList.reverse.dropWhile (· != separator) with
  | nil =>
    rw [dropped, List.append_nil] at split
    simp [split]
  | cons _ rest => simp

theorem lastPiece_suffix (separator : Char) (chars : List Char) :
    lastPiece separator chars <:+ chars := by
  rw [← List.reverse_prefix, lastPiece, List.reverse_reverse]
  exact List.takeWhile_prefix _

/-- What stands before a separator does not reach the last piece. -/
theorem lastPiece_append_cons (separator : Char) (front back : List Char) :
    lastPiece separator (front ++ separator :: back) = lastPiece separator back := by
  simp only [lastPiece, List.reverse_append, List.reverse_cons, List.append_assoc]
  rw [List.takeWhile_append]
  split
  case isTrue whole =>
    rw [(List.takeWhile_prefix _).eq_of_length whole]
    simp
  case isFalse => rfl

/-- Leading separators do not matter for the last piece. -/
theorem lastPiece_dropWhile (separator : Char) (chars : List Char) :
    lastPiece separator (chars.dropWhile (· == separator)) = lastPiece separator chars := by
  induction chars with
  | nil => rfl
  | cons char rest inductionHypothesis =>
    by_cases leading : char = separator
    · subst leading
      rw [List.dropWhile_cons_of_pos (by simp), inductionHypothesis]
      exact (lastPiece_append_cons char [] rest).symm
    · rw [List.dropWhile_cons_of_neg (by simpa using leading)]

end ClassAtlas.Text
