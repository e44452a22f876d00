import ClassAtlas.Proofs.Text.Search
import ClassAtlas.Text.Lines

/-!
Words between blanks, and the beginnings of lines.

A text falls apart into words at every blank. Trimming it, and joining texts with a blank between them,
neither loses nor invents a word. Every character that ends a line is a blank, so a character begins a
line, blanks before it apart, wherever only blanks stand between it and the last line break.
-/

namespace ClassAtlas.Text

/-- The words of a text: the pieces between blanks, apart from the empty ones. -/
def bareWords (chars : List Char) : List (List Char) := (pieces isBlank chars).filter (!·.isEmpty)

section Words

@[simp] theorem bareWords_nil : bareWords [] = [] := rfl

theorem pieces_ne_nil {α : Type} (separates : α → Bool) (items : List α) :
    pieces separates items ≠ [] := by
  cases items with
  | nil => simp [pieces]
  | cons item rest =>
    rw [pieces]
    split
    · simp
    · split <;> simp

/-- Pieces are cut at every separator, whatever stands before it. -/
theorem pieces_append {α : Type} {separates : α → Bool} {item : α} (isSeparator : separates item = true)
    (front back : List α) :
    pieces separates (front ++ item :: back) = pieces separates front ++ pieces separates back := by
  induction front with
  | nil => simp [pieces, isSeparator]
  | cons first rest inductionHypothesis =>
    rw [List.cons_append, pieces, pieces, inductionHypothesis]
    split
    · rfl
    · cases cut : pieces separates rest with
      | nil => exact absurd cut (pieces_ne_nil separates rest)
      | cons piece more => rfl

/-- A blank stands between words. -/
theorem bareWords_append_blank {char : Char} (blank : isBlank char = true) (front back : List Char) :
    bareWords (front ++ char :: back) = bareWords front ++ bareWords back := by
  rw [bareWords, pieces_append blank, List.filter_append]
  rfl

theorem bareWords_cons_blank {char : Char} (blank : isBlank char = true) (chars : List Char) :
    bareWords (char :: chars) = bareWords chars := by
  simpa using bareWords_append_blank blank [] chars

theorem bareWords_dropWhile (chars : List Char) : bareWords (chars.dropWhile isBlank) = bareWords chars := by
  induction chars with
  | nil => rfl
  | cons char rest inductionHypothesis =>
    rw [List.dropWhile_cons]
    split
    case isTrue blank => rw [inductionHypothesis, bareWords_cons_blank blank]
    case isFalse => rfl

theorem bareWords_append_blanks (front : List Char) {blanks : List Char}
    (areBlank : ∀ char ∈ blanks, isBlank char = true) : bareWords (front ++ blanks) = bareWords front := by
  induction blanks generalizing front with
  | nil => simp
  | cons char rest inductionHypothesis =>
    rw [List.forall_mem_cons] at areBlank
    have none := inductionHypothesis [] areBlank.2
    rw [bareWords_append_blank areBlank.1]
    simpa using none

@[simp] theorem bareWords_trimEnd (text : String) :
    bareWords (trimEnd text).toList = bareWords text.toList := by
  have atEnd : ∀ char ∈ (text.toList.reverse.takeWhile isBlank).reverse, isBlank char = true :=
    fun char member => List.all_eq_true.mp List.all_takeWhile char (List.mem_reverse.mp member)
  calc bareWords (trimEnd text).toList
      = bareWords ((text.toList.reverse.dropWhile isBlank).reverse ++
          (text.toList.reverse.takeWhile isBlank).reverse) := by
        rw [bareWords_append_blanks _ atEnd, trimEnd, toList_dropEnd]
    _ = bareWords text.toList := by
        rw [← List.reverse_append, List.takeWhile_append_dropWhile, List.reverse_reverse]

@[simp] theorem bareWords_trim (text : String) : bareWords (trim text).toList = bareWords text.toList := by
  have ends := bareWords_trimEnd (dropStart text isBlank)
  rw [toList_dropStart, bareWords_dropWhile] at ends
  exact ends

/-- Texts that are joined by a blank have the words of each. -/
theorem bareWords_join {separator : Char} (blank : isBlank separator = true) (texts : List String) :
    bareWords (join (String.ofList [separator]) texts).toList =
      texts.flatMap fun text => bareWords text.toList := by
  induction texts with
  | nil => rfl
  | cons first rest inductionHypothesis =>
    cases rest with
    | nil => simp [join]
    | cons second rest =>
      rw [join_cons_cons, String.toList_append, String.toList_append, String.toList_ofList,
        List.append_assoc, List.singleton_append, bareWords_append_blank blank, inductionHypothesis]
      rfl

end Words

section Lines

theorem isBlank_of_isLineBreak {char : Char} (breaks : isLineBreak char = true) : isBlank char = true := by
  simp only [isLineBreak, isBlank, Bool.or_eq_true, Bool.and_eq_true, decide_eq_true_eq, beq_iff_eq] at *
  omega

/-- A line has no line breaks. -/
theorem not_isLineBreak_of_mem_linesFrom {current chars : List Char}
    (plain : ∀ char ∈ current, isLineBreak char = false) :
    ∀ line ∈ linesFrom current chars, ∀ char ∈ line, isLineBreak char = false := by
  have read : ∀ char ∈ current.reverse, isLineBreak char = false :=
    fun char member => plain char (List.mem_reverse.mp member)
  fun_induction linesFrom current chars with
  | case1 => simp
  | case2 => simpa using plain
  | case3 current rest inductionHypothesis =>
    exact List.forall_mem_cons.mpr ⟨read, inductionHypothesis (by simp) (by simp)⟩
  | case4 current char rest _ breaks inductionHypothesis =>
    exact List.forall_mem_cons.mpr ⟨read, inductionHypothesis (by simp) (by simp)⟩
  | case5 current char rest _ passes inductionHypothesis =>
    have longer : ∀ other ∈ char :: current, isLineBreak other = false :=
      List.forall_mem_cons.mpr ⟨by simpa using passes, plain⟩
    exact inductionHypothesis longer fun other member => longer other (List.mem_reverse.mp member)

variable {wanted : Char} {fresh : Bool}

/-- Whether a line begins with a character, blanks before it apart. -/
def Begins (wanted : Char) (line : List Char) : Prop := (line.dropWhile isBlank).head? = some wanted

theorem begins_cons_blank {char : Char} (blank : isBlank char = true) (line : List Char) :
    Begins wanted (char :: line) ↔ Begins wanted line := by
  rw [Begins, List.dropWhile_cons_of_pos blank, Begins]

theorem begins_cons_of_not_blank {char : Char} (visible : isBlank char = false) (line : List Char) :
    Begins wanted (char :: line) ↔ char = wanted := by
  rw [Begins, List.dropWhile_cons_of_neg (by simp [visible]), List.head?_cons, Option.some.injEq]

/-- A character that is added to a line begins it only after blanks. -/
theorem begins_append_singleton {line : List Char} {char : Char}
    (begins : Begins wanted (line ++ [char])) :
    Begins wanted line ∨ line.all isBlank = true ∧ char = wanted := by
  induction line with
  | nil =>
    rw [List.nil_append, Begins, List.dropWhile_cons] at begins
    split at begins
    · cases begins
    · exact .inr ⟨rfl, Option.some.inj begins⟩
  | cons first rest inductionHypothesis =>
    rw [List.cons_append] at begins
    cases blank : isBlank first with
    | true =>
      rw [begins_cons_blank blank] at begins ⊢
      simpa [blank] using inductionHypothesis begins
    | false =>
      rw [begins_cons_of_not_blank blank] at begins ⊢
      exact .inl begins

/-- Trimming a text does not change what it begins with. -/
theorem head?_trim (text : String) : (trim text).toList.head? = (text.toList.dropWhile isBlank).head? := by
  have stops := List.head?_dropWhile_not isBlank text.toList
  rw [trim, dropAround, toList_dropEnd, toList_dropStart]
  cases chars : text.toList.dropWhile isBlank with
  | nil => rfl
  | cons first rest =>
    have visible : isBlank first = false := by simpa [chars] using stops
    rw [List.reverse_cons, List.dropWhile_append]
    split
    · simp [visible]
    · simp

theorem begins_iff_trim {text : String} :
    Begins wanted text.toList ↔ ∃ rest, (trim text).toList = wanted :: rest := by
  rw [Begins, ← head?_trim, List.head?_eq_some_iff]

theorem startsWith_trim_iff {text : String} :
    startsWith (trim text) (String.ofList [wanted]) = true ↔ Begins wanted text.toList := by
  rw [begins_iff_trim, startsWith, List.isPrefixOf_iff_prefix, String.toList_ofList]
  exact ⟨fun ⟨rest, whole⟩ => ⟨rest, whole.symm⟩, fun ⟨rest, whole⟩ => ⟨rest, whole.symm⟩⟩

/-- Whether some line begins with a character, blanks before it apart. The flag says whether only blanks
stand between the last line break and the characters. -/
def beginsLine (wanted : Char) : Bool → List Char → Bool
  | _, [] => false
  | fresh, char :: rest =>
    (fresh && char == wanted) || beginsLine wanted (isLineBreak char || (fresh && isBlank char)) rest

theorem beginsLine_of_mem_linesFrom {current chars line : List Char}
    (member : line ∈ linesFrom current chars) (begins : Begins wanted line) :
    Begins wanted current.reverse ∨ beginsLine wanted (current.all isBlank) chars = true := by
  fun_induction linesFrom current chars with
  | case1 => cases member
  | case2 =>
    rw [List.mem_singleton.mp member] at begins
    exact .inl begins
  | case3 current rest inductionHypothesis =>
    rcases List.mem_cons.mp member with rfl | later
    · exact .inl begins
    · have opens := (inductionHypothesis later).resolve_left (by simp [Begins])
      rw [List.all_nil] at opens
      right
      simp [beginsLine, isLineBreak, opens]
  | case4 current char rest _ breaks inductionHypothesis =>
    rcases List.mem_cons.mp member with rfl | later
    · exact .inl begins
    · have opens := (inductionHypothesis later).resolve_left (by simp [Begins])
      rw [List.all_nil] at opens
      right
      simp [beginsLine, breaks, opens]
  | case5 current char rest _ passes inductionHypothesis =>
    rw [beginsLine, Bool.or_eq_true, Bool.and_eq_true, beq_iff_eq, Bool.eq_false_iff.mpr passes,
      Bool.false_or, Bool.and_comm, ← List.all_cons, ← List.all_reverse]
    rcases inductionHypothesis member with earlier | later
    · rw [List.reverse_cons] at earlier
      exact (begins_append_singleton earlier).imp_right .inl
    · exact .inr (.inr later)

/-- A character that begins a line of a text stands after blanks that go back to a line break or to the start
of the text. -/
theorem beginsLine_of_mem_lines {text line : String} (member : line ∈ lines text)
    (begins : Begins wanted line.toList) : beginsLine wanted true text.toList = true := by
  obtain ⟨chars, listed, rfl⟩ := List.mem_map.mp member
  rw [String.toList_ofList] at begins
  exact (beginsLine_of_mem_linesFrom listed begins).resolve_left (by simp [Begins])

theorem beginsLine_of_append {front : List Char} (begins : beginsLine wanted fresh front = true)
    (back : List Char) : beginsLine wanted fresh (front ++ back) = true := by
  induction front generalizing fresh with
  | nil => cases begins
  | cons char rest inductionHypothesis =>
    rw [beginsLine, Bool.or_eq_true] at begins
    rw [List.cons_append, beginsLine, Bool.or_eq_true]
    exact begins.imp_right inductionHypothesis

/-- Blanks in front of a text do not matter for what its lines begin with. -/
theorem beginsLine_of_dropWhile {chars : List Char}
    (begins : beginsLine wanted true (chars.dropWhile isBlank) = true) :
    beginsLine wanted true chars = true := by
  induction chars with
  | nil => cases begins
  | cons char rest inductionHypothesis =>
    rw [List.dropWhile_cons] at begins
    split at begins
    case isTrue blank => simp [beginsLine, blank, inductionHypothesis begins]
    case isFalse => exact begins

theorem beginsLine_of_trim {text : String} (begins : beginsLine wanted true (trim text).toList = true) :
    beginsLine wanted true text.toList = true := by
  have ends : (trim text).toList <+: text.toList.dropWhile isBlank := by
    rw [trim, dropAround, toList_dropEnd, toList_dropStart, ← List.reverse_suffix, List.reverse_reverse]
    exact List.dropWhile_suffix _
  obtain ⟨back, whole⟩ := ends
  exact beginsLine_of_dropWhile (whole ▸ beginsLine_of_append begins back)

/-- In characters without line breaks only the first line can begin with anything. -/
theorem begins_of_beginsLine {chars : List Char} (plain : ∀ char ∈ chars, isLineBreak char = false)
    (visible : isBlank wanted = false) (begins : beginsLine wanted fresh chars = true) :
    fresh = true ∧ Begins wanted chars := by
  induction chars generalizing fresh with
  | nil => cases begins
  | cons char rest inductionHypothesis =>
    rw [List.forall_mem_cons] at plain
    rw [beginsLine, plain.1, Bool.false_or, Bool.or_eq_true, Bool.and_eq_true, beq_iff_eq] at begins
    rcases begins with ⟨isFresh, rfl⟩ | later
    · exact ⟨isFresh, (begins_cons_of_not_blank visible rest).mpr rfl⟩
    · obtain ⟨isFresh, begins⟩ := inductionHypothesis plain.2 later
      rw [Bool.and_eq_true] at isFresh
      exact ⟨isFresh.1, (begins_cons_blank isFresh.2 rest).mpr begins⟩

theorem beginsLine_append_break {front back : List Char} {char : Char} (breaks : isLineBreak char = true)
    (visible : isBlank wanted = false) (begins : beginsLine wanted fresh (front ++ char :: back) = true) :
    beginsLine wanted fresh front = true ∨ beginsLine wanted true back = true := by
  induction front generalizing fresh with
  | nil =>
    have other : char ≠ wanted := by
      rintro rfl
      rw [isBlank_of_isLineBreak breaks] at visible
      cases visible
    simpa [beginsLine, breaks, other] using begins
  | cons first rest inductionHypothesis =>
    rw [List.cons_append, beginsLine, Bool.or_eq_true] at begins
    rw [beginsLine, Bool.or_eq_true, or_assoc]
    exact begins.imp_right inductionHypothesis

/-- What begins a line of texts that are joined by line feeds begins one of the texts. -/
theorem exists_begins_of_join {texts : List String}
    (plain : ∀ text ∈ texts, ∀ char ∈ text.toList, isLineBreak char = false)
    (visible : isBlank wanted = false)
    (begins : beginsLine wanted true (join (String.ofList ['\n']) texts).toList = true) :
    ∃ text ∈ texts, Begins wanted text.toList := by
  induction texts with
  | nil => cases begins
  | cons first rest inductionHypothesis =>
    rw [List.forall_mem_cons] at plain
    have here (opens : beginsLine wanted true first.toList = true) :
        ∃ text ∈ first :: rest, Begins wanted text.toList :=
      ⟨first, List.mem_cons_self, (begins_of_beginsLine plain.1 visible opens).2⟩
    cases rest with
    | nil => exact here begins
    | cons second rest =>
      rw [join_cons_cons, String.toList_append, String.toList_append, String.toList_ofList,
        List.append_assoc, List.singleton_append] at begins
      rcases beginsLine_append_break (by decide) visible begins with opens | later
      · exact here opens
      · obtain ⟨text, member, begins⟩ := inductionHypothesis plain.2 later
        exact ⟨text, List.mem_cons_of_mem first member, begins⟩

end Lines

end ClassAtlas.Text
