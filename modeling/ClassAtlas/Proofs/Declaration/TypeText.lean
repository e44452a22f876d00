import ClassAtlas.Declaration.TypeText
import ClassAtlas.Proofs.Text.Search
import ClassAtlas.Token.Stream

/-!
Types are resolved name by name.

The names in the text of a type are found again by characters of their own, which are not all that an
identifier can have: characters of the supplementary planes are read as part of a name only where they are
letters or numbers, and never at the start of a segment. Besides, blanks around the type are dropped, and
some of them can stand in identifiers. A type is resolved as its names are if each of its names is read as
one name and there are no blanks around it; and where no name has a separator in front, only then.
-/

namespace ClassAtlas.TypeText

open Text

section Reading

/-- Whether a text is one that is read as a segment of a name. -/
def takesSegment (text : String) : Bool :=
  match text.toList with
  | [] => false
  | first :: rest => startsSegment first && rest.all continuesSegment

/-- Whether segments are read as the segments of one name. -/
structure TakesSegments (segments : List String) : Prop where
  nonempty : segments ≠ []
  taken : ∀ segment ∈ segments, takesSegment segment = true

/-- A name as it is written: segments joined by separators, maybe with a separator in front. -/
def nameText (isRooted : Bool) (segments : List String) : String :=
  (if isRooted then "\\" else "") ++ join "\\" segments

/-- Segments, each with the separator before it. -/
def separated (segments : List String) : List Char :=
  segments.flatMap fun segment => '\\' :: segment.toList

theorem toList_join_separated (first : String) (rest : List String) :
    (join "\\" (first :: rest)).toList = first.toList ++ separated rest := by
  induction rest generalizing first with
  | nil => simp [join, separated]
  | cons second rest inductionHypothesis =>
    rw [join_cons_cons, String.toList_append, String.toList_append, inductionHypothesis]
    simp [separated]

theorem toList_nameText_true (segment : String) (segments : List String) :
    (nameText true (segment :: segments)).toList = separated (segment :: segments) := by
  rw [nameText, String.toList_append, toList_join_separated]
  rfl

theorem toList_nameText_false (segment : String) (segments : List String) :
    (nameText false (segment :: segments)).toList = segment.toList ++ separated segments := by
  rw [nameText, String.toList_append, toList_join_separated]
  rfl

/-- Whether the characters after a name do not go on with it. -/
def Stops (rest : List Char) : Prop := ∀ char ∈ rest.head?, continuesSegment char = false ∧ char ≠ '\\'

theorem continuesSegment_separator : continuesSegment '\\' = false := by decide +kernel

theorem startsSegment_separator : startsSegment '\\' = false := by decide

variable {segments : List String} {rest : List Char}

/-- The characters of a segment are passed, up to those that do not continue it. -/
theorem span_segment {more : List Char} (continues : more.all continuesSegment = true)
    (ends : ∀ char ∈ rest.head?, continuesSegment char = false) :
    (more ++ rest).takeWhile continuesSegment = more ∧
      (more ++ rest).dropWhile continuesSegment = rest := by
  rw [List.all_eq_true] at continues
  rw [List.takeWhile_append_of_pos continues, List.dropWhile_append_of_pos continues]
  cases rest with
  | nil => simp
  | cons char rest => simp [ends char rfl]

theorem Stops.ends_separated (stops : Stops rest) (segments : List String) :
    ∀ char ∈ (separated segments ++ rest).head?, continuesSegment char = false := by
  cases segments with
  | nil => exact fun char isHead => (stops char isHead).1
  | cons first others =>
    rintro char ⟨⟩
    exact continuesSegment_separator

theorem Stops.segmentsAhead_eq (stops : Stops rest) : segmentsAhead rest = ([], rest) := by
  rw [segmentsAhead.eq_def]
  split
  case h_1 => exact absurd rfl (stops '\\' rfl).2
  case h_2 => rfl

theorem segmentsAhead_cons {first : Char} (starts : startsSegment first = true) (more : List Char) :
    segmentsAhead ('\\' :: first :: more) =
      ('\\' :: first :: more.takeWhile continuesSegment ++
          (segmentsAhead (more.dropWhile continuesSegment)).1,
        (segmentsAhead (more.dropWhile continuesSegment)).2) := by
  rw [segmentsAhead.eq_def]
  simp [starts]

/-- What is read as a segment is one character and those that continue it. -/
theorem exists_cons_of_takesSegment {segment : String} (takes : takesSegment segment = true) :
    ∃ first more, segment.toList = first :: more ∧ startsSegment first = true ∧
      more.all continuesSegment = true := by
  rw [takesSegment] at takes
  split at takes
  case h_1 => cases takes
  case h_2 first more chars => exact ⟨first, more, chars, Bool.and_eq_true_iff.mp takes⟩

/-- Segments with separators before them are read up to what stops the name. -/
theorem segmentsAhead_separated (taken : ∀ segment ∈ segments, takesSegment segment = true)
    (stops : Stops rest) : segmentsAhead (separated segments ++ rest) = (separated segments, rest) := by
  induction segments with
  | nil => exact stops.segmentsAhead_eq
  | cons segment segments inductionHypothesis =>
    rw [List.forall_mem_cons] at taken
    obtain ⟨first, more, chars, starts, continues⟩ := exists_cons_of_takesSegment taken.1
    have opened : separated (segment :: segments) = '\\' :: first :: (more ++ separated segments) := by
      simp [separated, chars]
    obtain ⟨spanned, left⟩ := span_segment continues (stops.ends_separated segments)
    rw [opened, List.cons_append, List.cons_append, List.append_assoc, segmentsAhead_cons starts, spanned,
      left, inductionHypothesis taken.2]
    rfl

theorem nameAhead?_of_starts {first : Char} (starts : startsSegment first = true) (more : List Char) :
    nameAhead? (first :: more) =
      some (first :: more.takeWhile continuesSegment ++
          (segmentsAhead (more.dropWhile continuesSegment)).1,
        (segmentsAhead (more.dropWhile continuesSegment)).2) := by
  have other : first ≠ '\\' := by
    rintro rfl
    rw [startsSegment_separator] at starts
    cases starts
  rw [nameAhead?.eq_def]
  simp only [starts, if_true]

theorem nameAhead?_of_mark {mark : Char} (isMark : startsSegment mark = false) (other : mark ≠ '\\')
    (rest : List Char) : nameAhead? (mark :: rest) = none := by
  rw [nameAhead?.eq_def]
  simp [isMark]

variable {isRooted : Bool}

/-- A name is read to its end where something stops it. -/
theorem nameAhead?_nameText (takes : TakesSegments segments) (stops : Stops rest) :
    nameAhead? ((nameText isRooted segments).toList ++ rest) =
      some ((nameText isRooted segments).toList, rest) := by
  obtain ⟨nonempty, taken⟩ := takes
  obtain ⟨segment, segments, rfl⟩ := List.exists_cons_of_ne_nil nonempty
  cases isRooted with
  | true =>
    have opened : separated (segment :: segments) = '\\' :: (segment.toList ++ separated segments) := rfl
    rw [toList_nameText_true, nameAhead?.eq_def, opened, List.cons_append]
    dsimp only
    rw [← List.cons_append, ← opened, segmentsAhead_separated taken stops]
    rfl
  | false =>
    rw [List.forall_mem_cons] at taken
    obtain ⟨first, more, chars, starts, continues⟩ := exists_cons_of_takesSegment taken.1
    obtain ⟨spanned, left⟩ := span_segment continues (stops.ends_separated segments)
    rw [toList_nameText_false, chars, List.cons_append, List.cons_append, List.append_assoc,
      nameAhead?_of_starts starts, spanned, left, segmentsAhead_separated taken.2 stops]
    rfl

variable {resolve : String → String}

theorem substitute_of_nameAhead? {chars name after : List Char}
    (found : nameAhead? chars = some (name, after)) :
    substitute resolve chars =
      (resolveName resolve (String.ofList name)).toList ++ substitute resolve after := by
  cases chars with
  | nil => cases found
  | cons first rest =>
    rw [substitute]
    split
    case h_1 other afterOther again =>
      rw [found] at again
      cases again
      rfl
    case h_2 none =>
      rw [found] at none
      cases none

/-- Whether a character stands for itself in a type. -/
theorem substitute_mark {mark : Char} (isMark : startsSegment mark = false) (other : mark ≠ '\\')
    (rest : List Char) : substitute resolve (mark :: rest) = mark :: substitute resolve rest := by
  rw [substitute]
  split
  case h_1 name after found =>
    rw [nameAhead?_of_mark isMark other] at found
    cases found
  case h_2 => rfl

theorem takesSegment_cons {first : Char} (starts : startsSegment first = true) (rest : List Char) :
    takesSegment (String.ofList (first :: rest.takeWhile continuesSegment)) = true := by
  rw [takesSegment, String.toList_ofList]
  simp [starts]

theorem exists_separated_of_segmentsAhead (chars : List Char) : ∃ segments : List String,
    (∀ segment ∈ segments, takesSegment segment = true) ∧
      (segmentsAhead chars).1 = separated segments := by
  fun_induction segmentsAhead chars with
  | case1 first rest starts more after read inductionHypothesis =>
    obtain ⟨segments, taken, isRead⟩ := inductionHypothesis
    have isMore : more = separated segments := by
      rw [← isRead, read]
    refine ⟨String.ofList (first :: rest.takeWhile continuesSegment) :: segments,
      List.forall_mem_cons.mpr ⟨takesSegment_cons starts rest, taken⟩, ?_⟩
    rw [isMore]
    simp [separated]
  | case2 => exact ⟨[], by simp, rfl⟩
  | case3 => exact ⟨[], by simp, rfl⟩

theorem exists_nameText_of_nameAhead? {chars name after : List Char}
    (found : nameAhead? chars = some (name, after)) : ∃ isRooted segments,
      TakesSegments segments ∧ String.ofList name = nameText isRooted segments := by
  rw [nameAhead?.eq_def] at found
  split at found
  case h_1 => cases found
  case h_2 rest =>
    obtain ⟨segments, taken, isRead⟩ := exists_separated_of_segmentsAhead ('\\' :: rest)
    dsimp only at found
    split at found
    case isTrue => cases found
    case isFalse notEmpty =>
      cases found
      cases segments with
      | nil =>
        rw [isRead] at notEmpty
        exact absurd rfl notEmpty
      | cons segment segments =>
        refine ⟨true, segment :: segments, ⟨by simp, taken⟩, ?_⟩
        rw [isRead, ← toList_nameText_true, String.ofList_toList]
  case h_3 first rest _ =>
    split at found
    case isFalse => cases found
    case isTrue starts =>
      obtain ⟨segments, taken, isRead⟩ :=
        exists_separated_of_segmentsAhead (rest.dropWhile continuesSegment)
      cases found
      refine ⟨false, String.ofList (first :: rest.takeWhile continuesSegment) :: segments,
        ⟨by simp, List.forall_mem_cons.mpr ⟨takesSegment_cons starts rest, taken⟩⟩, ?_⟩
      rw [← String.toList_inj, nameText, String.toList_append, toList_join_separated, isRead]
      simp

/-- If no name that is read gets longer, no type does. -/
theorem length_substitute_le (shortens : ∀ isRooted segments, TakesSegments segments →
      (resolveName resolve (nameText isRooted segments)).length ≤ (nameText isRooted segments).length)
    (chars : List Char) : (substitute resolve chars).length ≤ chars.length := by
  fun_induction substitute resolve chars with
  | case1 => exact Nat.le_refl 0
  | case2 first rest name after found inductionHypothesis =>
    obtain ⟨isRooted, segments, takes, isName⟩ := exists_nameText_of_nameAhead? found
    have whole := congrArg List.length (append_of_nameAhead? found).2
    have bound := shortens isRooted segments takes
    rw [← isName] at bound
    simp only [List.length_append, String.length_toList, String.length_ofList] at whole bound ⊢
    omega
  | case3 first rest none inductionHypothesis =>
    simp only [List.length_cons]
    omega

end Reading

section Expressions

/-- A name as it is written in a type: identifiers joined by separators, maybe with a separator in front. -/
structure WrittenName where
  isRooted : Bool
  segments : List String
  nonempty : segments ≠ []
  spelled : ∀ segment ∈ segments, Token.spellsSegment segment = true

namespace WrittenName

/-- The text of a name. -/
def text (name : WrittenName) : String := nameText name.isRooted name.segments

/-- Whether a name is read as one name. -/
def IsTaken (name : WrittenName) : Prop := ∀ segment ∈ name.segments, takesSegment segment = true

instance (name : WrittenName) : Decidable name.IsTaken :=
  inferInstanceAs (Decidable (∀ segment ∈ name.segments, takesSegment segment = true))

end WrittenName

/-- A type as it is written: names that are joined, made optional and put in parentheses. -/
inductive TypeExpression where
  | name (name : WrittenName)
  | optional (inner : TypeExpression)
  | grouped (inner : TypeExpression)
  | either (left right : TypeExpression)
  | both (left right : TypeExpression)

namespace TypeExpression

/-- The names in a type, in order. -/
def names : TypeExpression → List WrittenName
  | .name written => [written]
  | .optional inner => inner.names
  | .grouped inner => inner.names
  | .either left right => left.names ++ right.names
  | .both left right => left.names ++ right.names

/-- The text of a type in which each name is shown as a text. -/
def spell (shown : WrittenName → String) : TypeExpression → String
  | .name written => shown written
  | .optional inner => "?" ++ inner.spell shown
  | .grouped inner => "(" ++ inner.spell shown ++ ")"
  | .either left right => left.spell shown ++ "|" ++ right.spell shown
  | .both left right => left.spell shown ++ "&" ++ right.spell shown

/-- The text of a type. -/
def text (type : TypeExpression) : String := type.spell WrittenName.text

/-- The text of a type in which each name is replaced by what it stands for. -/
def resolved (resolve : String → String) (type : TypeExpression) : String :=
  type.spell fun name => resolveName resolve name.text

end TypeExpression

variable {type : TypeExpression} {resolve : String → String} {rest : List Char}

/-- Whether a text is one of the marks between the names of a type. -/
inductive IsMark : String → Char → Prop where
  | option : IsMark "?" '?'
  | opening : IsMark "(" '('
  | closing : IsMark ")" ')'
  | union : IsMark "|" '|'
  | intersection : IsMark "&" '&'

namespace IsMark

variable {mark : String} {char : Char}

theorem toList_append (isMark : IsMark mark char) (rest : List Char) :
    mark.toList ++ rest = char :: rest := by
  cases isMark <;> rfl

/-- A mark ends a name. -/
theorem stops (isMark : IsMark mark char) (rest : List Char) : Stops (mark.toList ++ rest) := by
  rw [isMark.toList_append]
  rintro _ ⟨⟩
  cases isMark <;> decide +kernel

/-- A mark stands for itself. -/
theorem substitute_append (isMark : IsMark mark char) (rest : List Char) :
    substitute resolve (mark.toList ++ rest) = mark.toList ++ substitute resolve rest := by
  rw [isMark.toList_append, isMark.toList_append]
  cases isMark <;> exact substitute_mark (by decide) (by decide) rest

end IsMark

/-- A type is resolved name by name if each of its names is read as one name. -/
theorem substitute_text (taken : ∀ name ∈ type.names, name.IsTaken) (stops : Stops rest) :
    substitute resolve (type.text.toList ++ rest) =
      (type.resolved resolve).toList ++ substitute resolve rest := by
  rw [TypeExpression.text, TypeExpression.resolved]
  induction type generalizing rest with
  | name name =>
    rw [TypeExpression.names, List.forall_mem_singleton] at taken
    rw [TypeExpression.spell, TypeExpression.spell, WrittenName.text,
      substitute_of_nameAhead? (nameAhead?_nameText ⟨name.nonempty, taken⟩ stops), String.ofList_toList]
  | optional inner inductionHypothesis =>
    simp only [TypeExpression.spell, String.toList_append, List.append_assoc]
    rw [IsMark.option.substitute_append, inductionHypothesis taken stops]
  | grouped inner inductionHypothesis =>
    simp only [TypeExpression.spell, String.toList_append, List.append_assoc]
    rw [IsMark.opening.substitute_append, inductionHypothesis taken (IsMark.closing.stops rest),
      IsMark.closing.substitute_append]
  | either left right leftHypothesis rightHypothesis =>
    rw [TypeExpression.names, List.forall_mem_append] at taken
    simp only [TypeExpression.spell, String.toList_append, List.append_assoc]
    rw [leftHypothesis taken.1 (IsMark.union.stops _), IsMark.union.substitute_append,
      rightHypothesis taken.2 stops]
  | both left right leftHypothesis rightHypothesis =>
    rw [TypeExpression.names, List.forall_mem_append] at taken
    simp only [TypeExpression.spell, String.toList_append, List.append_assoc]
    rw [leftHypothesis taken.1 (IsMark.intersection.stops _), IsMark.intersection.substitute_append,
      rightHypothesis taken.2 stops]

/-- A segment begins with a character that can begin an identifier; the others continue it, apart from a line
feed. -/
theorem exists_cons_of_spellsSegment {segment : String} (spells : Token.spellsSegment segment = true) :
    ∃ first more, segment.toList = first :: more ∧ Token.isIdentifierStart first = true ∧
      ∀ char ∈ more, Token.isIdentifierPart char = true ∨ char = '\n' := by
  have opened {chars : List Char} (identifier : Token.isIdentifier chars = true) :
      ∃ first more, chars = first :: more ∧ Token.isIdentifierStart first = true ∧
        ∀ char ∈ more, Token.isIdentifierPart char = true := by
    cases chars with
    | nil => cases identifier
    | cons first more =>
      obtain ⟨starts, continues⟩ := Bool.and_eq_true_iff.mp identifier
      exact ⟨first, more, rfl, starts, List.all_eq_true.mp continues⟩
  rw [Token.spellsSegment, Bool.or_eq_true, Bool.and_eq_true, beq_iff_eq, List.getLast?_eq_some_iff] at spells
  rcases spells with identifier | ⟨⟨front, chars⟩, identifier⟩
  · obtain ⟨first, more, chars, starts, continues⟩ := opened identifier
    exact ⟨first, more, chars, starts, fun char member => .inl (continues char member)⟩
  · rw [chars, List.dropLast_concat] at identifier
    obtain ⟨first, more, rfl, starts, continues⟩ := opened identifier
    refine ⟨first, more ++ ['\n'], chars, starts, fun char member => ?_⟩
    rcases List.mem_append.mp member with inside | isLast
    · exact .inl (continues char inside)
    · exact .inr (List.mem_singleton.mp isLast)

theorem separator_notMem_of_spellsSegment {segment : String}
    (spells : Token.spellsSegment segment = true) : '\\' ∉ segment.toList := by
  obtain ⟨first, more, chars, starts, continues⟩ := exists_cons_of_spellsSegment spells
  rw [chars, List.mem_cons, not_or]
  constructor
  · rintro rfl
    exact absurd starts (by decide)
  · intro member
    exact absurd (continues _ member) (by decide)

/-- No type is empty or begins with a colon. -/
theorem exists_cons_text (type : TypeExpression) :
    ∃ first more, type.text.toList = first :: more ∧ first ≠ ':' := by
  rw [TypeExpression.text]
  induction type with
  | name name =>
    obtain ⟨isRooted, segments, nonempty, spelled⟩ := name
    obtain ⟨segment, segments, rfl⟩ := List.exists_cons_of_ne_nil nonempty
    rw [List.forall_mem_cons] at spelled
    obtain ⟨first, more, chars, starts, -⟩ := exists_cons_of_spellsSegment spelled.1
    rw [TypeExpression.spell, WrittenName.text]
    cases isRooted with
    | true => exact ⟨'\\', _, toList_nameText_true segment segments, by decide⟩
    | false =>
      refine ⟨first, more ++ separated segments, ?_, ?_⟩
      · rw [toList_nameText_false, chars]
        rfl
      · rintro rfl
        exact absurd starts (by decide)
  | optional inner inductionHypothesis =>
    rw [TypeExpression.spell, String.toList_append, IsMark.option.toList_append]
    exact ⟨'?', _, rfl, by decide⟩
  | grouped inner inductionHypothesis =>
    rw [TypeExpression.spell, String.toList_append, String.toList_append, List.append_assoc,
      IsMark.opening.toList_append]
    exact ⟨'(', _, rfl, by decide⟩
  | either left right leftHypothesis rightHypothesis | both left right leftHypothesis rightHypothesis =>
    obtain ⟨first, more, chars, other⟩ := leftHypothesis
    rw [TypeExpression.spell, String.toList_append, String.toList_append, chars, List.cons_append,
      List.cons_append]
    exact ⟨first, _, rfl, other⟩

/-- The text of a type without blanks around it is resolved as it stands. -/
theorem resolve?_text (taken : ∀ name ∈ type.names, name.IsTaken) (unpadded : trim type.text = type.text)
    (aliases : Aliases) (space : String) :
    resolve? aliases space type.text = some (type.resolved (Name.resolve aliases space)) := by
  obtain ⟨first, more, chars, other⟩ := exists_cons_text type
  have noColon : dropStart type.text (· == ':') = type.text := by
    rw [← String.toList_inj, toList_dropStart, chars, List.dropWhile_cons_of_neg (by simpa using other)]
  have notEmpty : type.text.isEmpty = false := by
    rw [Bool.eq_false_iff]
    intro empty
    rw [String.isEmpty_iff.mp empty] at chars
    cases chars
  have read : substitute (Name.resolve aliases space) (type.text.toList ++ []) = _ :=
    substitute_text taken (by simp [Stops])
  rw [List.append_nil, substitute, List.append_nil] at read
  rw [resolve?, unpadded, noColon, unpadded, notEmpty, read, String.ofList_toList]
  rfl

end Expressions

section Outside

variable {char : Char}

theorem bounds_of_isUpper (upper : char.isUpper = true) : 0x41 ≤ char.toNat ∧ char.toNat ≤ 0x5a :=
  of_decide_eq_true upper

theorem bounds_of_isLower (lower : char.isLower = true) : 0x61 ≤ char.toNat ∧ char.toNat ≤ 0x7a := by
  obtain ⟨above, below⟩ := Bool.and_eq_true_iff.mp lower
  exact ⟨of_decide_eq_true above, of_decide_eq_true below⟩

theorem bounds_of_isDigit (digit : char.isDigit = true) : 0x30 ≤ char.toNat ∧ char.toNat ≤ 0x39 := by
  obtain ⟨above, below⟩ := Bool.and_eq_true_iff.mp digit
  exact ⟨of_decide_eq_true above, of_decide_eq_true below⟩

theorem isWordChar_of_isAlpha (alpha : char.isAlpha = true) : isWordChar char = true := by
  have ranges : (0x41, 0x5a) ∈ alphanumericRanges ∧ (0x61, 0x7a) ∈ alphanumericRanges := by
    decide +kernel
  rw [isWordChar, Bool.or_eq_true, inRanges_iff]
  right
  rcases (Bool.or_eq_true _ _).mp alpha with upper | lower
  · exact ⟨_, ranges.1, bounds_of_isUpper upper⟩
  · exact ⟨_, ranges.2, bounds_of_isLower lower⟩

theorem isWordChar_of_isDigit (digit : char.isDigit = true) : isWordChar char = true := by
  rw [isWordChar, Bool.or_eq_true, inRanges_iff]
  exact .inr ⟨(0x30, 0x39), by decide +kernel, bounds_of_isDigit digit⟩

theorem startsSegment_of_isIdentifierStart (starts : Token.isIdentifierStart char = true)
    (basic : char.toNat ≤ 0xffff) : startsSegment char = true := by
  simp only [Token.isIdentifierStart, startsSegment, isBasicPlane, Bool.or_eq_true, Bool.and_eq_true,
    decide_eq_true_eq] at starts ⊢
  exact starts.imp_right fun large => ⟨large, basic⟩

theorem continuesSegment_of_isIdentifierPart (continues : Token.isIdentifierPart char = true)
    (basic : char.toNat ≤ 0xffff) : continuesSegment char = true := by
  simp only [Token.isIdentifierPart, Token.isIdentifierStart, Bool.or_eq_true, beq_iff_eq,
    decide_eq_true_eq] at continues
  rw [continuesSegment, Bool.or_eq_true]
  rcases continues with ((alpha | rfl) | large) | digit
  · exact .inr (isWordChar_of_isAlpha alpha)
  · exact .inr rfl
  · exact .inl (by simp [isBasicPlane, large, basic])
  · exact .inr (isWordChar_of_isDigit digit)

/-- Whether a character can stand in a segment and is not read as part of one: a line feed, or a character
of a supplementary plane, letters and numbers apart. -/
def IsOutside (char : Char) : Prop := char = '\n' ∨ 0xffff < char.toNat

/-- A segment with no such character is read as one. -/
theorem takesSegment_of_inside {segment : String} (spells : Token.spellsSegment segment = true)
    (inside : ∀ char ∈ segment.toList, ¬ IsOutside char) : takesSegment segment = true := by
  obtain ⟨first, more, chars, starts, continues⟩ := exists_cons_of_spellsSegment spells
  rw [chars, List.forall_mem_cons] at inside
  have basic {char : Char} (notOutside : ¬ IsOutside char) : char ≠ '\n' ∧ char.toNat ≤ 0xffff :=
    ⟨fun same => notOutside (.inl same), Nat.not_lt.mp fun large => notOutside (.inr large)⟩
  simp only [takesSegment, chars]
  rw [Bool.and_eq_true, List.all_eq_true]
  refine ⟨startsSegment_of_isIdentifierStart starts (basic inside.1).2, fun char member => ?_⟩
  obtain ⟨other, inPlane⟩ := basic (inside.2 char member)
  exact continuesSegment_of_isIdentifierPart ((continues char member).resolve_right other) inPlane

theorem lowerRuns_supplementary : ∀ run ∈ lowerRuns, 0xffff < run.2.1 → 0x7f < run.2.2.2 := by
  decide +kernel

/-- The lowercase form of such a character is no lowercase letter of ASCII. -/
theorem exists_mem_lowerChar_of_isOutside (outside : IsOutside char) :
    ∃ image ∈ lowerChar char, image.isLower = false := by
  have notLower {other : Char} (large : 0x7f < other.toNat) : other.isLower = false := by
    rw [Bool.eq_false_iff]
    intro lower
    have bound := (bounds_of_isLower lower).2
    omega
  rcases outside with rfl | large
  · exact ⟨'\n', by decide, by decide⟩
  · rw [lowerChar, if_neg (by omega), if_neg (by simp; omega)]
    cases image : runImage? lowerRuns char.toNat with
    | none => exact ⟨char, by simp, notLower (by omega)⟩
    | some image =>
      obtain ⟨run, found, rfl⟩ := Option.map_eq_some_iff.mp image
      have holds := List.find?_some found
      simp only [Bool.and_eq_true, decide_eq_true_eq] at holds
      have far := lowerRuns_supplementary run (List.mem_of_find?_eq_some found) (by omega)
      refine ⟨_, List.mem_singleton_self _, ?_⟩
      by_cases valid : (run.2.2.2 + (char.toNat - run.1)).isValidChar
      · have made : Char.ofNat _ = Char.ofNatAux _ valid := dif_pos valid
        rw [made]
        exact notLower (Nat.lt_of_lt_of_le far (Nat.le_add_right _ _))
      · have made : Char.ofNat (run.2.2.2 + (char.toNat - run.1)) = '\x00' := dif_neg valid
        rw [made]
        decide

theorem mem_lowerFrom {image : Char} {chars : List Char} (member : char ∈ chars)
    (other : char.toNat ≠ 0x3a3) (isImage : image ∈ lowerChar char) (passed : List Char) :
    image ∈ lowerFrom passed chars := by
  induction chars generalizing passed with
  | nil => cases member
  | cons first rest inductionHypothesis =>
    rw [lowerFrom, List.mem_append]
    rcases List.mem_cons.mp member with rfl | later
    · left
      simpa [other] using isImage
    · exact .inr (inductionHypothesis later _)

/-- The names of the built-in types are lowercase letters of ASCII. -/
theorem builtins_letters : builtins.all (·.toList.all Char.isLower) = true := by decide +kernel

/-- No built-in type has such a character, in any spelling. -/
theorem not_builtin_of_isOutside {text : String} (member : char ∈ text.toList) (outside : IsOutside char) :
    builtins.contains (lower text) = false := by
  have other : char.toNat ≠ 0x3a3 := by
    rcases outside with rfl | large
    · decide
    · omega
  obtain ⟨image, isImage, notLower⟩ := exists_mem_lowerChar_of_isOutside outside
  have shown : image ∈ (lower text).toList := by
    rw [lower, String.toList_ofList]
    exact mem_lowerFrom member other isImage []
  rw [Bool.eq_false_iff]
  intro builtin
  have letters := List.all_eq_true.mp builtins_letters _ (List.contains_iff_mem.mp builtin)
  rw [List.all_eq_true.mp letters image shown] at notLower
  cases notLower

theorem mem_nameText {segments : List String} {segment : String} (listed : segment ∈ segments)
    (member : char ∈ segment.toList) (isRooted : Bool) : char ∈ (nameText isRooted segments).toList := by
  obtain ⟨first, rest, rfl⟩ := List.exists_cons_of_ne_nil (List.ne_nil_of_mem listed)
  have later {segment : String} {segments : List String} (listed : segment ∈ segments)
      (member : char ∈ segment.toList) : char ∈ separated segments :=
    List.mem_flatMap.mpr ⟨segment, listed, List.mem_cons_of_mem _ member⟩
  cases isRooted with
  | true =>
    rw [toList_nameText_true]
    exact later listed member
  | false =>
    rw [toList_nameText_false, List.mem_append]
    rcases List.mem_cons.mp listed with rfl | isLater
    · exact .inl member
    · exact .inr (later isLater member)

/-- A name that is not read as one name is no built-in type. -/
theorem WrittenName.not_builtin {name : WrittenName} (untaken : ¬ name.IsTaken) :
    builtins.contains (lower name.text) = false := by
  have reaches : ∃ segment ∈ name.segments, ∃ char ∈ segment.toList, IsOutside char :=
    Classical.byContradiction fun none => untaken fun segment listed =>
      takesSegment_of_inside (name.spelled segment listed) fun char member outside =>
        none ⟨segment, listed, char, member, outside⟩
  obtain ⟨segment, listed, char, member, outside⟩ := reaches
  exact not_builtin_of_isOutside (mem_nameText listed member name.isRooted) outside

end Outside

section Exactness

variable {aliases : Aliases} {space : String} {type : TypeExpression}

theorem length_dropStart_le (text : String) (drops : Char → Bool) :
    (dropStart text drops).length ≤ text.length := by
  rw [← String.length_toList, ← String.length_toList, toList_dropStart]
  exact (List.dropWhile_sublist drops).length_le

theorem trim_sublist (text : String) : (trim text).toList.Sublist text.toList := by
  have ends := (List.dropWhile_sublist isBlank (l := (dropStart text isBlank).toList.reverse)).reverse
  rw [List.reverse_reverse, toList_dropStart] at ends
  rw [trim, dropAround, toList_dropEnd, toList_dropStart]
  exact ends.trans (List.dropWhile_sublist isBlank)

theorem length_trim_le (text : String) : (trim text).length ≤ text.length := by
  rw [← String.length_toList, ← String.length_toList]
  exact (trim_sublist text).length_le

/-- A name for which nothing is imported does not get longer in the root namespace. -/
theorem length_resolve_le {name : String} (unbound : aliases.lookup name = none)
    (headUnbound : ∀ head rest, cutFirst? name '\\' = some (head, rest) → aliases.lookup head = none) :
    (Name.resolve aliases "" name).length ≤ name.length := by
  rw [Name.resolve]
  split
  · exact length_dropStart_le name _
  · rw [unbound]
    dsimp only
    split
    case h_1 head rest cut =>
      rw [headUnbound head rest cut]
      exact Nat.le_refl _
    case h_2 => exact Nat.le_refl _

/-- If no name that is read gets longer, no type does. -/
theorem length_resolve?_le (shortens : ∀ isRooted segments, TakesSegments segments →
      (Name.resolve aliases space (nameText isRooted segments)).length ≤ (nameText isRooted segments).length)
    {text result : String} (resolved : resolve? aliases space text = some result) :
    result.length ≤ (trim text).length := by
  have named (isRooted : Bool) (segments : List String) (takes : TakesSegments segments) :
      (resolveName (Name.resolve aliases space) (nameText isRooted segments)).length ≤
        (nameText isRooted segments).length := by
    rw [resolveName]
    split
    · exact Nat.le_refl _
    · exact shortens isRooted segments takes
  simp only [resolve?] at resolved
  split at resolved
  · cases resolved
  · cases resolved
    have bound := length_substitute_le named (trim (dropStart (trim text) (· == ':'))).toList
    rw [String.length_toList] at bound
    rw [String.length_ofList]
    exact Nat.le_trans bound (Nat.le_trans (length_trim_le _) (length_dropStart_le _ _))

theorem length_shown_le (shown : WrittenName → String) {name : WrittenName} (member : name ∈ type.names) :
    (shown name).length ≤ (type.spell shown).length := by
  induction type with
  | name written =>
    rw [List.mem_singleton.mp member]
    exact Nat.le_refl _
  | optional inner inductionHypothesis | grouped inner inductionHypothesis =>
    have bound := inductionHypothesis member
    simp only [TypeExpression.spell, String.length_append]
    omega
  | either left right leftHypothesis rightHypothesis | both left right leftHypothesis rightHypothesis =>
    simp only [TypeExpression.spell, String.length_append]
    rcases List.mem_append.mp member with isLeft | isRight
    · have bound := leftHypothesis isLeft
      omega
    · have bound := rightHypothesis isRight
      omega

theorem spell_congr {shown other : WrittenName → String}
    (same : ∀ name ∈ type.names, shown name = other name) : type.spell shown = type.spell other := by
  induction type with
  | name written => exact same written (List.mem_singleton_self written)
  | optional inner inductionHypothesis | grouped inner inductionHypothesis =>
    rw [TypeExpression.spell, TypeExpression.spell, inductionHypothesis same]
  | either left right leftHypothesis rightHypothesis | both left right leftHypothesis rightHypothesis =>
    rw [TypeExpression.names, List.forall_mem_append] at same
    rw [TypeExpression.spell, TypeExpression.spell, leftHypothesis same.1, rightHypothesis same.2]

theorem separator_notMem_of_takesSegment {segment : String} (takes : takesSegment segment = true) :
    '\\' ∉ segment.toList := by
  obtain ⟨first, more, chars, starts, continues⟩ := exists_cons_of_takesSegment takes
  rw [List.all_eq_true] at continues
  rw [chars, List.mem_cons, not_or]
  constructor
  · rintro rfl
    rw [startsSegment_separator] at starts
    cases starts
  · intro member
    have impossible := continues _ member
    rw [continuesSegment_separator] at impossible
    cases impossible

/-- A name without a separator in front tells its segments. -/
theorem eq_of_nameText_eq {segments others : List String} (nonempty : segments ≠ [])
    (plain : ∀ segment ∈ segments, '\\' ∉ segment.toList) (otherNonempty : others ≠ [])
    (otherPlain : ∀ segment ∈ others, '\\' ∉ segment.toList)
    (same : nameText false segments = nameText false others) : segments = others := by
  have joined : join (String.ofList ['\\']) segments = join (String.ofList ['\\']) others := by
    simpa [nameText] using same
  rw [← splitAt_join nonempty plain, ← splitAt_join otherNonempty otherPlain, joined]

/-- The first segment of a name is what stands before its first separator. -/
theorem head_of_cutFirst? {first head rest : String} {others : List String} (plain : '\\' ∉ first.toList)
    (cut : cutFirst? (nameText false (first :: others)) '\\' = some (head, rest)) : head = first := by
  have passed : ∀ char ∈ first.toList, (char != '\\') = true :=
    fun char member => bne_iff_ne.mpr fun same => plain (same ▸ member)
  have stops : (separated others).takeWhile (· != '\\') = [] := by cases others <;> rfl
  simp only [cutFirst?, toList_nameText_false, List.takeWhile_append_of_pos passed, stops,
    List.append_nil, String.ofList_toList] at cut
  split at cut
  · cases cut
  · exact (Prod.mk.inj (Option.some.inj cut)).1.symm

theorem WrittenName.startsWith_text {name : WrittenName} (unrooted : name.isRooted = false) :
    startsWith name.text "\\" = false := by
  obtain ⟨isRooted, segments, nonempty, spelled⟩ := name
  obtain ⟨segment, segments, rfl⟩ := List.exists_cons_of_ne_nil nonempty
  rw [List.forall_mem_cons] at spelled
  obtain ⟨first, more, chars, starts, -⟩ := exists_cons_of_spellsSegment spelled.1
  cases unrooted
  have other : first ≠ '\\' := by
    rintro rfl
    exact absurd starts (by decide)
  have apart : ('\\' == first) = false := beq_eq_false_iff_ne.mpr other.symm
  rw [WrittenName.text, startsWith, toList_nameText_false, chars, List.cons_append]
  show ('\\' == first && _) = false
  rw [apart, Bool.false_and]

/-- Whether a type is resolved as its names are. -/
def TypeExpression.Resolves (type : TypeExpression) : Prop :=
  ∀ aliases space, resolve? aliases space type.text = some (type.resolved (Name.resolve aliases space))

/-- A name with a separator in front gets shorter. -/
theorem length_resolve_rooted_le (segments : List String) :
    (Name.resolve aliases space (nameText true segments)).length ≤ (nameText true segments).length := by
  have rooted : startsWith (nameText true segments) "\\" = true := by simp [startsWith, nameText]
  rw [Name.resolve, if_pos rooted]
  exact length_dropStart_le _ _

/-- If a type is resolved as its names are, whatever is imported, each of its names without a separator in
front is read as one name: otherwise an import of that name makes what it stands for longer than the
type. -/
theorem TypeExpression.Resolves.isTaken (resolves : type.Resolves) {name : WrittenName}
    (member : name ∈ type.names) (unrooted : name.isRooted = false) : name.IsTaken := by
  refine Classical.byContradiction fun untaken => ?_
  have apart {segments : List String} (takes : TakesSegments segments) :
      nameText false segments ≠ name.text := by
    intro same
    rw [WrittenName.text, unrooted] at same
    have equal := eq_of_nameText_eq takes.nonempty
      (fun segment listed => separator_notMem_of_takesSegment (takes.taken segment listed)) name.nonempty
      (fun segment listed => separator_notMem_of_spellsSegment (name.spelled segment listed)) same
    exact untaken fun segment listed => takes.taken segment (equal ▸ listed)
  have long : ∃ full : String, type.text.length < full.length :=
    ⟨repeated (type.text.length + 1) 'x', by simp [repeated]⟩
  obtain ⟨full, longer⟩ := long
  have unbound {other : String} (different : other ≠ name.text) :
      ([(name.text, full)] : Aliases).lookup other = none := by
    rw [List.lookup_cons, beq_eq_false_iff_ne.mpr different]
    rfl
  have shortens (isRooted : Bool) (segments : List String) (takes : TakesSegments segments) :
      (Name.resolve [(name.text, full)] "" (nameText isRooted segments)).length ≤
        (nameText isRooted segments).length := by
    cases isRooted with
    | true => exact length_resolve_rooted_le segments
    | false =>
      refine length_resolve_le (unbound (apart takes)) fun head rest cut => unbound ?_
      obtain ⟨nonempty, taken⟩ := takes
      obtain ⟨first, others, rfl⟩ := List.exists_cons_of_ne_nil nonempty
      rw [List.forall_mem_cons] at taken
      rw [head_of_cutFirst? (separator_notMem_of_takesSegment taken.1) cut]
      have single : TakesSegments [first] := ⟨List.cons_ne_nil _ _, by simpa using taken.1⟩
      exact apart single
  have short := length_resolve?_le shortens (resolves [(name.text, full)] "")
  have stands : resolveName (Name.resolve [(name.text, full)] "") name.text = full := by
    rw [resolveName, name.not_builtin untaken, Name.resolve, name.startsWith_text unrooted]
    simp
  have shown := length_shown_le
    (fun written => resolveName (Name.resolve [(name.text, full)] "") written.text) member
  have bound := length_trim_le type.text
  rw [stands] at shown
  exact absurd (Nat.le_trans (Nat.le_trans shown short) bound) (Nat.not_le.mpr longer)

/-- If a type without separators in front of its names is resolved as its names are, there are no blanks
around it: otherwise it gets shorter where nothing is imported. -/
theorem TypeExpression.Resolves.trim_text (resolves : type.Resolves)
    (unrooted : ∀ name ∈ type.names, name.isRooted = false) : trim type.text = type.text := by
  have stands : type.resolved (Name.resolve [] "") = type.text := by
    refine spell_congr fun name member => ?_
    have same : Name.resolve [] "" name.text = name.text := by
      rw [Name.resolve, name.startsWith_text (unrooted name member), if_neg Bool.false_ne_true]
      cases cutFirst? name.text '\\' <;> rfl
    rw [resolveName, same]
    split <;> rfl
  have shortens (isRooted : Bool) (segments : List String) (_ : TakesSegments segments) :
      (Name.resolve [] "" (nameText isRooted segments)).length ≤ (nameText isRooted segments).length :=
    length_resolve_le rfl fun _ _ _ => rfl
  have short := length_resolve?_le shortens (resolves [] "")
  rw [stands] at short
  rw [← String.toList_inj]
  refine (trim_sublist type.text).eq_of_length_le ?_
  rw [String.length_toList, String.length_toList]
  exact short

/-- A type is resolved as its names are, whatever is imported and in every namespace, if each of its names is
read as one name and there are no blanks around it. A type that is so resolved has no other names without a
separator in front, and no blanks around it if all its names are of that kind. -/
theorem resolves_if_taken (type : TypeExpression) :
    ((∀ name ∈ type.names, name.IsTaken) → trim type.text = type.text → type.Resolves) ∧
      (type.Resolves →
        (∀ name ∈ type.names, name.isRooted = false → name.IsTaken) ∧
          ((∀ name ∈ type.names, name.isRooted = false) → trim type.text = type.text)) :=
  ⟨resolve?_text, fun resolves => ⟨fun _ => resolves.isTaken, resolves.trim_text⟩⟩

/-- A type with a name of two segments, a name with a separator in front, and a built-in type. -/
def mixedType : TypeExpression :=
  .either
    (.optional (.grouped (.both
      (.name ⟨false, ["A", "B"], by decide, by decide⟩) (.name ⟨true, ["C"], by decide, by decide⟩))))
    (.name ⟨false, ["INT"], by decide, by decide⟩)

/-- A type with a name beyond ASCII. -/
def plainType : TypeExpression := .name ⟨false, ["Été"], by decide, by decide⟩

theorem resolves_if_taken_mixed :
    resolve? [("A", "X\\A")] "N" mixedType.text = some "?(X\\A\\B&C)|INT" ∧
      resolve? [] "N" plainType.text = some "N\\Été" ∧ trim plainType.text = plainType.text := by
  have mixed : mixedType.Resolves := (resolves_if_taken mixedType).1 (by decide +kernel) (by decide +kernel)
  have plain : plainType.Resolves := (resolves_if_taken plainType).1 (by decide +kernel) (by decide +kernel)
  have unrooted : ∀ name ∈ plainType.names, name.isRooted = false := by decide
  refine ⟨(mixed _ _).trans ?_, (plain _ _).trans ?_, ((resolves_if_taken plainType).2 plain).2 unrooted⟩
  · decide +kernel
  · decide +kernel

/-- A type whose name is one character of a supplementary plane. -/
def supplementaryType : TypeExpression := .name ⟨false, ["😀"], by decide, by decide⟩

/-- The name of this type is not found: the type stays as it is. -/
theorem supplementary_unresolved :
    supplementaryType.text = "😀" ∧ resolve? [] "N" "😀" = some "😀" ∧
      supplementaryType.resolved (Name.resolve [] "N") = "N\\😀" ∧ ¬ supplementaryType.Resolves := by
  refine ⟨by decide +kernel, by decide +kernel, by decide +kernel, fun resolves => ?_⟩
  have taken : ∀ name ∈ supplementaryType.names, name.isRooted = false → name.IsTaken :=
    fun _ => resolves.isTaken
  revert taken
  decide +kernel

end Exactness

end ClassAtlas.TypeText
