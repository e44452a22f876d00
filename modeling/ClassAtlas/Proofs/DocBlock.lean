import ClassAtlas.DocBlock
import ClassAtlas.Proofs.Text.Words

/-!
Reading a documentation comment loses, invents and reorders no word.

The lines of a comment are read one after the other, each to the end of the part that is being read, and
the parts come in the order in which they are read. What is known after some lines is kept by one more
line, whichever part it belongs to. Blanks may change: they only tell where words end.
-/

namespace ClassAtlas.DocBlock

open Text

/-- What is left of a line after its leading blanks, one star if there is one, and one space if there is
one. -/
def afterMargin (line : List Char) : List Char :=
  let text := line.dropWhile isBlank
  let text := if text.head? = some '*' then text.tail else text
  if text.head? = some ' ' then text.tail else text

/-- The words of a tag: its name after the at sign, and its body. -/
def tagWords (tag : DocTag) : List (List Char) :=
  bareWords ("@" ++ tag.name).toList ++ bareWords tag.body.toList

/-- The words of a documentation comment: those of the summary, of the description and of the tags. -/
def words (block : DocBlock) : List (List Char) :=
  bareWords block.summary.toList ++ bareWords block.description.toList ++ block.tags.flatMap tagWords

section Lines

theorem getD_afterStart? (char : Char) (chars : List Char) :
    (afterStart? [char] chars).getD chars = if chars.head? = some char then chars.tail else chars := by
  cases chars with
  | nil => rfl
  | cons first rest =>
    by_cases same : char = first
    · simp [afterStart?, same]
    · simp [afterStart?, same, Ne.symm same]

theorem withoutMargin_eq (line : String) :
    withoutMargin line = trimEnd (String.ofList (afterMargin line.toList)) := by
  rw [withoutMargin, getD_afterStart?, getD_afterStart?, afterMargin]

theorem afterMargin_subset (line : List Char) : afterMargin line ⊆ line := by
  have drops (char : Char) (chars : List Char) :
      (if chars.head? = some char then chars.tail else chars) ⊆ chars := by
    split
    · exact (List.tail_sublist chars).subset
    · exact List.Subset.refl chars
  rw [afterMargin]
  exact List.Subset.trans (drops ' ' _)
    (List.Subset.trans (drops '*' _) (List.dropWhile_sublist _).subset)

/-- The marks around a comment are taken off, and nothing else. -/
theorem body_enclosed (content : String) : body ("/**" ++ content ++ "*/") = content := by
  have opened : ("/**" ++ content ++ "*/").toList = '/' :: '*' :: '*' :: (content.toList ++ ['*', '/']) := by
    simp
  have closed : ('/' :: '*' :: '*' :: (content.toList ++ ['*', '/'])).reverse =
      '/' :: '*' :: (content.toList.reverse ++ ['*', '*', '/']) := by simp
  have visible : isBlank '/' = false := by decide
  have trimmed : (trim ("/**" ++ content ++ "*/")).toList =
      '/' :: '*' :: '*' :: (content.toList ++ ['*', '/']) := by
    rw [trim, dropAround, toList_dropEnd, toList_dropStart, opened,
      List.dropWhile_cons_of_neg (by simp [visible]), closed,
      List.dropWhile_cons_of_neg (by simp [visible]), ← closed, List.reverse_reverse]
  rw [body, trimmed]
  simp [afterStart?]

end Lines

section Tags

theorem tagWords_tagOf (rest : List Char) : tagWords (tagOf rest) = bareWords ('@' :: rest) := by
  rw [tagOf]
  split
  case h_1 name body cut =>
    have parts := toList_of_cutFirst? cut
    rw [String.toList_ofList] at parts
    rw [tagWords, bareWords_trim, parts, ← List.cons_append, bareWords_append_blank (by decide)]
    simp
  case h_2 => simp [tagWords]

/-- A continued tag has the words of its continuation at its end. -/
theorem tagWords_continued (tag : DocTag) (text : String) :
    tagWords { tag with body := trim (tag.body ++ " " ++ text) } = tagWords tag ++ bareWords text.toList := by
  have joined : (tag.body ++ " " ++ text).toList = tag.body.toList ++ ' ' :: text.toList := by simp
  rw [tagWords, bareWords_trim, joined, bareWords_append_blank (by decide), tagWords, List.append_assoc]

end Tags

namespace Reading

/-- The words that have been read, in the order of the parts. -/
def words (reading : Reading) : List (List Char) :=
  reading.summary.reverse.flatMap (bareWords ·.toList) ++
    reading.description.reverse.flatMap (bareWords ·.toList) ++ reading.tags.reverse.flatMap tagWords

/-- What is known after some lines: no part has begun that comes later than the one being read, all words
have been kept in order, and the lines of the description are lines that begin no tag. -/
structure Keeps (lines : List String) (reading : Reading) : Prop where
  beforeDescription : reading.part = .summary → reading.description = []
  beforeTags : reading.part ≠ .tags → reading.tags = []
  inTags : reading.part = .tags → reading.tags ≠ []
  words : reading.words = lines.flatMap (bareWords ·.toList)
  description : ∀ line ∈ reading.description, line ∈ lines ∧ ¬ Begins '@' line.toList

theorem start_keeps : Keeps [] .start where
  beforeDescription _ := rfl
  beforeTags _ := rfl
  inTags impossible := by cases impossible
  words := rfl
  description := by simp [start]

namespace Keeps

variable {lines : List String} {reading : Reading} {line : String}

/-- A line is added to what has been read. -/
theorem lines_append (keeps : Keeps lines reading) :
    (lines ++ [line]).flatMap (bareWords ·.toList) = reading.words ++ bareWords (trim line).toList ∧
      ∀ other ∈ reading.description, other ∈ lines ++ [line] ∧ ¬ Begins '@' other.toList := by
  constructor
  · simp [keeps.words]
  · exact fun other member =>
      (keeps.description other member).imp_left fun listed => List.mem_append_left _ listed

theorem beginTag (keeps : Keeps lines reading) {rest : List Char}
    (begins : (trim line).toList = '@' :: rest) :
    Keeps (lines ++ [line]) { reading with part := .tags, tags := tagOf rest :: reading.tags } where
  beforeDescription impossible := by cases impossible
  beforeTags impossible := absurd rfl impossible
  inTags _ := by simp
  words := by
    rw [keeps.lines_append.1, begins, ← tagWords_tagOf]
    simp [Reading.words]
  description := keeps.lines_append.2

theorem continueTag (keeps : Keeps lines reading) (isPart : reading.part = .tags) :
    Keeps (lines ++ [line]) { reading with tags := DocBlock.continueTag reading.tags (trim line) } := by
  have begun := keeps.inTags isPart
  cases tags : reading.tags with
  | nil => exact absurd tags begun
  | cons tag earlier =>
    rw [DocBlock.continueTag]
    exact {
      beforeDescription := keeps.beforeDescription
      beforeTags := fun other => absurd isPart other
      inTags := by simp
      words := by
        rw [keeps.lines_append.1]
        simp [Reading.words, tags, tagWords_continued]
      description := keeps.lines_append.2 }

theorem addSummary (keeps : Keeps lines reading) (isPart : reading.part = .summary) {next : Part}
    (notTags : next ≠ .tags) :
    Keeps (lines ++ [line]) { reading with summary := trim line :: reading.summary, part := next } where
  beforeDescription _ := keeps.beforeDescription isPart
  beforeTags _ := keeps.beforeTags (by simp [isPart])
  inTags isTags := absurd isTags notTags
  words := by
    rw [keeps.lines_append.1]
    simp [Reading.words, keeps.beforeDescription isPart, keeps.beforeTags (by simp [isPart])]
  description := keeps.lines_append.2

theorem addDescription (keeps : Keeps lines reading) (isPart : reading.part = .description)
    (plain : ¬ Begins '@' line.toList) :
    Keeps (lines ++ [line]) { reading with description := line :: reading.description } where
  beforeDescription isSummary := by
    rw [isPart] at isSummary
    cases isSummary
  beforeTags := keeps.beforeTags
  inTags := keeps.inTags
  words := by
    rw [keeps.lines_append.1]
    simp [Reading.words, keeps.beforeTags (by simp [isPart])]
  description := List.forall_mem_cons.mpr ⟨⟨by simp, plain⟩, keeps.lines_append.2⟩

theorem passBlank (keeps : Keeps lines reading) (isBlank : (trim line).isEmpty = true) :
    Keeps (lines ++ [line]) reading :=
  { keeps with
    words := by
      rw [keeps.lines_append.1, String.isEmpty_iff.mp isBlank]
      simp
    description := keeps.lines_append.2 }

theorem endSummary (keeps : Keeps lines reading) (isPart : reading.part = .summary) :
    Keeps lines { reading with part := .description } where
  beforeDescription impossible := by cases impossible
  beforeTags _ := keeps.beforeTags (by simp [isPart])
  inTags impossible := by cases impossible
  words := keeps.words
  description := keeps.description

/-- One more line is kept, whatever is being read. -/
theorem advance (keeps : Keeps lines reading) (line : String) :
    Keeps (lines ++ [line]) (reading.advance line) := by
  rw [Reading.advance]
  split
  case h_1 rest begins => exact keeps.beginTag begins
  case h_2 plain =>
    have notBegins : ¬ Begins '@' line.toList := fun begins =>
      (begins_iff_trim.mp begins).elim plain
    split
    case h_1 isPart =>
      split
      case isTrue isBlank => exact keeps.passBlank isBlank
      case isFalse => exact keeps.continueTag isPart
    case h_2 isPart =>
      split
      case isTrue isBlank =>
        split
        · exact keeps.passBlank isBlank
        · exact (keeps.passBlank isBlank).endSummary isPart
      case isFalse => exact keeps.addSummary isPart (by split <;> simp)
    case h_3 isPart => exact keeps.addDescription isPart notBegins

theorem foldl_advance {front : List String} (keeps : Keeps front reading) (more : List String) :
    Keeps (front ++ more) (more.foldl Reading.advance reading) := by
  induction more generalizing front reading with
  | nil =>
    rw [List.append_nil]
    exact keeps
  | cons line rest inductionHypothesis =>
    rw [List.append_cons, List.foldl_cons]
    exact inductionHypothesis (keeps.advance line)

end Keeps

end Reading

/-- Lines in front of which nothing is shown have no words. -/
theorem flatMap_dropWhile_blank (lines : List String) :
    (lines.dropWhile fun line => (trim line).isEmpty).flatMap (bareWords ·.toList) =
      lines.flatMap (bareWords ·.toList) := by
  induction lines with
  | nil => rfl
  | cons line rest inductionHypothesis =>
    rw [List.dropWhile_cons]
    split
    case isTrue blank =>
      have none := bareWords_trim line
      rw [String.isEmpty_iff.mp blank] at none
      rw [inductionHypothesis, List.flatMap_cons, ← none]
      rfl
    case isFalse => rfl

/-- A comment is what has been read after its last line. -/
theorem exists_reading (raw : String) :
    ∃ reading, Reading.Keeps (contentLines raw) reading ∧
      (parse raw).summary = join " " reading.summary.reverse ∧
      (parse raw).description = trim (join "\n" reading.description.reverse) ∧
      (parse raw).tags = reading.tags.reverse := by
  have keeps := Reading.start_keeps.foldl_advance (contentLines raw)
  rw [List.nil_append] at keeps
  refine ⟨(contentLines raw).foldl Reading.advance .start, keeps, ?_, ?_, ?_⟩ <;> rw [parse]

/-- The lines that are read have the words of the lines after their margins. -/
theorem words_contentLines (content : String) :
    (contentLines ("/**" ++ content ++ "*/")).flatMap (bareWords ·.toList) =
      (Text.lines content).flatMap fun line => bareWords (afterMargin line.toList) := by
  rw [contentLines, body_enclosed, flatMap_dropWhile_blank, List.flatMap_map]
  simp only [withoutMargin_eq, bareWords_trimEnd, String.toList_ofList]

/-- Nothing that is read has a line break in it. -/
theorem not_isLineBreak_of_mem_contentLines {raw line : String} (member : line ∈ contentLines raw) :
    ∀ char ∈ line.toList, isLineBreak char = false := by
  obtain ⟨written, listed, rfl⟩ := List.mem_map.mp ((List.dropWhile_sublist _).subset member)
  obtain ⟨chars, ofBody, rfl⟩ := List.mem_map.mp listed
  intro char inside
  apply not_isLineBreak_of_mem_linesFrom (by simp) chars ofBody char
  rw [withoutMargin_eq, trimEnd, toList_dropEnd, String.toList_ofList, String.toList_ofList] at inside
  exact afterMargin_subset chars
    (List.mem_reverse.mp ((List.dropWhile_sublist _).subset (List.mem_reverse.mp inside)))

/-- A comment has the words of its lines after their margins, in order: those of the summary, then those of
the description, then those of the tags, each with its name after the at sign. No line of the description
begins a tag. -/
theorem parse_keeps_words (content : String) :
    (parse ("/**" ++ content ++ "*/")).words =
        (Text.lines content).flatMap (fun line => bareWords (afterMargin line.toList)) ∧
      ∀ line ∈ Text.lines (parse ("/**" ++ content ++ "*/")).description,
        Text.startsWith (trim line) "@" = false := by
  obtain ⟨reading, keeps, summary, description, tags⟩ := exists_reading ("/**" ++ content ++ "*/")
  constructor
  · rw [words, summary, description, tags, bareWords_trim, bareWords_join (by decide),
      bareWords_join (by decide), ← words_contentLines, ← keeps.words, Reading.words]
  · intro line member
    rw [Bool.eq_false_iff]
    intro starts
    have ofDescription := beginsLine_of_mem_lines member (startsWith_trim_iff.mp starts)
    rw [description] at ofDescription
    obtain ⟨read, listed, opens⟩ := exists_begins_of_join
      (fun text listed => not_isLineBreak_of_mem_contentLines
        (keeps.description text (List.mem_reverse.mp listed)).1)
      (by decide) (beginsLine_of_trim ofDescription)
    exact (keeps.description read (List.mem_reverse.mp listed)).2 opens

/-- A comment whose tag is named up to a space and goes on in the next line. -/
def sample : String := "A.\n * b @x\n @c\td e\n*f"

theorem parse_keeps_words_sample :
    (parse ("/**" ++ sample ++ "*/")).words = ["A.", "b", "@x", "@c", "d", "e", "f"].map (·.toList) ∧
      (parse ("/**" ++ sample ++ "*/")).tags = [⟨"c\td", "e f"⟩] ∧
      "b @x" ∈ Text.lines (parse ("/**" ++ sample ++ "*/")).description ∧
      Text.startsWith (trim "b @x") "@" = false := by
  have read : parse ("/**" ++ sample ++ "*/") =
      ⟨"A.", "b @x", [⟨"c\td", "e f"⟩], "/**A.\n * b @x\n @c\td e\n*f*/"⟩ := by decide +kernel
  have member : "b @x" ∈ Text.lines (parse ("/**" ++ sample ++ "*/")).description := by
    rw [read]
    decide +kernel
  obtain ⟨kept, plain⟩ := parse_keeps_words sample
  exact ⟨kept.trans (by decide +kernel), by rw [read], member, plain _ member⟩

end ClassAtlas.DocBlock
