import ClassAtlas.Release.Sync
import ClassAtlas.Proofs.Text.Replace
import ClassAtlas.Proofs.Text.Search
import Mathlib.Data.List.TakeWhile

/-!
The parts of a text that state a version, and what the patterns for them match.

A stated version is a part with a fixed opening that ends with the first character which cannot stand
inside it, so each pattern recognises one class of parts. A part in its new form screens the text in
front of it: the opening of a part in front does not reach into it, since no quote stands in an opening,
and a part that runs on from a quote in front ends at the first quote of the new form, as it ended at the
first quote of what the form replaced.
-/

namespace ClassAtlas.Release

open Text

/-- Parts made of an opening, at least one character of a class, and a closing. -/
def Enclosed (opening : List Char) (inside : Char → Bool) (isClosing : List Char → Prop)
    (part : List Char) : Prop :=
  ∃ middle closing, middle ≠ [] ∧ (∀ char ∈ middle, inside char = true) ∧ isClosing closing ∧
    part = opening ++ (middle ++ closing)

/-- Parts made of an opening and then at least one other character between two quotes. -/
def QuotedPart (opening : String) (quotes : Char → Bool) (part : List Char) : Prop :=
  ∃ first, quotes first = true ∧
    Enclosed (opening.toList ++ [first]) (!quotes ·) (∃ last, quotes last = true ∧ · = [last]) part

/-- Parts that show a version, as digits and dots, between the words of the badge. -/
def BadgePart : List Char → Prop :=
  Enclosed "release-v".toList (fun char => isDecimalDigit char || char == '.') (· = "-blue".toList)

section Recognition

theorem recognises_fixed {text : String} (nonempty : text ≠ "") :
    Recognises (fixed text) (· = text.toList) where
  size_iff := by
    intro chars size
    simp only [fixed, Option.map_eq_some_iff, afterStart?_eq_some_iff]
    constructor
    · rintro ⟨rest, isStart, rfl⟩
      exact ⟨text.toList, rest, rfl, isStart, String.length_toList.symm⟩
    · rintro ⟨span, rest, rfl, isStart, rfl⟩
      exact ⟨rest, isStart, String.length_toList.symm⟩
  nonempty := by
    rintro span rfl empty
    exact nonempty (String.toList_eq_nil_iff.mp empty)

theorem recognises_oneOf (accepts : Char → Bool) :
    Recognises (oneOf accepts) (∃ char, accepts char = true ∧ · = [char]) where
  size_iff := by
    intro chars size
    cases chars with
    | nil => simp [oneOf]
    | cons char rest =>
      simp only [oneOf, Option.ite_none_right_eq_some, Option.some.injEq]
      constructor
      · rintro ⟨accepted, rfl⟩
        exact ⟨[char], rest, ⟨char, accepted, rfl⟩, rfl, rfl⟩
      · rintro ⟨span, others, ⟨first, accepted, rfl⟩, same, rfl⟩
        obtain ⟨rfl, rfl⟩ := List.cons.inj same
        exact ⟨accepted, rfl⟩
  nonempty := by
    rintro span ⟨char, -, rfl⟩
    exact List.cons_ne_nil char []

/-- A run of characters ends where the closing begins, as nothing inside can begin a closing. -/
theorem recognises_spanLength? {opening : String} {inside : Char → Bool} {closing : Pattern}
    {isClosing : List Char → Prop} (closes : Recognises closing isClosing)
    (ends : ∀ closed, isClosing closed → ∀ char ∈ closed.head?, inside char = false) :
    Recognises (spanLength? opening inside closing) (Enclosed opening.toList inside isClosing) where
  size_iff := by
    intro chars size
    simp only [spanLength?, Option.bind_eq_bind, Option.bind_eq_some_iff, afterStart?_eq_some_iff,
      Option.pure_def, Option.ite_none_left_eq_some, Option.some.injEq, List.isEmpty_iff]
    constructor
    · rintro ⟨after, rfl, run, more, closed, rfl⟩
      obtain ⟨last, rest, isLast, left, rfl⟩ := closes.size_iff.mp closed
      have split := List.prefix_iff_eq_append.mp (List.takeWhile_prefix inside : _ <+: after)
      rw [left] at split
      refine ⟨opening.toList ++ (after.takeWhile inside ++ last), rest, ?_, ?_, ?_⟩
      · exact ⟨_, last, run, fun char member => List.mem_takeWhile_imp member, isLast, rfl⟩
      · rw [List.append_assoc, List.append_assoc, split]
      · simp only [List.length_append, String.length_toList, Nat.add_assoc]
    · rintro ⟨part, rest, ⟨middle, last, nonempty, allInside, isLast, rfl⟩, rfl, rfl⟩
      have run : (middle ++ (last ++ rest)).takeWhile inside = middle := by
        rw [List.takeWhile_append_of_pos allInside]
        cases last with
        | nil => exact absurd rfl (closes.nonempty isLast)
        | cons char more => simp [ends _ isLast char rfl]
      refine ⟨middle ++ (last ++ rest), by simp, by rwa [run], last.length, ?_, ?_⟩
      · rw [run, List.drop_left]
        exact closes.eq_some isLast rest
      · simp only [run, List.length_append, String.length_toList, Nat.add_assoc]
  nonempty := by
    rintro part ⟨middle, last, nonempty, -, -, rfl⟩ empty
    simp [nonempty] at empty

/-- The version entry of a package description is quoted. -/
theorem recognises_packageEntry : Recognises packageEntry (QuotedPart "version = " (· == '"')) := by
  have quoted : "\"" ≠ "" := by decide
  have recognises : Recognises packageEntry _ :=
    recognises_spanLength? (recognises_fixed quoted) (by
      rintro closed rfl char ⟨⟩
      decide)
  refine recognises.of_iff fun part => ?_
  simp only [QuotedPart, beq_iff_eq, exists_eq_left]
  exact Iff.rfl

/-- After the opening and a quote, the definition of the version constant goes on like any part that
ends with a quote. -/
theorem constantDefinition_eq_some_iff {chars : List Char} {size : Nat} :
    constantDefinition chars = some size ↔
      ∃ first rest more, isQuote first = true ∧ chars = "__version__ = ".toList ++ first :: rest ∧
        spanLength? "" (!isQuote ·) (oneOf isQuote) rest = some more ∧
        size = "__version__ = ".length + 1 + more := by
  simp only [constantDefinition, spanLength?, Option.bind_eq_bind, Option.bind_eq_some_iff,
    afterStart?_eq_some_iff, Option.pure_def, Option.ite_none_left_eq_some, Option.some.injEq]
  constructor
  · rintro ⟨_ | ⟨first, rest⟩, rfl, found⟩
    · cases found
    · simp only [Option.ite_none_right_eq_some, Option.ite_none_left_eq_some, Option.bind_eq_some_iff,
        Option.some.injEq] at found
      obtain ⟨isFirst, run, last, closed, rfl⟩ := found
      exact ⟨first, rest, _, isFirst, rfl, ⟨rest, rfl, run, last, closed, rfl⟩,
        by rw [String.length_empty]; omega⟩
  · rintro ⟨first, rest, _, isFirst, rfl, ⟨_, rfl, run, last, closed, rfl⟩, rfl⟩
    refine ⟨first :: rest, rfl, ?_⟩
    simp only [Option.ite_none_right_eq_some, Option.ite_none_left_eq_some, Option.bind_eq_some_iff,
      Option.some.injEq]
    exact ⟨isFirst, run, last, closed, by rw [String.length_empty]; omega⟩

/-- The definition of the version constant is quoted, with quotes of either kind. -/
theorem recognises_constantDefinition :
    Recognises constantDefinition (QuotedPart "__version__ = " isQuote) where
  size_iff := by
    intro chars size
    have after : Recognises (spanLength? "" (!isQuote ·) (oneOf isQuote)) _ :=
      recognises_spanLength? (recognises_oneOf isQuote) (by
        rintro closed ⟨last, isLast, rfl⟩ char ⟨⟩
        simp [isLast])
    rw [constantDefinition_eq_some_iff]
    constructor
    · rintro ⟨first, _, _, isFirst, rfl, found, rfl⟩
      obtain ⟨_, rest, ⟨middle, last, nonempty, plain, isLast, rfl⟩, rfl, rfl⟩ := after.size_iff.mp found
      refine ⟨_, rest, ⟨first, isFirst, middle, last, nonempty, plain, isLast, rfl⟩, ?_, ?_⟩
      · simp only [String.toList_empty, List.nil_append, List.append_assoc, List.cons_append]
      · simp only [List.length_append, List.length_singleton, String.length_toList, String.length_empty,
          Nat.zero_add]
    · rintro ⟨_, rest, ⟨first, isFirst, middle, last, nonempty, plain, isLast, rfl⟩, rfl, rfl⟩
      refine ⟨first, middle ++ last ++ rest, (middle ++ last).length, isFirst, ?_, ?_, ?_⟩
      · simp only [List.nil_append, List.append_assoc, List.cons_append]
      · exact after.size_iff.mpr ⟨_, rest, ⟨middle, last, nonempty, plain, isLast, rfl⟩, rfl, rfl⟩
      · simp only [List.length_append, List.length_singleton, String.length_toList]
  nonempty := by
    rintro part ⟨first, -, middle, last, -, -, -, rfl⟩ empty
    simp at empty

theorem recognises_badge : Recognises badge BadgePart :=
  recognises_spanLength? (recognises_fixed (by decide)) (by
    rintro closed rfl char ⟨⟩
    decide)

end Recognition

section Screening

/-- Characters that are no quotes hold no quote that stands before their end. -/
theorem absurd_of_quote {quotes : Char → Bool} {opening front back rest : List Char} {quote : Char}
    (plain : ∀ char ∈ opening, quotes char = false) (isQuote : quotes quote = true)
    (same : opening ++ back = front ++ quote :: rest) (short : front.length < opening.length) : False := by
  have notIn : quote ∉ opening := by
    intro member
    rw [plain quote member] at isQuote
    cases isQuote
  rcases List.append_eq_append_iff.mp same with ⟨more, rfl, -⟩ | ⟨more, rfl, left⟩
  · rw [List.length_append] at short
    omega
  · cases more with
    | nil =>
      rw [List.append_nil] at short
      omega
    | cons first others =>
      obtain ⟨rfl, -⟩ := List.cons.inj left
      exact notIn (List.mem_append_right _ List.mem_cons_self)

theorem startsWith_quoted {opening : String} {quotes : Char → Bool} {first last : Char}
    {middle : List Char} (isFirst : quotes first = true) (isLast : quotes last = true)
    (inhabited : middle ≠ []) (unquoted : ∀ char ∈ middle, (!quotes char) = true) (rest : List Char) :
    StartsWithSpan (QuotedPart opening quotes) (opening.toList ++ first :: (middle ++ last :: rest)) := by
  refine ⟨opening.toList ++ [first] ++ (middle ++ [last]), rest, ?_, ?_⟩
  · exact ⟨first, isFirst, middle, [last], inhabited, unquoted, ⟨last, isLast, rfl⟩, rfl⟩
  · simp only [List.append_assoc, List.cons_append, List.nil_append]

theorem screens_quoted {opening : String} {quotes : Char → Bool} {form : List Char}
    (nonempty : opening ≠ "") (unquoted : opening.toList.any quotes = false)
    (isForm : QuotedPart opening quotes form) : Screens (QuotedPart opening quotes) form := by
  have plain : ∀ char ∈ opening.toList, quotes char = false := by simpa using unquoted
  rintro front span rest later before ⟨begins, isBegin, spanMiddle, spanEnd, -, -, -, rfl⟩
    ⟨part, after, ⟨first, isFirst, middle, _, inhabited, unquoted, ⟨last, isLast, rfl⟩, rfl⟩, same⟩
  obtain ⟨_, -, _, _, -, -, -, rfl⟩ := isForm
  have positive : 0 < opening.toList.length :=
    List.length_pos_of_ne_nil (mt String.toList_eq_nil_iff.mp nonempty)
  simp only [List.append_assoc, List.cons_append, List.nil_append] at same ⊢
  rcases List.append_eq_append_iff.mp same with ⟨more, isOpening, left⟩ | ⟨more, rfl, left⟩
  -- The opening starts in front and would have to go on with a quote inside the form's opening.
  · refine (absurd_of_quote plain isFirst left ?_).elim
    have sizes := congrArg List.length isOpening
    rw [List.length_append] at sizes
    have := List.length_pos_of_ne_nil before
    omega
  cases more with
  | nil => exact (absurd_of_quote plain isFirst (show _ = [] ++ _ from left.symm) positive).elim
  | cons first others =>
    obtain ⟨rfl, further⟩ := List.cons.inj left
    rcases List.append_eq_append_iff.mp further with ⟨more, rfl, reached⟩ | ⟨more, rfl, reached⟩
    -- The part ends in front.
    · cases more with
      | nil => exact (absurd_of_quote plain isLast (show _ = [] ++ _ from reached.symm) positive).elim
      | cons last others =>
        obtain ⟨rfl, -⟩ := List.cons.inj reached
        simpa only [List.append_assoc, List.cons_append] using
          startsWith_quoted isFirst isLast inhabited unquoted _
    -- The part runs past the opening, up to the first quote of what was replaced.
    · have inside : ∀ char ∈ others ++ opening.toList, (!quotes char) = true := by
        intro char member
        rcases List.mem_append.mp member with inFront | inOpening
        · exact unquoted char (List.mem_append_left _ inFront)
        · simp [plain char inOpening]
      simpa only [List.append_assoc, List.cons_append] using
        startsWith_quoted isFirst isBegin
          (List.append_ne_nil_of_right_ne_nil others (List.ne_nil_of_length_pos positive)) inside _

/-- A badge begins with a letter that does not stand further on in it. -/
theorem BadgePart.eq_cons {part : List Char} (isBadge : BadgePart part) :
    ∃ rest, part = 'r' :: rest ∧ 'r' ∉ rest := by
  obtain ⟨middle, _, -, shown, rfl, rfl⟩ := isBadge
  refine ⟨"elease-v".toList ++ (middle ++ "-blue".toList), rfl, ?_⟩
  have notIn : 'r' ∉ middle := by
    intro member
    exact absurd (shown 'r' member) (by decide)
  simp only [List.mem_append, not_or]
  exact ⟨by decide, notIn, by decide⟩

theorem screens_badge {form : List Char} (isForm : BadgePart form) : Screens BadgePart form := by
  rintro front span rest later before - ⟨part, after, isPart, same⟩
  rcases List.append_eq_append_iff.mp same with ⟨more, whole, left⟩ | ⟨more, rfl, -⟩
  · cases more with
    | nil => exact ⟨part, span ++ rest, isPart, by rw [whole, List.append_nil]⟩
    | cons char others =>
      obtain ⟨tail, rfl, -⟩ := isForm.eq_cons
      obtain ⟨rfl, -⟩ := List.cons.inj left
      obtain ⟨rest, rfl, notIn⟩ := isPart.eq_cons
      cases front with
      | nil => exact absurd rfl before
      | cons first front =>
        obtain ⟨-, rfl⟩ := List.cons.inj whole
        simp at notIn
  · exact ⟨part, _, isPart, List.append_assoc ..⟩

end Screening

end ClassAtlas.Release
