import ClassAtlas.Text.Replace
import Mathlib.Data.List.Basic

/-!
What replacing the matches of a pattern does to a text.

The matches of a pattern are spans of the text, and characters start with one span of a class at most.
Replacing puts a form in the place of each span that is met from left to right, and it keeps all other
characters. Replacing again changes nothing if the form is a span itself and screens what is kept: no
span begins in front of it that would not have begun in front of the span it replaced.
-/

namespace ClassAtlas.Text

/-- Whether characters start with a span of a class. -/
def StartsWithSpan (isSpan : List Char → Prop) (chars : List Char) : Prop :=
  ∃ span rest, isSpan span ∧ chars = span ++ rest

/-- Whether a pattern gives the lengths of the spans of a class. -/
structure Recognises (pattern : Pattern) (isSpan : List Char → Prop) : Prop where
  size_iff : ∀ {chars : List Char} {size : Nat}, pattern chars = some size ↔
    ∃ span rest, isSpan span ∧ chars = span ++ rest ∧ size = span.length
  nonempty : ∀ {span : List Char}, isSpan span → span ≠ []

/-- A text in which a form has taken the place of every span, from left to right; where no span begins,
the character is kept. -/
inductive Replaces (isSpan : List Char → Prop) (form : List Char) : List Char → List Char → Prop where
  | nil : Replaces isSpan form [] []
  | keep {char : Char} {rest later : List Char} (none : ¬ StartsWithSpan isSpan (char :: rest))
      (others : Replaces isSpan form rest later) : Replaces isSpan form (char :: rest) (char :: later)
  | span {span rest later : List Char} (matched : isSpan span)
      (others : Replaces isSpan form rest later) :
      Replaces isSpan form (span ++ rest) (form ++ later)

/-- A text in which a form has taken the place of the first span at the start of a line, if there is one.
The flag says whether a line starts here. -/
inductive ReplacesFirst (isSpan : List Char → Prop) (form : List Char) :
    Bool → List Char → List Char → Prop where
  | nil {startsLine : Bool} : ReplacesFirst isSpan form startsLine [] []
  | keep {startsLine : Bool} {char : Char} {rest later : List Char}
      (none : startsLine = true → ¬ StartsWithSpan isSpan (char :: rest))
      (others : ReplacesFirst isSpan form (char == '\n') rest later) :
      ReplacesFirst isSpan form startsLine (char :: rest) (char :: later)
  | span {span rest : List Char} (matched : isSpan span) :
      ReplacesFirst isSpan form true (span ++ rest) (form ++ rest)

/-- Whether a span that begins in front of a form would also begin in front of any span in its place. -/
def Screens (isSpan : List Char → Prop) (form : List Char) : Prop :=
  ∀ {front span rest later : List Char}, front ≠ [] → isSpan span →
    StartsWithSpan isSpan (front ++ (form ++ later)) → StartsWithSpan isSpan (front ++ (span ++ rest))

section Matching

variable {pattern : Pattern} {isSpan : List Char → Prop} {form chars span rest text later : List Char}

theorem Recognises.of_iff {isOther : List Char → Prop} (recognises : Recognises pattern isSpan)
    (same : ∀ span, isSpan span ↔ isOther span) : Recognises pattern isOther := by
  obtain rfl : isSpan = isOther := funext fun span => propext (same span)
  exact recognises

theorem Recognises.eq_none (recognises : Recognises pattern isSpan)
    (none : ¬ StartsWithSpan isSpan chars) : pattern chars = .none := by
  cases found : pattern chars with
  | none => rfl
  | some size =>
    obtain ⟨span, rest, matched, isStart, -⟩ := recognises.size_iff.mp found
    exact absurd ⟨span, rest, matched, isStart⟩ none

theorem Recognises.eq_some (recognises : Recognises pattern isSpan) (matched : isSpan span)
    (rest : List Char) : pattern (span ++ rest) = some span.length :=
  recognises.size_iff.mpr ⟨span, rest, matched, rfl, rfl⟩

/-- The characters of a match that has been replaced are passed over. -/
theorem replaceFrom_append (pattern : Pattern) (form skipped rest : List Char) :
    replaceFrom pattern form skipped.length (skipped ++ rest) = replaceFrom pattern form 0 rest := by
  induction skipped with
  | nil => rfl
  | cons char skipped inductionHypothesis =>
    rw [List.length_cons, List.cons_append, replaceFrom]
    exact inductionHypothesis

theorem replaceFrom_keep (recognises : Recognises pattern isSpan) {char : Char}
    (none : ¬ StartsWithSpan isSpan (char :: rest)) (form : List Char) :
    replaceFrom pattern form 0 (char :: rest) = char :: replaceFrom pattern form 0 rest := by
  rw [replaceFrom, recognises.eq_none none]

theorem replaceFrom_span (recognises : Recognises pattern isSpan) (matched : isSpan span)
    (form rest : List Char) :
    replaceFrom pattern form 0 (span ++ rest) = form ++ replaceFrom pattern form 0 rest := by
  cases span with
  | nil => exact absurd rfl (recognises.nonempty matched)
  | cons char more =>
    have found := recognises.eq_some matched rest
    rw [List.cons_append] at found ⊢
    rw [replaceFrom, found, List.length_cons]
    dsimp only
    rw [replaceFrom_append]

theorem replaceFirstFrom_keep (recognises : Recognises pattern isSpan) {startsLine : Bool} {char : Char}
    (none : startsLine = true → ¬ StartsWithSpan isSpan (char :: rest)) (form : List Char) :
    replaceFirstFrom pattern form startsLine (char :: rest) =
      char :: replaceFirstFrom pattern form (char == '\n') rest := by
  have unmatched : ∀ size, startsLine = true → pattern (char :: rest) = some (size + 1) → False := by
    intro size starting found
    rw [recognises.eq_none (none starting)] at found
    cases found
  rw [replaceFirstFrom]
  exact unmatched

theorem replaceFirstFrom_span (recognises : Recognises pattern isSpan) (matched : isSpan span)
    (form rest : List Char) :
    replaceFirstFrom pattern form true (span ++ rest) = form ++ rest := by
  cases span with
  | nil => exact absurd rfl (recognises.nonempty matched)
  | cons char more =>
    have found := recognises.eq_some matched rest
    rw [List.cons_append] at found ⊢
    simp only [replaceFirstFrom, found, List.length_cons, List.drop_left]

/-- Replacing every match is replacing every span. -/
theorem replaces_iff (recognises : Recognises pattern isSpan) :
    Replaces isSpan form text later ↔ replaceFrom pattern form 0 text = later := by
  constructor
  · intro replaces
    induction replaces with
    | nil => rfl
    | keep none _ inductionHypothesis =>
      rw [replaceFrom_keep recognises none, inductionHypothesis]
    | span matched _ inductionHypothesis =>
      rw [replaceFrom_span recognises matched, inductionHypothesis]
  · rintro rfl
    -- What is left after a span is shorter, since no span is empty.
    induction bound : text.length using Nat.strongRecOn generalizing text with
    | ind length inductionHypothesis =>
      subst bound
      by_cases starts : StartsWithSpan isSpan text
      · obtain ⟨span, rest, matched, rfl⟩ := starts
        rw [replaceFrom_span recognises matched]
        have positive := List.length_pos_of_ne_nil (recognises.nonempty matched)
        refine .span matched (inductionHypothesis rest.length ?_ rfl)
        rw [List.length_append]
        omega
      · cases text with
        | nil => exact .nil
        | cons char rest =>
          rw [replaceFrom_keep recognises starts]
          exact .keep starts (inductionHypothesis rest.length (Nat.lt_succ_self _) rfl)

/-- Replacing the first match at the start of a line is replacing the first span there. -/
theorem replacesFirst_iff (recognises : Recognises pattern isSpan) {startsLine : Bool} :
    ReplacesFirst isSpan form startsLine text later ↔
      replaceFirstFrom pattern form startsLine text = later := by
  constructor
  · intro replaces
    induction replaces with
    | nil => rw [replaceFirstFrom]
    | keep none _ inductionHypothesis =>
      rw [replaceFirstFrom_keep recognises none, inductionHypothesis]
    | span matched => exact replaceFirstFrom_span recognises matched form _
  · rintro rfl
    induction text generalizing startsLine with
    | nil =>
      rw [replaceFirstFrom]
      exact .nil
    | cons char rest inductionHypothesis =>
      by_cases starts : startsLine = true ∧ StartsWithSpan isSpan (char :: rest)
      · obtain ⟨rfl, span, after, matched, isStart⟩ := starts
        rw [isStart, replaceFirstFrom_span recognises matched]
        exact .span matched
      · have none : startsLine = true → ¬ StartsWithSpan isSpan (char :: rest) :=
          fun starting span => starts ⟨starting, span⟩
        rw [replaceFirstFrom_keep recognises none]
        exact .keep none inductionHypothesis

end Matching

section Again

variable {isSpan : List Char → Prop} {form text later front : List Char}

/-- Every character of the text that results is one of the text or of the form. -/
theorem Replaces.mem (replaces : Replaces isSpan form text later) {char : Char} (member : char ∈ later) :
    char ∈ text ∨ char ∈ form := by
  induction replaces with
  | nil => cases member
  | keep _ _ inductionHypothesis =>
    rcases List.mem_cons.mp member with rfl | rest
    · exact .inl List.mem_cons_self
    · exact (inductionHypothesis rest).imp_left (List.mem_cons_of_mem _)
  | span _ _ inductionHypothesis =>
    rcases List.mem_append.mp member with ofForm | rest
    · exact .inr ofForm
    · exact (inductionHypothesis rest).imp_left (List.mem_append_right _)

theorem ReplacesFirst.mem {startsLine : Bool} (replaces : ReplacesFirst isSpan form startsLine text later)
    {char : Char} (member : char ∈ later) : char ∈ text ∨ char ∈ form := by
  induction replaces with
  | nil => cases member
  | keep _ _ inductionHypothesis =>
    rcases List.mem_cons.mp member with rfl | rest
    · exact .inl List.mem_cons_self
    · exact (inductionHypothesis rest).imp_left (List.mem_cons_of_mem _)
  | span _ =>
    rcases List.mem_append.mp member with ofForm | rest
    · exact .inr ofForm
    · exact .inl (List.mem_append_right _ rest)

/-- A span that begins before replaced text began there before. -/
theorem Replaces.startsWithSpan (screens : Screens isSpan form)
    (replaces : Replaces isSpan form text later) (nonempty : front ≠ [])
    (starts : StartsWithSpan isSpan (front ++ later)) : StartsWithSpan isSpan (front ++ text) := by
  induction replaces generalizing front with
  | nil => exact starts
  | keep _ _ inductionHypothesis =>
    rw [List.append_cons] at starts ⊢
    exact inductionHypothesis (by simp) starts
  | span matched _ _ => exact screens nonempty matched starts

theorem ReplacesFirst.startsWithSpan (screens : Screens isSpan form) {startsLine : Bool}
    (replaces : ReplacesFirst isSpan form startsLine text later) (nonempty : front ≠ [])
    (starts : StartsWithSpan isSpan (front ++ later)) : StartsWithSpan isSpan (front ++ text) := by
  induction replaces generalizing front with
  | nil => exact starts
  | keep _ _ inductionHypothesis =>
    rw [List.append_cons] at starts ⊢
    exact inductionHypothesis (by simp) starts
  | span matched => exact screens nonempty matched starts

/-- Replacing again changes nothing. -/
theorem Replaces.again (isForm : isSpan form) (screens : Screens isSpan form)
    (replaces : Replaces isSpan form text later) : Replaces isSpan form later later := by
  induction replaces with
  | nil => exact .nil
  | @keep char rest later none others inductionHypothesis =>
    refine .keep (fun starts => none ?_) inductionHypothesis
    exact others.startsWithSpan screens (List.cons_ne_nil char []) starts
  | span _ _ inductionHypothesis => exact .span isForm inductionHypothesis

theorem ReplacesFirst.again (isForm : isSpan form) (screens : Screens isSpan form) {startsLine : Bool}
    (replaces : ReplacesFirst isSpan form startsLine text later) :
    ReplacesFirst isSpan form startsLine later later := by
  induction replaces with
  | nil => exact .nil
  | @keep startsLine char rest later none others inductionHypothesis =>
    refine .keep (fun starting starts => none starting ?_) inductionHypothesis
    exact others.startsWithSpan screens (List.cons_ne_nil char []) starts
  | span _ => exact .span isForm

end Again

end ClassAtlas.Text
