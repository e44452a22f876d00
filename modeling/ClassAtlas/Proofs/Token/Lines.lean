import ClassAtlas.Token.Stream

/-!
The lines of tokens.

A token starts on the line of a byte of its source, so its line number is bounded by the length of the
source.
-/

namespace ClassAtlas

variable {source : Source}

theorem Source.lineAt_le (source : Source) (offset : Nat) :
    source.lineAt offset ≤ source.bytes.length + 1 := by
  have counted : (source.bytes.take offset).count 10 ≤ (source.bytes.take offset).length :=
    List.count_le_length
  rw [List.length_take] at counted
  rw [lineAt]
  omega

namespace Token

/-- Whether a token starts on a line that its source may have. -/
def OnLine (source : Source) (token : Token) : Prop :=
  ∃ line : Nat, token.line = line ∧ line ≤ source.bytes.length + 1

/-- Two tokens that are joined start where the first of them starts. -/
theorem line_of_merge? {previous token merged : Token} (joined : merge? previous token = some merged) :
    merged.line = previous.line := by
  simp only [merge?] at joined
  split at joined
  · cases joined
    rfl
  split at joined
  · cases joined
    rfl
  split at joined
  · cases joined
    rfl
  · cases joined

theorem onLine_of_mem_push {stream : List Token} (onLines : ∀ token ∈ stream, OnLine source token)
    {token : Token} (onLine : OnLine source token) (adjacent : Bool) :
    ∀ pushed ∈ push stream token adjacent, OnLine source pushed := by
  have plain : ∀ pushed ∈ token :: stream, OnLine source pushed :=
    List.forall_mem_cons.mpr ⟨onLine, onLines⟩
  cases stream with
  | nil => exact plain
  | cons previous earlier =>
    rw [push]
    split
    · split
      case h_1 merged joined =>
        rw [List.forall_mem_cons] at onLines
        refine List.forall_mem_cons.mpr ⟨?_, onLines.2⟩
        rw [OnLine, line_of_merge? joined]
        exact onLines.1
      case h_2 => exact plain
    · exact plain

/-- Covering one more leaf keeps to the lines of the source. -/
theorem Progress.onLine_advance {progress : Progress}
    (onLines : ∀ token ∈ progress.stream, OnLine source token)
    (lineWithin : progress.line ≤ source.bytes.length + 1) (leaf : Node.Leaf) :
    (∀ token ∈ (progress.advance source leaf).stream, OnLine source token) ∧
      (progress.advance source leaf).line ≤ source.bytes.length + 1 := by
  rw [advance]
  split
  · exact ⟨onLines, lineWithin⟩
  · refine ⟨onLine_of_mem_push ?_ ⟨_, rfl, source.lineAt_le _⟩ _, source.lineAt_le _⟩
    split
    · exact onLines
    · exact List.forall_mem_cons.mpr ⟨⟨progress.line, rfl, lineWithin⟩, onLines⟩

end Token

/-- Every token starts on a line of its source. -/
theorem Source.onLine_of_mem_tokens {token : Token} (member : token ∈ source.tokens) :
    token.OnLine source := by
  have scanned : ∀ (leaves : List Node.Leaf) (progress : Token.Progress),
      (∀ token ∈ progress.stream, token.OnLine source) → progress.line ≤ source.bytes.length + 1 →
        (∀ token ∈ (leaves.foldl (Token.Progress.advance source) progress).stream,
            token.OnLine source) ∧
          (leaves.foldl (Token.Progress.advance source) progress).line ≤ source.bytes.length + 1 := by
    intro leaves
    induction leaves with
    | nil => exact fun progress onLines lineWithin => ⟨onLines, lineWithin⟩
    | cons leaf rest inductionHypothesis =>
      intro progress onLines lineWithin
      obtain ⟨next, nextWithin⟩ := Token.Progress.onLine_advance onLines lineWithin leaf
      exact inductionHypothesis _ next nextWithin
  obtain ⟨onLines, lineWithin⟩ := scanned source.root.leaves .start (by simp [Token.Progress.start])
    (by simp [Token.Progress.start])
  rw [Source.tokens, List.mem_reverse, Token.Progress.finish] at member
  split at member
  · rcases List.mem_cons.mp member with rfl | member
    · exact ⟨_, rfl, lineWithin⟩
    · exact onLines token member
  · exact onLines token member

end ClassAtlas
