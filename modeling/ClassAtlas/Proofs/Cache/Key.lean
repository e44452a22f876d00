import ClassAtlas.Cache.Key
import ClassAtlas.Proofs.Text.Search
import ClassAtlas.Proofs.Text.Utf8
import ClassAtlas.Usage.Record
import Mathlib.Data.List.Perm.Basic

/-!
What a cache key tells.

The parts of what is hashed can be told apart although the target may hold any character: the digest
ends at the first bar, and the labels of the usage types, which hold none, begin after the last one. They
are hashed in order, so it does not matter how they were given. Two keys are therefore equal exactly when
they stand for one question, as far as the digests have no collision.
-/

namespace ClassAtlas

namespace Text

theorem digitChar_of_mem_toDigits {base value : Nat} (large : 1 < base) {char : Char}
    (member : char ∈ Nat.toDigits base value) : ∃ digit : Nat, char = digit.digitChar := by
  induction value using Nat.strongRecOn with
  | ind value inductionHypothesis =>
    by_cases small : value < base
    · rw [Nat.toDigits_of_lt_base small, List.mem_singleton] at member
      exact ⟨value, member⟩
    · rw [Nat.toDigits_of_base_le large (Nat.le_of_not_lt small), List.mem_append] at member
      rcases member with earlier | last
      · exact inductionHypothesis (value / base) (Nat.div_lt_self (by omega) large) earlier
      · exact ⟨value % base, List.mem_singleton.mp last⟩

theorem bar_notMem_hex (digits value : Nat) : '|' ∉ hex digits value := by
  intro member
  rw [hex, List.mem_append] at member
  rcases member with zero | digit
  · simp at zero
  · obtain ⟨digit, equal⟩ := digitChar_of_mem_toDigits (by omega) digit
    exact Nat.digitChar_ne '|' (by decide) equal.symm

end Text

theorem Sha256.bar_notMem_hexDigest (content : Bytes) : '|' ∉ (hexDigest content).toList := by
  rw [hexDigest, String.toList_ofList, List.mem_flatMap]
  rintro ⟨word, -, member⟩
  exact Text.bar_notMem_hex 8 word.toNat member

namespace UsageType

theorem label_plain (usageType : UsageType) :
    ',' ∉ usageType.label.toList ∧ '|' ∉ usageType.label.toList ∧ usageType.label ≠ "" := by
  cases usageType <;> decide

theorem label_injective : Function.Injective label := by
  intro first second same
  revert same
  cases first <;> cases second <;> decide

end UsageType

namespace CacheKey

theorem bar_notMem_typesText (types : List UsageType) :
    '|' ∉ (typesText (types.map UsageType.label)).toList := by
  refine Text.notMem_join (show '|' ≠ ',' by decide) ?_
  intro label member
  obtain ⟨usageType, -, rfl⟩ := List.mem_map.mp (List.mem_mergeSort.mp member)
  exact usageType.label_plain.2.1

/-- The labels of usage types tell the types, but not their order. -/
theorem perm_of_typesText {types others : List UsageType}
    (same : typesText (types.map UsageType.label) = typesText (others.map UsageType.label)) :
    types.Perm others := by
  have plain : ∀ types : List UsageType,
      ∀ label ∈ (types.map UsageType.label).mergeSort fun a b => decide (a ≤ b),
        ',' ∉ label.toList ∧ label ≠ "" := by
    intro types label member
    obtain ⟨usageType, -, rfl⟩ := List.mem_map.mp (List.mem_mergeSort.mp member)
    exact ⟨usageType.label_plain.1, usageType.label_plain.2.2⟩
  have sorted := Text.join_injective (plain types) (plain others) same
  have labels := List.mergeSort_perm (types.map UsageType.label) fun a b => decide (a ≤ b)
  rw [sorted] at labels
  exact (List.map_perm_map_iff UsageType.label_injective).mp
    (labels.symm.trans (List.mergeSort_perm _ _))

/-- Labels are put in order, whichever way they are given. -/
theorem typesText_perm {labels others : List String} (perm : labels.Perm others) :
    typesText labels = typesText others := by
  have trans : ∀ first second third : String, decide (first ≤ second) = true →
      decide (second ≤ third) = true → decide (first ≤ third) = true := by
    simp only [decide_eq_true_eq]
    exact fun _ _ _ => String.le_trans
  have total : ∀ first second : String, (decide (first ≤ second) || decide (second ≤ first)) = true := by
    simp only [Bool.or_eq_true, decide_eq_true_eq]
    exact String.le_total
  have sorted : ∀ labels : List String,
      (labels.mergeSort fun first second => decide (first ≤ second)).Pairwise (· ≤ ·) :=
    fun labels => (List.pairwise_mergeSort trans total labels).imp of_decide_eq_true
  have same : (labels.mergeSort fun first second => decide (first ≤ second)) =
      others.mergeSort fun first second => decide (first ≤ second) :=
    List.Perm.eq_of_pairwise (fun _ _ _ _ => String.le_antisymm) (sorted labels) (sorted others)
      (((List.mergeSort_perm labels _).trans perm).trans (List.mergeSort_perm others _).symm)
  rw [typesText, typesText, same]

/-- What is hashed for a key determines the digest of the content, the normalised target, and the usage
types up to their order. -/
theorem material_injective {content other : Bytes} {target otherTarget : String}
    {types otherTypes : List UsageType}
    (same : material content target (types.map UsageType.label) =
      material other otherTarget (otherTypes.map UsageType.label)) :
    Sha256.hexDigest content = Sha256.hexDigest other ∧
      Name.normalized target = Name.normalized otherTarget ∧ types.Perm otherTypes := by
  have chars := congrArg String.toList same
  simp only [material, String.toList_append, List.append_assoc] at chars
  obtain ⟨digests, rest⟩ := Text.append_cons_injective (Sha256.bar_notMem_hexDigest content)
    (Sha256.bar_notMem_hexDigest other) chars
  -- The target may hold bars, the labels hold none: from the end, theirs is the first.
  have reversed : (typesText (types.map UsageType.label)).toList.reverse ++
        '|' :: (Name.normalized target).toList.reverse =
      (typesText (otherTypes.map UsageType.label)).toList.reverse ++
        '|' :: (Name.normalized otherTarget).toList.reverse := by
    have flipped := congrArg List.reverse rest
    simpa using flipped
  obtain ⟨labels, targets⟩ := Text.append_cons_injective
    (by simpa using bar_notMem_typesText types) (by simpa using bar_notMem_typesText otherTypes)
    reversed
  refine ⟨String.toList_inj.mp digests, String.toList_inj.mp (List.reverse_inj.mp targets), ?_⟩
  exact perm_of_typesText (String.toList_inj.mp (List.reverse_inj.mp labels))

/-- The bytes that are hashed for the key of a question. -/
def hashed (content : Bytes) (target : String) (types : List UsageType) : Bytes :=
  Utf8.encode (material content target (types.map UsageType.label))

section Make

variable {content other : Bytes} {target otherTarget : String} {types otherTypes : List UsageType}

/-- The same is hashed for one question. -/
theorem hashed_congr (content : Bytes)
    (targets : Name.normalized target = Name.normalized otherTarget) (perm : types.Perm otherTypes) :
    hashed content target types = hashed content otherTarget otherTypes := by
  rw [hashed, hashed, material, material, targets, typesText_perm (perm.map UsageType.label)]

/-- Equal keys stand for one question, unless the contents or what is hashed for the keys collide. -/
theorem same_of_make_eq
    (contents : Sha256.hexDigest content = Sha256.hexDigest other → content = other)
    (hashes : Sha256.hexDigest (hashed content target types) =
        Sha256.hexDigest (hashed other otherTarget otherTypes) →
      hashed content target types = hashed other otherTarget otherTypes)
    (same : make content target (types.map UsageType.label) =
      make other otherTarget (otherTypes.map UsageType.label)) :
    content = other ∧ Name.normalized target = Name.normalized otherTarget ∧
      types.Perm otherTypes := by
  have chars := congrArg String.toList same
  simp only [make, String.toList_append, List.append_cancel_left_eq] at chars
  have texts := congrArg Utf8.decode (hashes (String.toList_inj.mp chars))
  simp only [hashed, Utf8.decode_encode] at texts
  obtain ⟨digests, targets, perm⟩ := material_injective texts
  exact ⟨contents digests, targets, perm⟩

/-- A key tells the question. Two keys are equal if and only if the contents are, the targets are without
the blanks around them and the separators in front, and the usage types are up to their order. It is
assumed that the digests of the two contents, and of what is hashed for the two keys, do not collide. -/
theorem make_eq_iff
    (contents : Sha256.hexDigest content = Sha256.hexDigest other → content = other)
    (hashes : Sha256.hexDigest (hashed content target types) =
        Sha256.hexDigest (hashed other otherTarget otherTypes) →
      hashed content target types = hashed other otherTarget otherTypes) :
    make content target (types.map UsageType.label) =
        make other otherTarget (otherTypes.map UsageType.label) ↔
      content = other ∧ Name.normalized target = Name.normalized otherTarget ∧
        types.Perm otherTypes := by
  constructor
  · exact same_of_make_eq contents hashes
  · rintro ⟨rfl, targets, perm⟩
    have same := congrArg Sha256.hexDigest (hashed_congr content targets perm)
    exact congrArg (lead ++ ·) same

/-- A target that holds a bar and the label of a usage type is not taken for a target and a type, and the
order of types does not matter. -/
theorem make_eq_iff_bar :
    make [60] "A|extends" ([].map UsageType.label) ≠
        make [60] "A" ([.extension].map UsageType.label) ∧
      make [60] " \\A" ([.new, .extension].map UsageType.label) =
        make [60] "A" ([.extension, .new].map UsageType.label) := by
  constructor
  · intro same
    have apart := (make_eq_iff (fun _ => rfl) fun collision => absurd collision ?_).mp same
    · exact absurd apart.2.1 (by decide)
    · decide +kernel
  · have targets : Name.normalized " \\A" = Name.normalized "A" := by decide
    have perm : [UsageType.new, .extension].Perm [.extension, .new] := by decide
    have same := hashed_congr [60] targets perm
    exact (make_eq_iff (fun _ => rfl) fun _ => same).mpr ⟨rfl, targets, perm⟩

end Make

end CacheKey

end ClassAtlas
