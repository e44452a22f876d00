import ClassAtlas.Proofs.Usage.Agreement
import ClassAtlas.Proofs.Usage.Mention

/-!
Passing over files that do not mention the target loses nothing.

Such a file has no usages, so a scan that reads it closely gains no record. It may only fail where the
other does not: storing that nothing was found takes a lifetime that can be counted.
-/

namespace ClassAtlas

/-- Whether the tokens of a source are its text. -/
def Source.Lossless (source : Source) : Prop :=
  Token.joinedText source.tokens = Utf8.decode source.bytes

instance (source : Source) : Decidable source.Lossless :=
  inferInstanceAs (Decidable (Token.joinedText source.tokens = Utf8.decode source.bytes))

/-- A file that does not mention a class has no usages of it. -/
theorem Source.Lossless.usages_eq_nil {source : Source} (lossless : source.Lossless) {target : String}
    (silent : Scan.mentions source target = false) (wanted : List UsageType) :
    source.usages target wanted = [] := by
  have absent : ¬ (Name.short target).toList <:+: (Token.joinedText source.tokens).toList := by
    intro held
    rw [lossless, ← Text.contains_iff] at held
    simp only [Scan.mentions] at silent
    rw [held] at silent
    cases silent
  simp [usages, findUsages, (View.ofTokens_blind absent).sightings_eq_nil wanted]

namespace Scan

theorem storedUsages_nil (lifetime : Int) :
    storedUsages lifetime [] = .ok [] ∨
      ∃ fault, storedUsages lifetime [] = .error fault ∧ fault.isBadValue = false ∧
        Moment.seconds lifetime = .error fault := by
  have short : (storedValue []).hasLongInteger = false := rfl
  simp only [storedUsages, Store.refusal?, short]
  cases counted : Moment.seconds lifetime with
  | ok seconds => exact .inl rfl
  | error fault =>
    refine .inr ⟨fault, rfl, ?_, rfl⟩
    rw [Moment.seconds] at counted
    split at counted
    · cases counted
      rfl
    · cases counted

/-- Whether a file that does not mention the target is passed over makes no difference to what it
contributes, except that the lifetime of stored values may turn out not to be countable. -/
theorem contribution_prefilter {tree : FileTree} {path : List String}
    (lossless : ∀ source, tree.readSource (.absolute path) = .ok source → source.Lossless)
    (reuse : Bool) (project : Project) (now : Int) (plan : ScanPlan) (lifetime : Int) :
    contribution (question ⟨false, reuse⟩ project now plan) lifetime tree path =
        contribution (question ⟨true, reuse⟩ project now plan) lifetime tree path ∨
      ∃ fault, contribution (question ⟨false, reuse⟩ project now plan) lifetime tree path =
        .error fault ∧ Moment.seconds lifetime = .error fault := by
  simp only [contribution, question, Bool.false_and, Bool.true_and]
  cases read : tree.readSource (.absolute path) with
  | error fault => exact .inl rfl
  | ok source =>
    cases silent : mentions source plan.target with
    | true =>
      left
      simp only [silent]
      rfl
    | false =>
      simp only [(lossless source read).usages_eq_nil silent plan.usageTypes, silent]
      by_cases vendor : project.isVendor (.absolute path) path
      case neg => exact .inl (by simp [vendor])
      case pos =>
        obtain stored | ⟨fault, failed, plain, uncountable⟩ := storedUsages_nil lifetime
        · exact .inl (by simp [vendor, stored])
        · exact .inr ⟨fault, by simp [vendor, failed, plain], uncountable⟩

/-- A scan that passes over files makes fewer inquiries. -/
theorem Covered.prefilter {parse : Bytes → Node} {met : Set Inquiry} {reuse : Bool}
    {project : Project} {tree : FileTree} {target path : Json} {options : ScanOptions}
    (covered : Covered parse met ⟨false, reuse⟩ project tree target path options) :
    Covered parse met ⟨true, reuse⟩ project tree target path options where
  parsed := covered.parsed
  within := by
    intro inquiry member
    apply covered.within
    revert member
    simp only [inquiries]
    split
    case h_2 => exact id
    case h_1 plan files _ _ =>
      simp only [List.mem_filterMap]
      rintro ⟨file, listed, equal⟩
      refine ⟨file, listed, ?_⟩
      split at equal
      case h_2 => cases equal
      case h_1 source read =>
        split at equal
        case isFalse => cases equal
        case isTrue asked =>
          simp only [asks, Bool.and_eq_true] at asked
          simp [asks, asked.2, equal]

/-- A file that does not mention the target has no usages of it, and a scan that reads it closely
reports the same as one that passes over it, or fails on a lifetime that cannot be counted. -/
theorem prefilter_loses_nothing :
    (∀ (source : Source) (target : String) (wanted : List UsageType), source.Lossless →
      mentions source target = false → source.usages target wanted = []) ∧
    ∀ (parse : Bytes → Node) (met : Set Inquiry) (reuse : Bool) (project : Project) (tree : FileTree)
      (store : Store) (now : Int) (target path : Json) (options : ScanOptions),
      (∀ entry ∈ tree.files, entry.2.source.Lossless) → Inquiry.Distinct met →
      (reuse = true →
        Covered parse met ⟨false, reuse⟩ project tree target path options ∧ store.Honest parse met) →
      let unfiltered := runWith ⟨false, reuse⟩ project tree store now target path options
      let filtered := runWith ⟨true, reuse⟩ project tree store now target path options
      unfiltered.report = filtered.report ∨
        ∃ fault, Moment.seconds store.lifetime = .error fault ∧ unfiltered.report = .error fault := by
  refine ⟨fun source target wanted lossless silent => lossless.usages_eq_nil silent wanted, ?_⟩
  intro parse met reuse project tree store now target path options lossless distinct trusted
  have agreement := runWith_report distinct ⟨false, reuse⟩ ⟨true, reuse⟩
    (fun used => (trusted used).1) (fun used => (trusted used).1.prefilter)
    (fun plan files _ _ file _ => contribution_prefilter
      (fun source read => by
        obtain ⟨entry, member, rfl⟩ := FileTree.exists_file_of_readSource read
        exact lossless entry member)
      reuse project now plan store.lifetime)
    rfl (fun used => (trusted used).2) (fun used => (trusted used).2)
  exact agreement.imp_right fun ⟨fault, failed, uncountable⟩ => ⟨fault, uncountable, failed⟩

theorem prefilter_loses_nothing_sample :
    (mentions sampleSource "B" = false ∧ sampleSource.usages "B" [] = []) ∧
    (runWith ⟨false, true⟩ sampleProject sampleTree (.empty 60) 0 (.str "B") (.str "vendor")
        { excludeVendor := false }).report =
      (runWith ⟨true, true⟩ sampleProject sampleTree (.empty 60) 0 (.str "B") (.str "vendor")
        { excludeVendor := false }).report := by
  have lossless : sampleSource.Lossless := by decide +kernel
  have silent : mentions sampleSource "B" = false := by decide +kernel
  have allLossless : ∀ entry ∈ sampleTree.files, entry.2.source.Lossless := by
    intro entry member
    rw [List.mem_singleton.mp member]
    exact lossless
  let met : Set Inquiry := {inquiry | inquiry ∈ inquiries ⟨false, true⟩ sampleProject sampleTree
    (.str "B") (.str "vendor") { excludeVendor := false }}
  have distinct : Inquiry.Distinct met :=
    .of_subsingleton fun _ member _ other => eq_of_mem_inquiries_sampleTree member other
  refine ⟨⟨silent, prefilter_loses_nothing.1 sampleSource "B" [] lossless silent⟩, ?_⟩
  obtain same | ⟨fault, uncountable, -⟩ := prefilter_loses_nothing.2 (fun _ => sampleSource.root) met
    true sampleProject sampleTree (.empty 60) 0 (.str "B") (.str "vendor") { excludeVendor := false }
    allLossless distinct
    fun _ => ⟨⟨sampleTree_parsedBy, fun _ member => member⟩, Store.empty_honest _ met 60⟩
  · exact same
  · cases uncountable

end Scan

end ClassAtlas
