import ClassAtlas.Proofs.Files.Subdirectory
import ClassAtlas.Proofs.Usage.Findings

/-!
Scanning a directory and one below it.

What a file contributes to a scan does not depend on the directory that is scanned, and its records name
it by a path from which it can be told whether the file lies below a directory. So a scan of a directory
below reports the usages in the files below among those that a scan above reports.
-/

namespace ClassAtlas

/-- Whether the file of a record, as reports name it, lies below a directory. -/
def UsageRecord.liesBelow (project : Project) (directory : List String) (record : UsageRecord) :
    Bool :=
  record.file.text?.any (project.liesBelow directory)

namespace Scan

variable {question : Question} {lifetime : Int} {tree listing : FileTree} {directory : List String}

/-- The records of a file lie below a directory if the file does. -/
theorem filter_findings (directory : List String) {path : List String} (named : Path.Named path) :
    (findings question lifetime tree path).filter (·.liesBelow question.project directory) =
      if Project.isBelow directory path then findings question lifetime tree path else [] := by
  have lies : ∀ record ∈ findings question lifetime tree path,
      record.liesBelow question.project directory = Project.isBelow directory path := by
    intro record member
    rw [UsageRecord.liesBelow, file_of_mem_findings member, Json.text?, Option.any_some,
      Project.liesBelow, question.project.join_relative named]
  split
  case isTrue below =>
    exact List.filter_eq_self.mpr fun record member => (lies record member).trans below
  case isFalse elsewhere =>
    exact List.filter_eq_nil_iff.mpr fun record member => by rwa [lies record member]

/-- The records of files that lie below a directory are those among the records of all. -/
theorem filter_flatMap_findings (directory : List String) {paths : List (List String)}
    (named : ∀ path ∈ paths, Path.Named path) :
    (paths.flatMap (findings question lifetime tree)).filter
        (·.liesBelow question.project directory) =
      (paths.filter (Project.isBelow directory)).flatMap (findings question lifetime tree) := by
  induction paths with
  | nil => rfl
  | cons path rest inductionHypothesis =>
    obtain ⟨here, later⟩ := List.forall_mem_cons.mp named
    rw [List.flatMap_cons, List.filter_append, filter_findings directory here,
      inductionHypothesis later, List.filter_cons]
    split <;> simp

/-- What is found in a file depends on neither the order of the entries nor the time. -/
theorem findings_relisted (question : Question) (relists : listing.Relists tree)
    (regular : tree.Regular) (later : Int) :
    findings { question with now := later } lifetime listing = findings question lifetime tree := by
  funext path
  simp only [findings, contribution, relists.readSource regular]

/-- A source file is a file of the tree. -/
theorem named_of_mem_sourceFiles (regular : tree.Regular) {project : Project} {path : String}
    {recursive excludeVendor : Bool} {files : List (List String)}
    (listed : project.sourceFiles tree path recursive excludeVendor = .ok files) :
    ∀ file ∈ files, Path.Named file := by
  intro file member
  obtain ⟨_, -, same⟩ := Project.exists_directory_of_sourceFiles listed
  obtain ⟨entry, known, rfl⟩ := List.mem_map.mp (Project.mem_counted.mp (same.mem_iff.mp member)).1
  exact regular.named entry known

/-- A dependency with a file and a directory that holds a file. -/
def sampleNest : FileTree where
  workingDirectory := ["app"]
  files := [(["app", "vendor", "a.php"], ⟨sampleSource, true⟩),
    (["app", "vendor", "b", "c.php"], ⟨sampleSource, true⟩)]
  directories := [["app"], ["app", "vendor"], ["app", "vendor", "b"]]

/-- The same entries, the files in another order. -/
def sampleListing : FileTree := { sampleNest with files := sampleNest.files.reverse }

theorem sampleNest_regular : sampleNest.Regular where
  unique := by decide
  named := by decide +kernel

theorem sampleNest_above : sampleProject.directory sampleNest "vendor" = .ok ["app", "vendor"] :=
  eq_ok_of_toOption (by decide +kernel)

theorem sampleNest_inside :
    sampleProject.directory sampleNest "vendor/b" = .ok ["app", "vendor", "b"] :=
  eq_ok_of_toOption (by decide +kernel)

theorem sampleNest_listed : filesUnder sampleProject sampleNest (.str "vendor") false =
    .ok [["app", "vendor", "a.php"], ["app", "vendor", "b", "c.php"]] :=
  (filesUnder_str ..).trans
    (Project.sourceFiles_of_ordered sampleNest_above (by decide +kernel) (by decide +kernel)
      (by decide +kernel))

theorem sampleNest_sources : ∀ entry ∈ sampleNest.files, entry.2.source = sampleSource := by
  simp [sampleNest]

/-- Another request, which empties the store and wants groups. -/
def sampleGrouping : ScanOptions :=
  { sampleOptions.unlimited with flushCache := true, groupByType := true }

/-- A request for all usages but the first. -/
def sampleRest : ScanOptions := { sampleOptions.unlimited with offset := .int 1 }

def sampleRestPlan : ScanPlan := { samplePlan [] with offset := 1 }

end Scan

end ClassAtlas
