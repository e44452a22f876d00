import ClassAtlas.Proofs.Usage.Agreement

/-!
The life of a store of results.

Between scans the store may be emptied or purged, the clock may be set to any time, and the files may
be replaced by others. However these steps follow one another, each scan reports what it would report if
no stored result were ever used: the store stays honest, which every step preserves.
-/

namespace ClassAtlas.Scan

/-- A scan, or what may happen between scans. -/
inductive Step where
  | scan (target path : Json) (options : ScanOptions)
  | invalidate
  | purge
  /-- Sets the clock, forwards or backwards. -/
  | setClock (now : Int)
  /-- Replaces the files. -/
  | edit (tree : FileTree)

/-- The files, the store and the time between two steps. -/
structure Session where
  tree : FileTree
  store : Store
  now : Int

namespace Session

/-- The report that a step gives, if it is a scan, and what it leaves behind. -/
def step (shortcuts : Shortcuts) (project : Project) (session : Session) :
    Step → Option (Except Fault UsageReport) × Session
  | .scan target path options =>
    let outcome := runWith shortcuts project session.tree session.store session.now target path options
    (some outcome.report, { session with store := outcome.store })
  | .invalidate => (none, { session with store := session.store.invalidateAll.2 })
  | .purge => (none, { session with store := (session.store.purgeExpired session.now).2 })
  | .setClock now => (none, { session with now := now })
  | .edit tree => (none, { session with tree := tree })

/-- The reports of all scans among the steps, in order. -/
def reports (shortcuts : Shortcuts) (project : Project) (session : Session) :
    List Step → List (Except Fault UsageReport)
  | [] => []
  | step :: rest =>
    let (report, next) := session.step shortcuts project step
    report.toList ++ next.reports shortcuts project rest

/-- The file trees that are there at some time. -/
def trees (tree : FileTree) : List Step → List FileTree
  | [] => [tree]
  | .edit next :: rest => tree :: trees next rest
  | _ :: rest => trees tree rest

/-- The inquiries of all scans. -/
def inquiriesOf (shortcuts : Shortcuts) (project : Project) (tree : FileTree) :
    List Step → List Inquiry
  | [] => []
  | .scan target path options :: rest =>
    inquiries shortcuts project tree target path options ++ inquiriesOf shortcuts project tree rest
  | .edit next :: rest => inquiriesOf shortcuts project next rest
  | _ :: rest => inquiriesOf shortcuts project tree rest

theorem mem_trees_self (tree : FileTree) (steps : List Step) : tree ∈ trees tree steps := by
  induction steps with
  | nil => exact List.mem_singleton.mpr rfl
  | cons step rest inductionHypothesis =>
    cases step with
    | edit next => exact List.mem_cons_self
    | _ => exact inductionHypothesis

section Runs

variable {parse : Bytes → Node} {met : Set Inquiry} {project : Project}

/-- What two sessions have in common of which only the second uses stored results. -/
structure Alike (parse : Bytes → Node) (met : Set Inquiry) (plain aided : Session) : Prop where
  tree : plain.tree = aided.tree
  now : plain.now = aided.now
  lifetime : plain.store.lifetime = aided.store.lifetime
  honest : aided.store.Honest parse met

/-- A step gives the same report in both sessions, and they stay alike. -/
theorem Alike.step {plain aided : Session} (alike : Alike parse met plain aided)
    (distinct : Inquiry.Distinct met) {prefilter : Bool} {step : Step}
    (covered : ∀ target path options, step = .scan target path options →
      Covered parse met ⟨prefilter, true⟩ project aided.tree target path options) :
    (plain.step ⟨prefilter, false⟩ project step).1 = (aided.step ⟨prefilter, true⟩ project step).1 ∧
      Alike parse met (plain.step ⟨prefilter, false⟩ project step).2
        (aided.step ⟨prefilter, true⟩ project step).2 := by
  obtain ⟨tree, store, now⟩ := plain
  obtain ⟨rfl, rfl, lifetime, honest⟩ := alike
  cases step with
  | scan target path options =>
    have scanned := covered target path options rfl
    let plainly := runWith ⟨prefilter, false⟩ project aided.tree store aided.now target path options
    let aidedly :=
      runWith ⟨prefilter, true⟩ project aided.tree aided.store aided.now target path options
    have same : plainly.report = aidedly.report ∨
        ∃ fault, plainly.report = .error fault ∧ (fun _ => False) fault :=
      runWith_report distinct ⟨prefilter, false⟩ ⟨prefilter, true⟩ (fun used => nomatch used)
        (fun _ => scanned) (fun _ _ _ _ _ _ => .inl rfl) lifetime (fun used => nomatch used)
        (fun _ => honest)
    have plainKept : (false = true → plainly.store.Honest parse met) ∧
        plainly.store.lifetime = store.lifetime :=
      runWith_store distinct ⟨prefilter, false⟩ (fun used => nomatch used) aided.now
        (fun used => nomatch used)
    have aidedKept : (true = true → aidedly.store.Honest parse met) ∧
        aidedly.store.lifetime = aided.store.lifetime :=
      runWith_store distinct ⟨prefilter, true⟩ (fun _ => scanned) aided.now (fun _ => honest)
    have reported : plainly.report = aidedly.report := by simpa using same
    exact ⟨congrArg some reported, rfl, rfl,
      plainKept.2.trans (lifetime.trans aidedKept.2.symm), aidedKept.1 rfl⟩
  | invalidate => exact ⟨rfl, rfl, rfl, lifetime, honest.invalidateAll⟩
  | purge => exact ⟨rfl, rfl, rfl, lifetime, honest.purgeExpired aided.now⟩
  | setClock later => exact ⟨rfl, rfl, rfl, lifetime, honest⟩
  | edit next => exact ⟨rfl, rfl, rfl, lifetime, honest⟩

theorem Alike.reports {plain aided : Session} (alike : Alike parse met plain aided)
    (distinct : Inquiry.Distinct met) {prefilter : Bool} {steps : List Step}
    (parsed : ∀ tree ∈ trees aided.tree steps, tree.ParsedBy parse)
    (within : ∀ inquiry ∈ inquiriesOf ⟨prefilter, true⟩ project aided.tree steps, inquiry ∈ met) :
    plain.reports ⟨prefilter, false⟩ project steps = aided.reports ⟨prefilter, true⟩ project steps := by
  induction steps generalizing plain aided with
  | nil => rfl
  | cons step rest inductionHypothesis =>
    have covered : ∀ target path options, step = .scan target path options →
        Covered parse met ⟨prefilter, true⟩ project aided.tree target path options := by
      rintro target path options rfl
      exact ⟨parsed aided.tree (mem_trees_self aided.tree _),
        fun inquiry member => within inquiry (List.mem_append_left _ member)⟩
    obtain ⟨same, next⟩ := alike.step distinct covered
    simp only [Session.reports, same]
    congr 1
    refine inductionHypothesis next ?_ ?_
    · cases step with
      | edit tree => exact fun other member => parsed other (List.mem_cons_of_mem _ member)
      | _ => exact parsed
    · cases step with
      | scan target path options =>
        exact fun inquiry member => within inquiry (List.mem_append_right _ member)
      | _ => exact within

end Runs

/-- Stored results never change what scans report. -/
theorem reports_without_reuse (parse : Bytes → Node) (project : Project) (tree : FileTree) (now : Int)
    (lifetime : Int) (steps : List Step) (parsed : ∀ met ∈ trees tree steps, met.ParsedBy parse)
    (distinct : Inquiry.Distinct {inquiry | inquiry ∈ inquiriesOf {} project tree steps}) :
    reports {} project ⟨tree, .empty lifetime, now⟩ steps =
      reports { reuse := false } project ⟨tree, .empty lifetime, now⟩ steps := by
  have alike : Alike parse {inquiry | inquiry ∈ inquiriesOf {} project tree steps}
      ⟨tree, .empty lifetime, now⟩ ⟨tree, .empty lifetime, now⟩ :=
    ⟨rfl, rfl, rfl, Store.empty_honest parse _ lifetime⟩
  exact (alike.reports distinct parsed fun _ member => member).symm

/-- Two scans of the sample tree, the second of which can use what the first has stored. -/
def sampleSteps : List Step :=
  let scan : Step := .scan (.str "A") (.str "vendor") { excludeVendor := false }
  [scan, .setClock 30, scan]

theorem reports_without_reuse_sample :
    reports {} sampleProject ⟨sampleTree, .empty 60, 0⟩ sampleSteps =
      reports { reuse := false } sampleProject ⟨sampleTree, .empty 60, 0⟩ sampleSteps := by
  refine reports_without_reuse (fun _ => sampleSource.root) sampleProject sampleTree 0 60 sampleSteps
    ?_ (.of_subsingleton ?_)
  · intro tree member
    rw [List.mem_singleton.mp member]
    exact sampleTree_parsedBy
  · intro first member second other
    simp only [sampleSteps, inquiriesOf, List.append_nil, Set.mem_ofPred_eq, List.mem_append,
      or_self] at member other
    exact eq_of_mem_inquiries_sampleTree member other

end Session

end ClassAtlas.Scan
