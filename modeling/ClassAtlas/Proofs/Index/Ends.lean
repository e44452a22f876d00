import ClassAtlas.Index.Lineage

/-!
What lookups end in.

A lookup that starts from an index either returns a value or raises a fault, and leaves an index in both
cases. Its steps are taken one after the other, so what is known of the whole comes from what is known
of each step.
-/

namespace ClassAtlas.Lookup

variable {α β : Type}

/-- The result of a lookup and the index it leaves. -/
def outcome (action : Lookup α) (index : ClassIndex) : Except Fault α × ClassIndex :=
  (ExceptT.run action).run index

/-- What holds when a lookup returns a value, and what when it raises a fault. -/
structure Ends (action : Lookup α) (index : ClassIndex) (returns : α → ClassIndex → Prop)
    (raises : Fault → ClassIndex → Prop) : Prop where
  returned : ∀ {value later}, outcome action index = (.ok value, later) → returns value later
  raised : ∀ {fault later}, outcome action index = (.error fault, later) → raises fault later

section Rules

variable {action : Lookup α} {index : ClassIndex} {returns : α → ClassIndex → Prop}
  {raises : Fault → ClassIndex → Prop}

theorem Ends.mono {returns' : α → ClassIndex → Prop} {raises' : Fault → ClassIndex → Prop}
    (ends : Ends action index returns raises)
    (weaker : ∀ value later, returns value later → returns' value later)
    (weakerFault : ∀ fault later, raises fault later → raises' fault later) :
    Ends action index returns' raises' where
  returned ran := weaker _ _ (ends.returned ran)
  raised ran := weakerFault _ _ (ends.raised ran)

/-- Two things that are known of how a lookup ends. -/
theorem Ends.and {returns' : α → ClassIndex → Prop} {raises' : Fault → ClassIndex → Prop}
    (first : Ends action index returns raises) (second : Ends action index returns' raises') :
    Ends action index (fun value later => returns value later ∧ returns' value later)
      (fun fault later => raises fault later ∧ raises' fault later) where
  returned ran := ⟨first.returned ran, second.returned ran⟩
  raised ran := ⟨first.raised ran, second.raised ran⟩

/-- What a lookup returns is the value in its outcome. -/
theorem Ends.remember (ends : Ends action index returns raises) :
    Ends action index (fun value later => outcome action index = (.ok value, later) ∧ returns value later)
      raises where
  returned ran := ⟨ran, ends.returned ran⟩
  raised ran := ends.raised ran

theorem Ends.of_outcome_eq {other : Lookup α} {otherIndex : ClassIndex}
    (ends : Ends other otherIndex returns raises)
    (same : outcome action index = outcome other otherIndex) : Ends action index returns raises where
  returned ran := ends.returned (same ▸ ran)
  raised ran := ends.raised (same ▸ ran)

/-- Nothing is said of how a lookup ends. -/
theorem Ends.trivial (action : Lookup α) (index : ClassIndex) :
    Ends action index (fun _ _ => True) (fun _ _ => True) := ⟨fun _ => ⟨⟩, fun _ => ⟨⟩⟩

theorem Ends.pure {value : α} (holds : returns value index) :
    Ends (pure value) index returns raises where
  returned ran := by
    cases ran
    exact holds
  raised ran := by cases ran

theorem Ends.throw {fault : Fault} (holds : raises fault index) :
    Ends (throw fault) index returns raises where
  returned ran := by cases ran
  raised ran := by
    cases ran
    exact holds

theorem outcome_bind (action : Lookup α) (next : α → Lookup β) (index : ClassIndex) :
    outcome (action >>= next) index =
      match outcome action index with
      | (.ok value, later) => outcome (next value) later
      | (.error fault, later) => (.error fault, later) := by
  simp only [outcome, ExceptT.run_bind, StateT.run_bind]
  generalize StateT.run (ExceptT.run action) index = ran
  obtain ⟨value | fault, later⟩ := ran <;> rfl

theorem outcome_tryCatch (action : Lookup α) (handler : Fault → Lookup α) (index : ClassIndex) :
    outcome (tryCatch action handler) index =
      match outcome action index with
      | (.ok value, later) => (.ok value, later)
      | (.error fault, later) => outcome (handler fault) later := by
  simp only [outcome, ExceptT.run_tryCatch, StateT.run_bind]
  generalize StateT.run (ExceptT.run action) index = ran
  obtain ⟨value | fault, later⟩ := ran <;> rfl

/-- A step and those after it. -/
theorem Ends.bind {next : α → Lookup β} {between : α → ClassIndex → Prop}
    {returns : β → ClassIndex → Prop} (first : Ends action index between raises)
    (rest : ∀ value later, between value later → Ends (next value) later returns raises) :
    Ends (action >>= next) index returns raises := by
  cases ran : outcome action index with
  | mk result later =>
    cases result with
    | ok value =>
      refine (rest value later (first.returned ran)).of_outcome_eq ?_
      rw [outcome_bind, ran]
    | error fault =>
      refine (Ends.throw (first.raised ran)).of_outcome_eq ?_
      rw [outcome_bind, ran]
      rfl

/-- A step whose faults are dealt with. -/
theorem Ends.tryCatch {handler : Fault → Lookup α}
    (first : Ends action index returns fun fault later => Ends (handler fault) later returns raises) :
    Ends (tryCatch action handler) index returns raises := by
  cases ran : outcome action index with
  | mk result later =>
    cases result with
    | ok value =>
      refine (Ends.pure (first.returned ran)).of_outcome_eq ?_
      rw [outcome_tryCatch, ran]
      rfl
    | error fault =>
      refine (first.raised ran).of_outcome_eq ?_
      rw [outcome_tryCatch, ran]

theorem Ends.of_get {returns : ClassIndex → ClassIndex → Prop} (holds : returns index index) :
    Ends get index returns raises where
  returned ran := by
    cases ran
    exact holds
  raised ran := by cases ran

theorem Ends.get_bind {next : ClassIndex → Lookup α} (rest : Ends (next index) index returns raises) :
    Ends (get >>= next) index returns raises :=
  rest.of_outcome_eq rfl

theorem Ends.pure_bind {value : β} {next : β → Lookup α} (rest : Ends (next value) index returns raises) :
    Ends (Pure.pure value >>= next) index returns raises :=
  rest.of_outcome_eq rfl

theorem Ends.set_bind {later : ClassIndex} {next : Unit → Lookup α}
    (rest : Ends (next ()) later returns raises) : Ends (set later >>= next) index returns raises :=
  rest.of_outcome_eq rfl

theorem Ends.modify_bind {change : ClassIndex → ClassIndex} {next : Unit → Lookup α}
    (rest : Ends (next ()) (change index) returns raises) :
    Ends (modify change >>= next) index returns raises :=
  rest.of_outcome_eq rfl

theorem Ends.modify {change : ClassIndex → ClassIndex} {returns : Unit → ClassIndex → Prop}
    (holds : returns () (change index)) : Ends (modify change) index returns raises where
  returned ran := by
    cases ran
    exact holds
  raised ran := by cases ran

theorem Ends.ofExcept_bind {result : Except Fault β} {next : β → Lookup α}
    (value : ∀ value, result = .ok value → Ends (next value) index returns raises)
    (fault : ∀ fault, result = .error fault → raises fault index) :
    Ends (Lookup.ofExcept result >>= next) index returns raises := by
  cases result with
  | ok found => exact (value found rfl).of_outcome_eq rfl
  | error raised => exact (Ends.throw (fault raised rfl)).of_outcome_eq rfl

/-- A step that is taken unless there is cause for a fault. -/
theorem Ends.unless {cause : Prop} [Decidable cause] {fault : Fault} {next : Lookup α}
    (failed : cause → raises fault index) (rest : ¬ cause → Ends next index returns raises) :
    Ends (do if cause then MonadExcept.throw fault
             next) index returns raises := by
  by_cases occurs : cause
  · simp only [occurs, if_true]
    exact (Ends.throw (failed occurs)).of_outcome_eq rfl
  · simp only [occurs, if_false]
    exact rest occurs

/-- How a lookup ends that is known to return. -/
theorem Ends.of_ok {value : α} {later : ClassIndex} (ran : outcome action index = (.ok value, later)) :
    Ends action index (fun found left => value = found ∧ later = left) raises := by
  constructor <;> intro result left other <;> rw [ran] at other <;> cases other
  exact ⟨rfl, rfl⟩

/-- A lookup that raises no fault returns. -/
theorem Ends.ok (ends : Ends action index returns fun _ _ => False) :
    ∃ value later, outcome action index = (.ok value, later) ∧ returns value later := by
  cases ran : outcome action index with
  | mk result later =>
    cases result with
    | ok value => exact ⟨value, later, rfl, ends.returned ran⟩
    | error fault => exact absurd (ends.raised ran) id

/-- What holds of the index however a lookup ends. -/
theorem Ends.left {holds : ClassIndex → Prop}
    (ends : Ends action index (fun _ later => holds later) fun _ later => holds later) :
    holds (outcome action index).2 := by
  cases ran : outcome action index with
  | mk result later =>
    cases result with
    | ok value => exact ends.returned ran
    | error fault => exact ends.raised ran

end Rules

end ClassAtlas.Lookup
