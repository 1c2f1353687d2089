import SqlBuilder.Proofs.Outcome
import SqlBuilder.Query.Compile
import SqlBuilder.Query.Step

/-!
Reading from a declared name. A `SELECT` that carries a clause compiles to the clause in front of the same `SELECT`,
but it may only read from a name of that clause.
-/

namespace SqlBuilder

namespace SelectStep

def target? : SelectStep → Option Source
  | target source => some source
  | _ => none

def setsClause : SelectStep → Bool
  | clause _ => true
  | _ => false

def lastTarget (first : Source) (steps : List SelectStep) : Source :=
  (steps.filterMap target?).getLast?.getD first

lemma lastTarget_cons (first : Source) (step : SelectStep) (steps : List SelectStep) :
    lastTarget first (step :: steps) = lastTarget (step.target?.getD first) steps := by
  cases h : step.target? with
  | none => simp [lastTarget, h]
  | some source => simp [lastTarget, h, List.getLast?_cons]

end SelectStep

namespace Select

lemma source_build (s : Select) {first : Source} (h : s.body.source = some first) (steps : List SelectStep) :
    (s.build steps).body.source = some (SelectStep.lastTarget first steps) := by
  induction steps generalizing s first with
  | nil => exact h
  | cons step steps ih =>
    rw [SelectStep.lastTarget_cons]
    apply ih (s.step step)
    cases step with
    | target source => rfl
    | _ => exact h

section Clause

variable (body : SelectBody) (clause : Option With)

lemma step_with_clause {step : SelectStep} (h : step.setsClause = false) :
    (mk body clause).step step = ⟨((mk body none).step step).body, clause⟩ ∧
      (mk body none).step step = ⟨((mk body none).step step).body, none⟩ := by
  cases step with
  | clause w => cases h
  | _ => exact ⟨rfl, rfl⟩

lemma build_with_clause {steps : List SelectStep} (h : ∀ step ∈ steps, step.setsClause = false) :
    (mk body clause).build steps = ⟨((mk body none).build steps).body, clause⟩ ∧
      (mk body none).build steps = ⟨((mk body none).build steps).body, none⟩ := by
  induction steps generalizing body with
  | nil => exact ⟨rfl, rfl⟩
  | cons step steps ih =>
    rw [List.forall_mem_cons] at h
    obtain ⟨hcarried, hplain⟩ := step_with_clause body clause h.1
    have hrest := ih ((mk body none).step step).body h.2
    rw [build, build, List.foldl_cons, List.foldl_cons, hcarried, hplain]
    exact hrest

end Clause

end Select

namespace With

variable {d : Dialect} {w : With} {body : SelectBody}

lemma compile_carried (d : Dialect) (w : With) (body : SelectBody) :
    (Query.select ⟨body, some w⟩).compile d =
      body.compile d >>= fun f => w.checkSource body.source >>= fun _ => w.precede d f := rfl

lemma compile_attached (d : Dialect) (w : With) (body : SelectBody) :
    (w.attach (.select ⟨body, none⟩)).compile d = body.compile d >>= w.precede d := rfl

lemma compile_carried_of_checkSource (h : w.checkSource body.source = .ok ()) :
    (Query.select ⟨body, some w⟩).compile d = (w.attach (.select ⟨body, none⟩)).compile d := by
  rw [compile_carried, compile_attached, h]
  rfl

lemma compile_carried_of_undeclared {target : String} (hs : body.source = some (.cte target))
    (ht : target ∉ w.names) :
    (∀ err, body.compile d = .error err → (Query.select ⟨body, some w⟩).compile d = .error err) ∧
      (∀ f, body.compile d = .ok f →
        (Query.select ⟨body, some w⟩).compile d = .error (.configuration (.undeclaredCte target))) := by
  have hcheck : w.checkSource body.source = .error (.configuration (.undeclaredCte target)) := by
    have hcontains : w.names.contains target = false := by simpa using ht
    rw [hs, checkSource, hcontains]
    rfl
  rw [compile_carried, hcheck]
  constructor
  · intro err h
    rw [h]
    rfl
  · intro f h
    rw [h]
    rfl

/-- The body's own error comes before that of the name, and the declared queries do not matter for either. -/
theorem selectFrom_agrees_attach (d : Dialect) (w : With) (name : String) {steps : List SelectStep}
    (h : ∀ step ∈ steps, step.setsClause = false) :
    let query : Query := .select ((w.selectFrom name).build steps)
    let base : Query := .select ((Select.empty.step (.target (.cte name))).build steps)
    (∀ path, SelectStep.lastTarget (.cte name) steps = .table path →
        query.compile d = (w.attach base).compile d) ∧
      (∀ target ∈ w.names, SelectStep.lastTarget (.cte name) steps = .cte target →
        query.compile d = (w.attach base).compile d) ∧
      (∀ target ∉ w.names, SelectStep.lastTarget (.cte name) steps = .cte target →
        (∀ err, base.compile d = .error err → query.compile d = .error err) ∧
          (∀ f, base.compile d = .ok f →
            query.compile d = .error (.configuration (.undeclaredCte target)))) := by
  intro query base
  let start : SelectBody := { SelectBody.empty with source := some (.cte name) }
  let body : SelectBody := ((Select.mk start none).build steps).body
  have hsource : body.source = some (SelectStep.lastTarget (.cte name) steps) :=
    Select.source_build ⟨start, none⟩ rfl steps
  obtain ⟨hcarried, hplain⟩ := Select.build_with_clause start (some w) h
  have hquery : query = .select ⟨body, some w⟩ := congrArg Query.select hcarried
  have hbase : base = .select ⟨body, none⟩ := congrArg Query.select hplain
  rw [hquery, hbase]
  refine ⟨fun path ht => ?_, fun target hw ht => ?_, fun target hw ht => ?_⟩
  · apply compile_carried_of_checkSource
    rw [hsource, ht]
    rfl
  · apply compile_carried_of_checkSource
    rw [hsource, ht, checkSource, List.contains_iff_mem.mpr hw]
    rfl
  · exact compile_carried_of_undeclared (hsource.trans (congrArg some ht)) hw

theorem selectFrom_agrees_attach_retargeted :
    let w : With := ⟨[⟨"a", [], .raw ⟨"SELECT ?", []⟩⟩]⟩
    let steps (target : String) : List SelectStep := [.target (.table "t"), .distinct, .target (.cte target)]
    (∀ target, ∀ step ∈ steps target, step.setsClause = false) ∧
      (Query.select ((w.selectFrom "b").build (steps "a"))).compile .postgres =
        (w.attach (.select ((Select.empty.step (.target (.cte "b"))).build (steps "a")))).compile .postgres ∧
      (Query.select ((w.selectFrom "a").build (steps "b"))).compile .postgres =
        .error (.configuration (.undeclaredCte "b")) := by
  intro w steps
  have hsteps : ∀ target, ∀ step ∈ steps target, step.setsClause = false := by
    intro target
    simp [steps, SelectStep.setsClause]
  have hdeclared := (selectFrom_agrees_attach .postgres w "b" (hsteps "a")).2.1 "a" (by decide) rfl
  have hundeclared := (selectFrom_agrees_attach .postgres w "a" (hsteps "b")).2.2 "b" (by decide) rfl
  exact ⟨hsteps, hdeclared, hundeclared.2 ⟨"SELECT DISTINCT * FROM b", []⟩ rfl⟩

end With

end SqlBuilder
