import SqlBuilder.Proofs.Select.Clauses
import SqlBuilder.Query.Compile
import SqlBuilder.Query.Step

/-!
Items per row on top of a `SELECT`. What stays of the `SELECT` is the work of the steps other than those for the
projection, the grouping and `DISTINCT`, so the declared query can be built from these steps alone.
-/

namespace SqlBuilder

def SelectStep.survives : SelectStep → Bool
  | distinct | column _ | columns _ | groupBy _ => false
  | target _ | clause _ | filter _ | orderBy _ | limit _ | offset _ => true

open SelectStep

namespace Select

lemma windowed_step (s : Select) (items : List Projection) (step : SelectStep) :
    (s.step step).windowed items = if step.survives then (s.windowed items).step step else s.windowed items := by
  cases step <;> rfl

lemma windowed_build (s : Select) (items : List Projection) (steps : List SelectStep) :
    (s.build steps).windowed items = (s.windowed items).build (steps.filter survives) := by
  induction steps generalizing s with
  | nil => rfl
  | cons step steps ih =>
    have hrest : (s.build (step :: steps)).windowed items =
        ((s.step step).windowed items).build (steps.filter survives) := ih (s.step step)
    rw [hrest, windowed_step, List.filter_cons]
    split <;> rfl

lemma windowed_build_filter (s : Select) (items : List Projection) (steps : List SelectStep) :
    (s.build (steps.filter survives)).windowed items = (s.build steps).windowed items := by
  rw [windowed_build, windowed_build, List.filter_filter]
  simp only [Bool.and_self]

/-- Nothing is there that would have to be dropped. -/
structure Plain (s : Select) : Prop where
  distinct : s.body.distinct = false
  projection : s.body.projection = []
  groupBy : s.body.groupBy = []

lemma plain_empty : empty.Plain :=
  ⟨rfl, rfl, rfl⟩

lemma Plain.step {s : Select} (h : s.Plain) {step : SelectStep} (hstep : step.survives = true) :
    (s.step step).Plain := by
  obtain ⟨hdistinct, hprojection, hgroupBy⟩ := h
  cases step with
  | distinct | column | columns | groupBy => cases hstep
  | target | clause | filter | orderBy | limit | offset => exact ⟨hdistinct, hprojection, hgroupBy⟩

lemma Plain.build {s : Select} (h : s.Plain) {steps : List SelectStep} (hsteps : ∀ step ∈ steps, step.survives = true) :
    (s.build steps).Plain := by
  induction steps generalizing s with
  | nil => exact h
  | cons step steps ih =>
    rw [List.forall_mem_cons] at hsteps
    exact ih (h.step hsteps.1) hsteps.2

lemma Plain.windowed_eq {s : Select} (h : s.Plain) (items : List Projection) :
    s.windowed items = (s.step (.column Expr.star.item)).step (.columns items) := by
  obtain ⟨⟨_, _, _, _, _, _, _, _⟩, _⟩ := s
  obtain ⟨rfl, rfl, rfl⟩ := h
  rfl

lemma build_survivors {s : Select} (h : s.Plain) (items : List Projection) (steps : List SelectStep) :
    s.build (steps.filter survives ++ [.column Expr.star.item, .columns items]) = (s.build steps).windowed items := by
  have hsurvive : ∀ step ∈ steps.filter survives, step.survives = true := fun _ hstep => (List.mem_filter.mp hstep).2
  calc s.build (steps.filter survives ++ [.column Expr.star.item, .columns items])
      = ((s.build (steps.filter survives)).step (.column Expr.star.item)).step (.columns items) := by
        rw [build, List.foldl_append]
        rfl
    _ = (s.build (steps.filter survives)).windowed items := ((h.build hsurvive).windowed_eq items).symm
    _ = (s.build steps).windowed items := s.windowed_build_filter items steps

end Select

open Select

lemma SelectBody.compile_windowed_eq_ok {d : Dialect} (hd : d.quote ∈ ['"', '\'', '\x60', '[']) (s : Select)
    (items : List Projection) (f : Fragment) :
    (s.windowed items).body.compile d = .ok f ↔
      (∀ r ∈ s.body.source, r.Complete) ∧ (∀ k ∈ s.body.orderBy, k.column.Complete) ∧
        ∃ gs conditions, List.Forall₂ (fun p g => (p.emit d).run = .ok g) items gs ∧
          List.Forall₂ (fun e g => e.compile d = .ok g) s.body.filters conditions ∧
          f = ⟨" ".intercalate ((s.windowed items).body.contents d (⟨"*", []⟩ :: gs) conditions),
            gs.flatMap (·.params) ++ conditions.flatMap (·.params)⟩ := by
  -- the projection is the `*` and the new items, and there is no grouping that could fail
  have hstar : (Expr.star.item.emit d).run = .ok ⟨"*", []⟩ := rfl
  rw [SelectBody.compile_eq_ok hd]
  constructor
  · rintro ⟨hsource, -, hkeys, _, conditions, hitems, hconditions, rfl⟩
    obtain ⟨g, gs, hg, hgs, rfl⟩ := List.forall₂_cons_left_iff.mp hitems
    obtain rfl := Except.ok.inj (hstar.symm.trans hg)
    exact ⟨hsource, hkeys, gs, conditions, hgs, hconditions, rfl⟩
  · rintro ⟨hsource, hkeys, gs, conditions, hgs, hconditions, rfl⟩
    exact ⟨hsource, List.forall_mem_nil _, hkeys, _, conditions, .cons hstar hgs, hconditions, rfl⟩

namespace With

theorem compile_windowed {d : Dialect} (hd : d.quote ∈ ['"', '\'', '\x60', '[']) (w : With) (name : String)
    (steps : List SelectStep) (items : List Projection) (base : Query) :
    let source := Select.empty.build steps
    let rebuilt := Select.empty.build (steps.filter survives ++ [.column Expr.star.item, .columns items])
    ((w.windowed name source items).attach base).compile d =
        ((w.declare name [] (.select rebuilt)).attach base).compile d ∧
      rebuilt = { source with body :=
        { source.body with distinct := false, groupBy := [], projection := Expr.star.item :: items } } ∧
      ∀ f, rebuilt.body.compile d = .ok f ↔
        (∀ r ∈ source.body.source, r.Complete) ∧ (∀ k ∈ source.body.orderBy, k.column.Complete) ∧
          ∃ gs conditions, List.Forall₂ (fun p g => (p.emit d).run = .ok g) items gs ∧
            List.Forall₂ (fun e g => e.compile d = .ok g) source.body.filters conditions ∧
            f = ⟨" ".intercalate (rebuilt.body.contents d (⟨"*", []⟩ :: gs) conditions),
              gs.flatMap (·.params) ++ conditions.flatMap (·.params)⟩ := by
  intro source rebuilt
  have hrebuilt : rebuilt = source.windowed items := build_survivors plain_empty items steps
  rw [hrebuilt]
  exact ⟨rfl, rfl, SelectBody.compile_windowed_eq_ok hd source items⟩

theorem compile_windowed_dropped_faults :
    let steps : List SelectStep :=
      [.column (Expr.column (.bare "")).item, .distinct, .filter (.binary .eq (.column (.bare "a")) (.value (.int 1))),
        .columns [(Expr.value (.int 9)).item], .clause ⟨[⟨"c", [], .raw ⟨"SELECT ?", [.int 4]⟩⟩]⟩, .target (.cte "c"),
        .groupBy [.bare ""], .limit 5]
    let items : List Projection := [(Expr.value (.int 3)).named "n"]
    let f : Fragment :=
      ⟨"WITH x AS (WITH c AS (SELECT ?) SELECT *, ? AS n FROM c WHERE a = ? LIMIT 5) SELECT 1",
        [.int 4, .int 3, .int 1]⟩
    Dialect.postgres.quote ∈ ['"', '\'', '\x60', '['] ∧
      (Select.empty.build steps).compile .postgres = .error (.configuration .emptyColumnName) ∧
      ((With.empty.windowed "x" (Select.empty.build steps) items).attach (.raw ⟨"SELECT 1", []⟩)).compile .postgres =
        .ok f := by
  intro steps items f
  have hd : Dialect.postgres.quote ∈ ['"', '\'', '\x60', '['] := by decide
  refine ⟨hd, rfl, ?_⟩
  rw [(compile_windowed hd .empty "x" steps items (.raw ⟨"SELECT 1", []⟩)).1]
  simp only [steps, items, f]
  rfl

end With

end SqlBuilder
