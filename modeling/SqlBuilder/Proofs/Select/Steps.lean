import Mathlib.Data.List.Induction
import SqlBuilder.Expr.Step
import SqlBuilder.Proofs.Select.Clauses
import SqlBuilder.Proofs.With.Source

/-!
What the steps leave in a `SELECT`: four lists in the order of the steps, the last source, clause, limit and offset,
and `DISTINCT` if it was asked for at all. Only this matters for the text, whatever else the order of the steps is.
-/

namespace SqlBuilder

namespace SelectStep

def items : SelectStep → List Projection
  | column p => [p]
  | columns ps => ps
  | _ => []

def condition? : SelectStep → Option Expr
  | filter e => some e
  | _ => none

def grouping : SelectStep → List Column
  | groupBy cs => cs
  | _ => []

def key? : SelectStep → Option SortKey
  | orderBy k => some k
  | _ => none

def clause? : SelectStep → Option With
  | clause w => some w
  | _ => none

def limit? : SelectStep → Option UInt64
  | limit n => some n
  | _ => none

def offset? : SelectStep → Option UInt64
  | offset n => some n
  | _ => none

def isDistinct : SelectStep → Bool
  | distinct => true
  | _ => false

def lastOf {α : Type} (view : SelectStep → Option α) (steps : List SelectStep) : Option α :=
  (steps.filterMap view).getLast?

/-- Two runs that add the same to each list and agree on what is set last, in whatever order the clauses come. -/
structure Agree (steps steps' : List SelectStep) : Prop where
  items : steps.flatMap items = steps'.flatMap items
  conditions : steps.filterMap condition? = steps'.filterMap condition?
  grouping : steps.flatMap grouping = steps'.flatMap grouping
  keys : steps.filterMap key? = steps'.filterMap key?
  target : lastOf target? steps = lastOf target? steps'
  limit : lastOf limit? steps = lastOf limit? steps'
  offset : lastOf offset? steps = lastOf offset? steps'
  clause : lastOf clause? steps = lastOf clause? steps'
  distinct : steps.any isDistinct = steps'.any isDistinct

end SelectStep

open SelectStep

def SelectBody.ofSteps (steps : List SelectStep) : SelectBody where
  distinct := steps.any isDistinct
  projection := steps.flatMap items
  source := lastOf target? steps
  filters := steps.filterMap condition?
  groupBy := steps.flatMap grouping
  orderBy := steps.filterMap key?
  limit := lastOf limit? steps
  offset := lastOf offset? steps

namespace Select

lemma build_eq (s : Select) (steps : List SelectStep) :
    s.build steps =
      { body :=
          { distinct := s.body.distinct || steps.any isDistinct
            projection := s.body.projection ++ steps.flatMap items
            source := (lastOf target? steps).or s.body.source
            filters := s.body.filters ++ steps.filterMap condition?
            groupBy := s.body.groupBy ++ steps.flatMap grouping
            orderBy := s.body.orderBy ++ steps.filterMap key?
            limit := (lastOf limit? steps).or s.body.limit
            offset := (lastOf offset? steps).or s.body.offset }
        clause := (lastOf clause? steps).or s.clause } := by
  -- on the last step, which goes to the end of its list or replaces what was set before it
  induction steps using List.reverseRecOn with
  | nil =>
    obtain ⟨⟨⟩, _⟩ := s
    simp [build, lastOf]
  | append_singleton steps step ih =>
    rw [build] at ih
    rw [build, List.foldl_concat, ih]
    cases step <;>
      simp [Select.step, items, condition?, grouping, key?, target?, clause?, limit?, offset?, isDistinct, lastOf]

lemma build_empty (steps : List SelectStep) : empty.build steps = ⟨.ofSteps steps, lastOf clause? steps⟩ := by
  simp [build_eq, empty, SelectBody.empty, SelectBody.ofSteps]

lemma build_congr (s : Select) {steps steps' : List SelectStep} (h : Agree steps steps') :
    s.build steps = s.build steps' := by
  rw [build_eq, build_eq, h.items, h.conditions, h.grouping, h.keys, h.target, h.limit, h.offset, h.clause, h.distinct]

theorem compile_build_of_agree {d : Dialect} (hd : d.quote ∈ ['"', '\'', '\x60', '[']) {steps steps' : List SelectStep}
    (h : Agree steps steps') :
    (∀ s : Select, (s.build steps).compile d = (s.build steps').compile d) ∧
      (lastOf clause? steps = none → ∀ f, (empty.build steps).compile d = .ok f ↔
        (∀ s ∈ lastOf target? steps, s.Complete) ∧ (∀ c ∈ steps.flatMap grouping, c.Complete) ∧
          (∀ k ∈ steps.filterMap key?, k.column.Complete) ∧
          ∃ items conditions,
            List.Forall₂ (fun p g => (p.emit d).run = .ok g) (steps.flatMap SelectStep.items) items ∧
              List.Forall₂ (fun e g => e.compile d = .ok g) (steps.filterMap condition?) conditions ∧
              f = (SelectBody.ofSteps steps).written d items conditions) := by
  refine ⟨fun s => by rw [s.build_congr h], fun hclause f => ?_⟩
  rw [build_empty, hclause]
  exact (SelectBody.ofSteps steps).compile_eq_ok hd f

theorem compile_build_of_agree_interleaved :
    let condition (name : String) (n : Int64) : Expr := .combine .eq (.column (.bare name)) (.value (.int n))
    let x : Projection := (Expr.column (.bare "x")).item
    let seven : Projection := (Expr.value (.int 7)).item
    let key : SortKey := ⟨.bare "b", .desc⟩
    let steps : List SelectStep :=
      [.limit 1, .filter (condition "a" 1), .target (.cte "u"), .distinct, .orderBy key, .limit 5, .columns [x, seven],
        .target (.table "s.t"), .filter (condition "b" 2)]
    let steps' : List SelectStep :=
      [.column x, .column seven, .distinct, .distinct, .target (.table "s.t"), .filter (condition "a" 1),
        .filter (condition "b" 2), .orderBy key, .limit 5]
    let f : Fragment :=
      ⟨"SELECT DISTINCT x, ? FROM s.t WHERE a = ? AND b = ? ORDER BY b DESC LIMIT 5", [.int 7, .int 1, .int 2]⟩
    (empty.build steps).compile .postgres = .ok f ∧ (empty.build steps').compile .postgres = .ok f := by
  intro condition x seven key steps steps' f
  have hd : Dialect.postgres.quote ∈ ['"', '\'', '\x60', '['] := by decide
  have hagree : Agree steps steps' := ⟨rfl, rfl, rfl, rfl, rfl, rfl, rfl, rfl, rfl⟩
  obtain ⟨hsame, hwritten⟩ := compile_build_of_agree hd hagree
  have hitems : List.Forall₂ (fun p g => (Projection.emit .postgres p).run = .ok g)
      (steps.flatMap SelectStep.items) [⟨"x", []⟩, ⟨"?", [.int 7]⟩] :=
    .cons rfl (.cons rfl .nil)
  have hconditions : List.Forall₂ (fun e g => Expr.compile .postgres e = .ok g) (steps.filterMap condition?)
      [⟨"a = ?", [.int 1]⟩, ⟨"b = ?", [.int 2]⟩] :=
    .cons rfl (.cons rfl .nil)
  have hsource : ∀ s ∈ some (Source.table "s.t"), s.Complete := by decide
  have hkeys : ∀ k ∈ [key], k.column.Complete := by decide
  have hgrouping : steps.flatMap grouping = [] := rfl
  have hf : (empty.build steps).compile .postgres = .ok f := by
    refine (hwritten rfl f).mpr ⟨hsource, by simp [hgrouping], hkeys, _, _, hitems, hconditions, ?_⟩
    exact Fragment.eq_of_sql_params (by decide +kernel) rfl
  exact ⟨hf, (hsame empty).symm.trans hf⟩

end Select

end SqlBuilder
