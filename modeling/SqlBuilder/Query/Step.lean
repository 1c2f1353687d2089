import SqlBuilder.Query

/-!
Building `SELECT`s and `WITH` clauses step by step. Items, filters, grouping columns and sort keys are added at the
end; a source, a clause, a limit or an offset replaces the one before.
-/

namespace SqlBuilder

inductive SelectStep
  | target (source : Source)
  | clause (clause : With)
  | distinct
  | column (item : Projection)
  | columns (items : List Projection)
  | filter (condition : Expr)
  | groupBy (columns : List Column)
  | orderBy (key : SortKey)
  | limit (n : UInt64)
  | offset (n : UInt64)

namespace Select

def empty : Select := ⟨.empty, none⟩

def ofTable (path : String) : Select :=
  ⟨{ SelectBody.empty with source := some (.table path) }, none⟩

def step (s : Select) : SelectStep → Select
  | .target source => { s with body.source := some source }
  | .clause clause => { s with clause := some clause }
  | .distinct => { s with body.distinct := true }
  | .column item => { s with body.projection := s.body.projection ++ [item] }
  | .columns items => { s with body.projection := s.body.projection ++ items }
  | .filter condition => { s with body.filters := s.body.filters ++ [condition] }
  | .groupBy columns => { s with body.groupBy := s.body.groupBy ++ columns }
  | .orderBy key => { s with body.orderBy := s.body.orderBy ++ [key] }
  | .limit n => { s with body.limit := some n }
  | .offset n => { s with body.offset := some n }

def build (s : Select) (steps : List SelectStep) : Select :=
  steps.foldl step s

/-- All columns and the given items, per row: neither grouping nor `DISTINCT` is kept beside them. -/
def windowed (s : Select) (items : List Projection) : Select :=
  { s with body := { s.body with distinct := false, groupBy := [], projection := Expr.star.item :: items } }

end Select

def With.windowed (w : With) (name : String) (source : Select) (items : List Projection) : With :=
  w.declare name [] (.select (source.windowed items))

inductive WithStep
  | declare (name : String) (columns : List String) (query : Query)
  | windowed (name : String) (source : Select) (items : List Projection)

def With.step (w : With) : WithStep → With
  | .declare name columns query => w.declare name columns query
  | .windowed name source items => w.windowed name source items

def With.build (steps : List WithStep) : With :=
  steps.foldl step empty

end SqlBuilder
