import SqlBuilder.Expr.Emit

/-!
The body of a `SELECT`: all of its clauses but a leading `WITH`. The clauses come in one fixed order, each present
exactly when it has content.
-/

namespace SqlBuilder

open Emitter

inductive Source
  | table (path : String)
  | cte (name : String)
deriving DecidableEq, Repr

namespace Source

def name : Source → String
  | table path => path
  | cte name => name

def emit (d : Dialect) (s : Source) : Emitter :=
  check (require (s.name ≠ "") .emptySourceName) >=>
    match s with
    | table path => emitPath d .table path
    | cte name => identifier d name

end Source

structure SelectBody where
  distinct : Bool
  projection : List Projection
  source : Option Source
  filters : List Expr
  groupBy : List Column
  orderBy : List SortKey
  limit : Option UInt64
  offset : Option UInt64

namespace SelectBody

def empty : SelectBody := ⟨false, [], none, [], [], [], none, none⟩

instance : Inhabited SelectBody := ⟨empty⟩

def emitProjection (d : Dialect) (b : SelectBody) : Emitter :=
  text (if b.distinct then "SELECT DISTINCT " else "SELECT ") >=>
    if b.projection.isEmpty then text "*" else joined ", " (b.projection.map (·.emit d))

def emitCount (keyword : String) (n : UInt64) : Emitter :=
  text keyword >=> text (toString n.toNat)

def clauses (d : Dialect) (b : SelectBody) : List Emitter :=
  [b.emitProjection d] ++
    b.source.toList.map (fun s => text "FROM " >=> s.emit d) ++
    clause "WHERE " " AND " (b.filters.map (·.emit d)) ++
    clause "GROUP BY " ", " (b.groupBy.map (·.emit d)) ++
    clause "ORDER BY " ", " (b.orderBy.map (·.emit d)) ++
    b.limit.toList.map (emitCount "LIMIT ") ++
    b.offset.toList.map (emitCount "OFFSET ")

def emit (d : Dialect) (b : SelectBody) : Emitter :=
  joined " " (b.clauses d)

def compile (d : Dialect) (b : SelectBody) : Except BuildError Fragment :=
  (b.emit d).run

end SelectBody

end SqlBuilder
