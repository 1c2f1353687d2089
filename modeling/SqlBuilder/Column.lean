import SqlBuilder.Emitter
import SqlBuilder.Text.Path

namespace SqlBuilder

open Emitter

def emitPath (d : Dialect) (role : PathRole) (path : String) : Emitter :=
  let parts := Text.parts path
  check (require (parts.all (· ≠ "")) (.emptyPathPart role path)) >=> joined "." (parts.map (identifier d))

structure Column where
  table : Option String
  name : String
deriving DecidableEq, Repr

namespace Column

def bare (name : String) : Column := ⟨none, name⟩

def qualified (table name : String) : Column := ⟨some table, name⟩

def parse (s : String) : Column :=
  match Text.splitLast s with
  | some (table, name) => qualified table name
  | none => bare s

def emitQualifier (d : Dialect) : Option String → Emitter
  | none => nothing
  | some table => emitPath d .qualifier table >=> text "."

/-- The name `*` stands for all columns and is never quoted. -/
def emit (d : Dialect) (c : Column) : Emitter :=
  check (require (c.name ≠ "") .emptyColumnName) >=>
    emitQualifier d c.table >=>
    if c.name = "*" then text "*" else identifier d c.name

end Column

inductive Direction
  | asc
  | desc
deriving DecidableEq, Repr

def Direction.sql : Direction → String
  | .asc => "ASC"
  | .desc => "DESC"

instance : Inhabited Direction := ⟨.asc⟩

structure SortKey where
  column : Column
  direction : Direction
deriving DecidableEq, Repr

def SortKey.emit (d : Dialect) (k : SortKey) : Emitter :=
  k.column.emit d >=> text " " >=> text k.direction.sql

theorem appends_path (d : Dialect) (role : PathRole) (path : String) : (emitPath d role path).Appends :=
  (appends_check _).andThen <| appends_joined _ fun e he => by
    obtain ⟨part, _, rfl⟩ := List.mem_map.mp he
    exact appends_identifier d part

theorem Column.appends_emit (d : Dialect) (c : Column) : (c.emit d).Appends := by
  refine (appends_check _).andThen (Appends.andThen ?_ ?_)
  · cases c.table with
    | none => exact appends_nothing
    | some table => exact (appends_path d _ table).andThen (appends_text _)
  · split
    · exact appends_text _
    · exact appends_identifier d c.name

theorem SortKey.appends_emit (d : Dialect) (k : SortKey) : (k.emit d).Appends :=
  (k.column.appends_emit d).andThen ((appends_text _).andThen (appends_text _))

end SqlBuilder
