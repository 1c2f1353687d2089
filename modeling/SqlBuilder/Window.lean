import SqlBuilder.Column
import SqlBuilder.Frame

/-!
The contents of an `OVER` clause: partition columns and sort keys in the order of their declaration, repeats kept,
and at most one frame.
-/

namespace SqlBuilder

open Emitter

structure Window where
  partitionBy : List Column
  orderBy : List SortKey
  frame : Option Frame
deriving DecidableEq, Repr

namespace Window

def empty : Window := ⟨[], [], none⟩

def isEmpty (w : Window) : Bool :=
  w.partitionBy.isEmpty && w.orderBy.isEmpty && w.frame.isNone

/-- A range with an offset is measured on a single sort key, and groups of peers need an ordering. -/
def checkOrdering (f : Frame) (orderBy : List SortKey) : Except BuildError Unit :=
  match f.unit with
  | .rows => .ok ()
  | .range => require (!f.hasOffset || orderBy.length = 1) (.rangeOrdering orderBy.length)
  | .groups => require (!orderBy.isEmpty) .groupsOrdering

def emitFrame (orderBy : List SortKey) (f : Frame) : Emitter :=
  check (checkOrdering f orderBy) >=> result (f.render.map .ofText)

def clauses (d : Dialect) (w : Window) : List Emitter :=
  clause "PARTITION BY " ", " (w.partitionBy.map (·.emit d)) ++
    clause "ORDER BY " ", " (w.orderBy.map (·.emit d)) ++
    (w.frame.map (emitFrame w.orderBy)).toList

def emit (d : Dialect) (w : Window) : Emitter :=
  joined " " (w.clauses d)

end Window

inductive WindowStep
  | partitionBy (columns : List Column)
  | orderBy (key : SortKey)
  | frame (frame : Frame)
deriving DecidableEq, Repr

def Window.step (w : Window) : WindowStep → Window
  | .partitionBy columns => { w with partitionBy := w.partitionBy ++ columns }
  | .orderBy key => { w with orderBy := w.orderBy ++ [key] }
  | .frame frame => { w with frame := some frame }

def Window.build (steps : List WindowStep) : Window :=
  steps.foldl step empty

theorem Window.appends_emit (d : Dialect) (w : Window) : (w.emit d).Appends := by
  refine appends_joined " " fun e he => ?_
  simp only [clauses, List.mem_append, Option.mem_toList, Option.map_eq_some_iff] at he
  rcases he with (he | he) | ⟨f, _, rfl⟩
  · refine appends_clause _ _ (fun e he => ?_) e he
    obtain ⟨c, _, rfl⟩ := List.mem_map.mp he
    exact c.appends_emit d
  · refine appends_clause _ _ (fun e he => ?_) e he
    obtain ⟨k, _, rfl⟩ := List.mem_map.mp he
    exact k.appends_emit d
  · exact (appends_check _).andThen (appends_result _)

end SqlBuilder
