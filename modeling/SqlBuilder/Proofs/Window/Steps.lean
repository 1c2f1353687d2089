import Mathlib.Data.List.DropRight
import Mathlib.Data.List.Induction
import Mathlib.Tactic.Lemma
import SqlBuilder.Window.Call

namespace SqlBuilder

namespace WindowStep

def columns : WindowStep → List Column
  | .partitionBy columns => columns
  | _ => []

def key? : WindowStep → Option SortKey
  | .orderBy key => some key
  | _ => none

def frame? : WindowStep → Option Frame
  | .frame f => some f
  | _ => none

end WindowStep

lemma Window.foldl_step (w : Window) (steps : List WindowStep) :
    steps.foldl step w =
      ⟨w.partitionBy ++ steps.flatMap (·.columns), w.orderBy ++ steps.filterMap (·.key?),
        (steps.filterMap (·.frame?)).getLast?.or w.frame⟩ := by
  induction steps using List.reverseRecOn with
  | nil => simp
  | append_singleton steps s ih =>
    rw [List.foldl_concat, ih]
    cases s <;> simp [step, WindowStep.columns, WindowStep.key?, WindowStep.frame?]

namespace CallStep

def window? : CallStep → Option Window
  | .over w => some w
  | .window _ => none

def step? : CallStep → Option WindowStep
  | .over _ => none
  | .window s => some s

def start (steps : List CallStep) : Window :=
  (steps.filterMap (·.window?)).getLast?.getD .empty

def later (steps : List CallStep) : List WindowStep :=
  (steps.rtakeWhile (·.window?.isNone)).filterMap (·.step?)

def columns (steps : List CallStep) : List Column :=
  (start steps).partitionBy ++ (later steps).flatMap (·.columns)

def keys (steps : List CallStep) : List SortKey :=
  (start steps).orderBy ++ (later steps).filterMap (·.key?)

def lastFrame (steps : List CallStep) : Option Frame :=
  ((later steps).filterMap (·.frame?)).getLast?.or (start steps).frame

lemma start_concat_over (steps : List CallStep) (w : Window) : start (steps ++ [.over w]) = w := by
  simp [start, window?]

lemma later_concat_over (steps : List CallStep) (w : Window) : later (steps ++ [.over w]) = [] := by
  simp [later, window?]

lemma start_concat_window (steps : List CallStep) (s : WindowStep) : start (steps ++ [.window s]) = start steps := by
  simp [start, window?]

lemma later_concat_window (steps : List CallStep) (s : WindowStep) :
    later (steps ++ [.window s]) = later steps ++ [s] := by
  simp [later, window?, step?]

end CallStep

open CallStep

lemma WindowCall.build_eq_foldl (function : WindowFunction) (args : List Expr) (steps : List CallStep) :
    (ofArgs function args).build steps = ⟨function, args, (later steps).foldl Window.step (start steps)⟩ := by
  -- on the last step, since a whole window drops all that was there before
  induction steps using List.reverseRecOn with
  | nil => rfl
  | append_singleton steps s ih =>
    rw [build] at ih
    rw [build, List.foldl_concat, ih]
    match s with
    | .over w => rw [start_concat_over, later_concat_over, step, List.foldl_nil]
    | .window s => rw [start_concat_window, later_concat_window, step, List.foldl_concat]

lemma WindowCall.build_ofArgs (function : WindowFunction) (args : List Expr) (steps : List CallStep) :
    (ofArgs function args).build steps = ⟨function, args, ⟨columns steps, keys steps, lastFrame steps⟩⟩ := by
  rw [build_eq_foldl, Window.foldl_step]
  rfl

end SqlBuilder
