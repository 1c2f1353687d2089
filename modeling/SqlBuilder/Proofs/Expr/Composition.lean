import Mathlib.Tactic.Lemma
import SqlBuilder.Expr.Emit

/-!
Expressions from their parts. The fragment of an expression is put together from those of its parts, each compiled on
its own, and it is written like this behind any other fragment: no part reads or changes what stands in front of it.
-/

namespace SqlBuilder

open Emitter

namespace Fragment

def joined (separator : String) (parts : List Fragment) : Fragment :=
  ⟨separator.intercalate (parts.map (·.sql)), parts.flatMap (·.params)⟩

lemma joined_singleton (separator : String) (f : Fragment) : joined separator [f] = f := by
  ext <;> simp [joined]

lemma joined_cons_cons (separator : String) (f g : Fragment) (parts : List Fragment) :
    joined separator (f :: g :: parts) = f ++ (ofText separator ++ joined separator (g :: parts)) := by
  ext <;> simp [joined, ofText, String.append_assoc]

end Fragment

mutual

def Expr.fragment (d : Dialect) : Expr → Except BuildError Fragment
  | .column c => (c.emit d).run
  | .value v => .ok (.ofValue v)
  | .star => .ok (.ofText "*")
  | .raw f => do
    require (!f.isBlank) .emptyRawExpression
    return f
  | .function name args => do
    require (name ≠ "") .emptyFunctionName
    let arguments ← fragmentList d args
    return .ofText (name ++ "(") ++ .joined ", " arguments ++ .ofText ")"
  | .window call => call.fragment d
  | .binary op left right => do
    let f ← left.fragment d
    let g ← right.fragment d
    return f ++ .ofText (" " ++ op.sql ++ " ") ++ g
  | .not operand => do
    let f ← operand.fragment d
    return .ofText "NOT " ++ f
  | .isNull operand negated => do
    let f ← operand.fragment d
    return f ++ .ofText (if negated then " IS NOT NULL" else " IS NULL")
  | .inList _ [] negated => .ok (.ofText (if negated then "1 = 1" else "1 = 0"))
  | .inList operand (e :: es) negated => do
    let f ← operand.fragment d
    let members ← fragmentList d (e :: es)
    return f ++ .ofText (if negated then " NOT IN (" else " IN (") ++ .joined ", " members ++ .ofText ")"
  | .nested inner => do
    let f ← inner.fragment d
    return .ofText "(" ++ f ++ .ofText ")"
termination_by structural e => e

def fragmentList (d : Dialect) : List Expr → Except BuildError (List Fragment)
  | [] => .ok []
  | e :: es => do
    let f ← e.fragment d
    let fs ← fragmentList d es
    return f :: fs
termination_by structural es => es

def WindowCall.fragment (d : Dialect) : WindowCall → Except BuildError Fragment
  | ⟨function, args, window⟩ => aligned do
    require (function.accepts args.length) (.wrongArity function args.length)
    let arguments ← fragmentList d args
    let contents ← (window.emit d).run
    return .ofText (function.sql ++ "(") ++ .joined ", " arguments ++ .ofText ") OVER (" ++ contents ++ .ofText ")"
termination_by structural call => call

end

namespace Emitter

lemma text_andThen_text (s t : String) (e : Emitter) : text s >=> text t >=> e = text (s ++ t) >=> e := by
  funext out
  have hpush : (out.pushText s).pushText t = out.pushText (s ++ t) := Fragment.append_assoc out _ _
  exact congrArg e hpush

lemma run_text (s : String) : (text s).run = .ok (.ofText s) := by
  simp [run, text, Fragment.pushText]

lemma run_value (v : Value) : (value v).run = .ok (.ofValue v) := by
  simp [run, value, Fragment.pushValue]

lemma run_result (r : Except BuildError Fragment) : (result r).run = r := by
  cases r <;> simp [run, result, Except.map]

lemma run_check_andThen (r : Except BuildError Unit) (e : Emitter) : run (check r >=> e) = r >>= fun _ => e.run := by
  have hseq : run (check r >=> e) = (r.map fun _ => Fragment.empty) >>= e := rfl
  rw [hseq]
  cases r <;> rfl

lemma Appends.run_andThen {f : Emitter} (hf : Appends f) (e : Emitter) :
    run (e >=> f) = do
      let a ← e.run
      let b ← f.run
      return a ++ b := by
  have hseq : run (e >=> f) = e.run >>= f := rfl
  rw [hseq]
  refine bind_congr fun a => (hf a).trans ?_
  cases f.run <;> rfl

lemma run_text_andThen (s : String) {e : Emitter} (he : Appends e) :
    run (text s >=> e) = do
      let a ← e.run
      return .ofText s ++ a := by
  rw [he.run_andThen, run_text]
  rfl

lemma run_andThen_text (e : Emitter) (s : String) :
    run (e >=> text s) = do
      let a ← e.run
      return a ++ .ofText s := by
  rw [(appends_text s).run_andThen, run_text]
  rfl

lemma run_between (e : Emitter) (s : String) {f : Emitter} (hf : Appends f) :
    run (e >=> text s >=> f) = do
      let a ← e.run
      let b ← f.run
      return a ++ .ofText s ++ b := by
  rw [((appends_text s).andThen hf).run_andThen, run_text_andThen s hf]
  simp only [bind_assoc, pure_bind, Fragment.append_assoc]

lemma run_enclosed (s t : String) {e : Emitter} (he : Appends e) :
    run (text s >=> e >=> text t) = do
      let a ← e.run
      return .ofText s ++ a ++ .ofText t := by
  rw [run_text_andThen s (he.andThen (appends_text t)), run_andThen_text]
  simp only [bind_assoc, pure_bind, Fragment.append_assoc]

lemma run_joined (separator : String) {es : List Emitter} (h : ∀ e ∈ es, Appends e) :
    (joined separator es).run = do
      let parts ← es.mapM run
      return .joined separator parts := by
  induction es with
  | nil => rfl
  | cons e es ih =>
    cases es with
    | nil =>
      simp only [joined, List.mapM_cons, List.mapM_nil, bind_assoc, pure_bind, Fragment.joined_singleton, bind_pure]
    | cons e' es =>
      have hrest := fun x hx => h x (List.mem_cons_of_mem e hx)
      have hstep : joined separator (e :: e' :: es) = e >=> text separator >=> joined separator (e' :: es) := rfl
      rw [hstep, run_between e separator (appends_joined separator hrest), ih hrest]
      simp only [List.mapM_cons, bind_assoc, pure_bind, Fragment.joined_cons_cons, Fragment.append_assoc]

end Emitter

lemma run_emitList (d : Dialect) (es : List Expr) :
    (emitList d es).run = do
      let parts ← es.mapM (Expr.compile d)
      return .joined ", " parts := by
  have happends : ∀ e ∈ es.map (Expr.emit d), Appends e := List.forall_mem_map.mpr fun e _ => e.appends_emit d
  rw [emitList_eq_joined, run_joined _ happends, List.mapM_map]
  rfl

mutual

lemma Expr.compile_eq_fragment (d : Dialect) : ∀ e : Expr, e.compile d = e.fragment d
  | .column c => rfl
  | .value v => run_value v
  | .star => run_text "*"
  | .raw f => by
    rw [Expr.compile, Expr.emit, run_check_andThen, Emitter.fragment, run_result]
    rfl
  | .function name args => by
    rw [Expr.compile, Expr.emit, run_check_andThen, text_andThen_text, run_enclosed _ _ (appends_emitList d args),
      run_emitList, mapM_compile d args, Expr.fragment]
    simp only [bind_assoc, pure_bind]
  | .window call => (run_result _).trans (WindowCall.compile_eq_fragment d call)
  | .binary op left right => by
    rw [Expr.fragment, ← left.compile_eq_fragment d, ← right.compile_eq_fragment d, Expr.compile, Expr.emit,
      text_andThen_text, text_andThen_text]
    exact run_between _ _ (right.appends_emit d)
  | .not operand => by
    rw [Expr.fragment, ← operand.compile_eq_fragment d]
    exact run_text_andThen _ (operand.appends_emit d)
  | .isNull operand negated => by
    rw [Expr.fragment, ← operand.compile_eq_fragment d]
    exact run_andThen_text _ _
  | .inList _ [] negated => run_text _
  | .inList operand (e :: es) negated => by
    have hoperand : (operand.emit d).run = operand.fragment d := operand.compile_eq_fragment d
    have hmembers := (appends_emitList d (e :: es)).andThen (appends_text ")")
    rw [Expr.compile, Expr.emit, run_between _ _ hmembers, run_andThen_text, run_emitList, hoperand,
      mapM_compile d (e :: es), Expr.fragment]
    simp only [bind_assoc, pure_bind, Fragment.append_assoc]
  | .nested inner => by
    rw [Expr.fragment, ← inner.compile_eq_fragment d]
    exact run_enclosed _ _ (inner.appends_emit d)
termination_by structural e => e

lemma mapM_compile (d : Dialect) : ∀ es : List Expr, es.mapM (Expr.compile d) = fragmentList d es
  | [] => rfl
  | e :: es => by
    rw [List.mapM_cons, e.compile_eq_fragment d, mapM_compile d es]
    rfl
termination_by structural es => es

lemma WindowCall.compile_eq_fragment (d : Dialect) : ∀ call : WindowCall, call.compile d = call.fragment d
  | ⟨function, args, window⟩ => by
    -- both run the call into nothing, so they check the same fragment
    have hcontents := (window.appends_emit d).andThen (appends_text ")")
    have hargs := (appends_emitList d args).andThen ((appends_text ") OVER (").andThen hcontents)
    rw [WindowCall.compile, run_check_andThen, text_andThen_text, run_text_andThen _ hargs, run_between _ _ hcontents,
      run_andThen_text, run_emitList, mapM_compile d args, WindowCall.fragment]
    simp only [bind_assoc, pure_bind, Fragment.append_assoc]
termination_by structural call => call

end

lemma SortKey.run_emit (d : Dialect) (k : SortKey) :
    (k.emit d).run = do
      let f ← (k.column.emit d).run
      return f ++ .ofText (" " ++ k.direction.sql) := by
  have htext : text " " >=> text k.direction.sql = text (" " ++ k.direction.sql) := text_andThen_text _ _ nothing
  rw [SortKey.emit, htext, run_andThen_text]

lemma Projection.run_emit (d : Dialect) (p : Projection) :
    (p.emit d).run = do
      let f ← p.expr.compile d
      let g ← (emitName d p.name).run
      return f ++ g :=
  (appends_emitName d p.name).run_andThen _

/-- Behind any fragment an expression is written as it is compiled on its own, or fails for the same reason; so are lists,
columns, sort keys and projections. All but columns are put together from what their parts are on their own. -/
theorem emit_eq_append_compile (d : Dialect) (out : Fragment) :
    (∀ e : Expr, e.emit d out = (e.compile d).map (out ++ ·) ∧ e.compile d = e.fragment d) ∧
      (∀ es : List Expr,
        emitList d es out = (emitList d es).run.map (out ++ ·) ∧
          (emitList d es).run = do
            let parts ← es.mapM (Expr.compile d)
            return .joined ", " parts) ∧
      (∀ c : Column, c.emit d out = (c.emit d).run.map (out ++ ·)) ∧
      (∀ k : SortKey,
        k.emit d out = (k.emit d).run.map (out ++ ·) ∧
          (k.emit d).run = do
            let f ← (k.column.emit d).run
            return f ++ .ofText (" " ++ k.direction.sql)) ∧
      ∀ p : Projection,
        p.emit d out = (p.emit d).run.map (out ++ ·) ∧
          (p.emit d).run = do
            let f ← p.expr.compile d
            let g ← (Projection.emitName d p.name).run
            return f ++ g := by
  refine ⟨fun e => ?expression, fun es => ?list, fun c => ?column, fun k => ?sortKey, fun p => ?projection⟩
  case expression => exact ⟨e.appends_emit d out, e.compile_eq_fragment d⟩
  case list => exact ⟨appends_emitList d es out, run_emitList d es⟩
  case column => exact c.appends_emit d out
  case sortKey => exact ⟨k.appends_emit d out, k.run_emit d⟩
  case projection => exact ⟨p.appends_emit d out, p.run_emit d⟩

-- the check of a window call does not see the quote that is open in front of it
example : (Expr.window ⟨.rank, [], .empty⟩).emit .generic (.ofText "'") = .ok (.ofText "'RANK() OVER ()") := rfl

end SqlBuilder
