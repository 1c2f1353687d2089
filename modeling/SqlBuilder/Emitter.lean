import SqlBuilder.Error
import SqlBuilder.Fragment
import SqlBuilder.Identifier

/-!
Emitters extend a fragment or fail. Chained by `>=>` from left to right, they report the first fault in the order of
the text. Each one only appends (`Appends`), and chaining keeps that.
-/

namespace SqlBuilder

abbrev Emitter := Fragment → Except BuildError Fragment

namespace Emitter

def nothing : Emitter := fun out => .ok out

def text (s : String) : Emitter := fun out => .ok (out.pushText s)

def value (v : Value) : Emitter := fun out => .ok (out.pushValue v)

def result (r : Except BuildError Fragment) : Emitter := fun out => r.map (out ++ ·)

def fragment (f : Fragment) : Emitter := result (.ok f)

def check (r : Except BuildError Unit) : Emitter := fun out => r.map fun _ => out

def identifier (d : Dialect) (name : String) : Emitter := fun out => (d.identifier name).map out.pushText

def joined (separator : String) : List Emitter → Emitter
  | [] => nothing
  | [e] => e
  | e :: rest => e >=> text separator >=> joined separator rest

def clause (keyword separator : String) (items : List Emitter) : List Emitter :=
  if items.isEmpty then [] else [text keyword >=> joined separator items]

def run (e : Emitter) : Except BuildError Fragment := e .empty

def Appends (e : Emitter) : Prop :=
  ∀ out, e out = e.run.map (out ++ ·)

theorem appends_nothing : Appends nothing := by
  intro out
  simp [nothing, run, Except.map]

theorem appends_text (s : String) : Appends (text s) := by
  intro out
  simp [text, run, Except.map, Fragment.pushText]

theorem appends_value (v : Value) : Appends (value v) := by
  intro out
  simp [value, run, Except.map, Fragment.pushValue]

theorem appends_result (r : Except BuildError Fragment) : Appends (result r) := by
  intro out
  cases r <;> simp [result, run, Except.map]

theorem appends_check (r : Except BuildError Unit) : Appends (check r) := by
  intro out
  cases r <;> simp [check, run, Except.map]

theorem appends_identifier (d : Dialect) (name : String) : Appends (identifier d name) := by
  intro out
  simp only [identifier, run]
  cases d.identifier name <;> simp [Except.map, Fragment.pushText]

theorem Appends.andThen {e f : Emitter} (he : Appends e) (hf : Appends f) : Appends (e >=> f) := by
  intro out
  have hseq : (e >=> f) out = (e out).bind f := rfl
  have hrun : run (e >=> f) = e.run.bind f := rfl
  rw [hseq, hrun, he out]
  cases e.run with
  | error err => rfl
  | ok g =>
    change f (out ++ g) = (f g).map (out ++ ·)
    rw [hf g, hf (out ++ g)]
    cases f.run <;> simp [Except.map, Fragment.append_assoc]

theorem appends_joined (separator : String) {es : List Emitter} (h : ∀ e ∈ es, Appends e) :
    Appends (joined separator es) := by
  induction es with
  | nil => exact appends_nothing
  | cons e es ih =>
    cases es with
    | nil => exact h e (by simp)
    | cons e' es =>
      exact (h e (by simp)).andThen ((appends_text separator).andThen (ih fun x hx => h x (List.mem_cons_of_mem e hx)))

theorem appends_clause (keyword separator : String) {es : List Emitter} (h : ∀ e ∈ es, Appends e) :
    ∀ e ∈ clause keyword separator es, Appends e := by
  intro e he
  cases hes : es.isEmpty with
  | true => simp [clause, hes] at he
  | false =>
    simp only [clause, hes, Bool.false_eq_true, if_false, List.mem_singleton] at he
    exact he ▸ (appends_text keyword).andThen (appends_joined separator h)

end Emitter

end SqlBuilder
