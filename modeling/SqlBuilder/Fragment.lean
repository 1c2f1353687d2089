import SqlBuilder.Text.Blank
import SqlBuilder.Value

/-! Pieces of SQL: a text with `?` markers and the values bound to them, in order. Pieces join by concatenation. -/

namespace SqlBuilder

structure Fragment where
  sql : String
  params : List Value
deriving BEq, Inhabited

namespace Fragment

def empty : Fragment := ⟨"", []⟩

def ofText (s : String) : Fragment := ⟨s, []⟩

def ofValue (v : Value) : Fragment := ⟨"?", [v]⟩

def append (f g : Fragment) : Fragment := ⟨f.sql ++ g.sql, f.params ++ g.params⟩

instance : Append Fragment := ⟨append⟩

def pushText (f : Fragment) (s : String) : Fragment := f ++ ofText s

def pushValue (f : Fragment) (v : Value) : Fragment := f ++ ofValue v

def isBlank (f : Fragment) : Bool := Text.isBlank f.sql

@[simp] theorem sql_append (f g : Fragment) : (f ++ g).sql = f.sql ++ g.sql := rfl

@[simp] theorem params_append (f g : Fragment) : (f ++ g).params = f.params ++ g.params := rfl

@[ext] theorem eq_of_sql_params {f g : Fragment} (hs : f.sql = g.sql) (hp : f.params = g.params) : f = g := by
  cases f
  cases g
  simp_all

@[simp] theorem empty_append (f : Fragment) : empty ++ f = f := by
  ext <;> simp [empty]

@[simp] theorem append_empty (f : Fragment) : f ++ empty = f := by
  ext <;> simp [empty]

theorem append_assoc (f g h : Fragment) : f ++ g ++ h = f ++ (g ++ h) := by
  ext <;> simp [String.append_assoc]

theorem append_cancel {f g h : Fragment} (heq : f ++ g = f ++ h) : g = h := by
  have hsql := congrArg (fun e : Fragment => e.sql.toList) heq
  have hparams := congrArg params heq
  simp only [sql_append, String.toList_append, List.append_cancel_left_eq] at hsql
  exact eq_of_sql_params (String.toList_inj.mp hsql) (List.append_cancel_left hparams)

theorem isBlank_append (f g : Fragment) : (f ++ g).isBlank = (f.isBlank && g.isBlank) :=
  Text.isBlank_append f.sql g.sql

end Fragment

end SqlBuilder
