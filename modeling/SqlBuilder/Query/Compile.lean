import SqlBuilder.Query
import SqlBuilder.With.Declaration

/-!
Compiling queries. A base query is compiled before the declarations in front of it, and those in their order, so the
first fault in that order is reported.
-/

namespace SqlBuilder

def With.checkSource (w : With) : Option Source → Except BuildError Unit
  | some (.cte name) => require (w.names.contains name) (.undeclaredCte name)
  | _ => .ok ()

mutual

def Query.compile (d : Dialect) : Query → Except BuildError Fragment
  | .select s => s.compile d
  | .raw f => do
    require (!f.isBlank) .emptyRawQuery
    return f
  | .fragment f => .ok f
  | .composed w base => do
    let f ← base.compile d
    w.precede d f
termination_by structural q => q

/-- Without a clause, a declared name is taken to be declared by an enclosing statement. -/
def Select.compile (d : Dialect) : Select → Except BuildError Fragment
  | ⟨body, none⟩ => body.compile d
  | ⟨body, some w⟩ => do
    let f ← body.compile d
    w.checkSource body.source
    w.precede d f
termination_by structural s => s

def With.precede (d : Dialect) : With → Fragment → Except BuildError Fragment
  | ⟨ctes⟩, base => do
    let cs ← compileCtes d ctes
    assembleWith d cs base
termination_by structural w => w

def compileCtes (d : Dialect) : List Cte → Except BuildError (List Declaration)
  | [] => .ok []
  | cte :: ctes => do
    let c ← cte.compile d
    let cs ← compileCtes d ctes
    return c :: cs
termination_by structural ctes => ctes

def Cte.compile (d : Dialect) : Cte → Except BuildError Declaration
  | ⟨name, columns, query⟩ => do
    let body ← query.compile d
    return ⟨name, columns, body⟩
termination_by structural cte => cte

end

def Query.statement (d : Dialect) (q : Query) : Except BuildError Statement := do
  let f ← q.compile d
  f.finish d

end SqlBuilder
