import SqlBuilder.Select

namespace SqlBuilder

mutual

inductive Query
  | select (select : Select)
  | raw (statement : Fragment)
  | fragment (fragment : Fragment)
  | composed (clause : With) (base : Query)

structure Select where
  body : SelectBody
  clause : Option With

structure With where
  ctes : List Cte

structure Cte where
  name : String
  columns : List String
  query : Query

end

namespace With

def empty : With := ⟨[]⟩

def names (w : With) : List String :=
  w.ctes.map Cte.name

def size (w : With) : Nat := w.ctes.length

def isEmpty (w : With) : Bool := w.ctes.isEmpty

def declare (w : With) (name : String) (columns : List String) (query : Query) : With :=
  ⟨w.ctes ++ [⟨name, columns, query⟩]⟩

def attach (w : With) (base : Query) : Query := .composed w base

def selectFrom (w : With) (name : String) : Select :=
  ⟨{ SelectBody.empty with source := some (.cte name) }, some w⟩

instance : Inhabited With := ⟨empty⟩

end With

instance : Inhabited Select := ⟨⟨.empty, none⟩⟩

instance : Inhabited Query := ⟨.select default⟩

end SqlBuilder
