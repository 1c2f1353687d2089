import Mathlib.Data.Nat.Notation
import Mathlib.Tactic.Lemma
import SqlBuilder.Query

/-!
The pieces of a query in the order in which they are written: words of the builder, function names, identifiers, bound
values and text written elsewhere. They depend neither on the dialect nor on the checks made on the way.
-/

namespace SqlBuilder

inductive Piece
  | word (s : String)
  | function (name : String)
  | identifier (name : String)
  | value (v : Value)
  | raw (f : Fragment)

namespace Piece

def values : Piece → List Value
  | value v => [v]
  | raw f => f.params
  | _ => []

def joined (separator : String) (items : List (List Piece)) : List Piece :=
  [word separator].intercalate items

def clause (keyword separator : String) (items : List (List Piece)) : List (List Piece) :=
  if items.isEmpty then [] else [word keyword :: joined separator items]

def path (path : String) : List Piece :=
  joined "." ((Text.parts path).map fun part => [identifier part])

def group (inner : List Piece) : List Piece :=
  word "(" :: inner ++ [word ")"]

def heading (cte : String) (columns : List String) : List Piece :=
  identifier cte ::
    (if columns.isEmpty then [] else word " " :: group (joined ", " (columns.map fun column => [identifier column])))

def declaration (cte : String) (columns : List String) (body : List Piece) : List Piece :=
  heading cte columns ++ word " AS " :: group body

end Piece

def Column.pieces (c : Column) : List Piece :=
  (c.table.elim [] fun table => Piece.path table ++ [.word "."]) ++
    [if c.name = "*" then .word "*" else .identifier c.name]

def SortKey.pieces (k : SortKey) : List Piece :=
  k.column.pieces ++ [.word " ", .word k.direction.sql]

def Window.pieces (w : Window) : List Piece :=
  Piece.joined " " <|
    Piece.clause "PARTITION BY " ", " (w.partitionBy.map Column.pieces) ++
      Piece.clause "ORDER BY " ", " (w.orderBy.map SortKey.pieces) ++
      (w.frame.map fun f => [.word f.text]).toList

mutual

def Expr.pieces : Expr → List Piece
  | .column c => c.pieces
  | .value v => [.value v]
  | .star => [.word "*"]
  | .raw f => [.raw f]
  | .function name args => .function name :: Piece.group (Piece.joined ", " (piecesList args))
  | .window call => call.pieces
  | .binary op left right => left.pieces ++ .word " " :: .word op.sql :: .word " " :: right.pieces
  | .not operand => .word "NOT " :: operand.pieces
  | .isNull operand negated => operand.pieces ++ [.word (if negated then " IS NOT NULL" else " IS NULL")]
  | .inList _ [] negated => [.word (if negated then "1 = 1" else "1 = 0")]
  | .inList operand (e :: es) negated =>
    operand.pieces ++ .word (if negated then " NOT IN " else " IN ") ::
      Piece.group (Piece.joined ", " (piecesList (e :: es)))
  | .nested inner => Piece.group inner.pieces
termination_by structural e => e

def piecesList : List Expr → List (List Piece)
  | [] => []
  | e :: es => e.pieces :: piecesList es
termination_by structural es => es

def WindowCall.pieces : WindowCall → List Piece
  | ⟨function, args, window⟩ =>
    .word function.sql :: Piece.group (Piece.joined ", " (piecesList args)) ++
      .word " OVER " :: Piece.group window.pieces
termination_by structural call => call

end

def Projection.pieces (p : Projection) : List Piece :=
  p.expr.pieces ++ p.name.elim [] fun name => [.word " AS ", .identifier name]

def Source.pieces : Source → List Piece
  | .table path => Piece.path path
  | .cte name => [.identifier name]

namespace SelectBody

def projectionPieces (b : SelectBody) : List Piece :=
  .word (if b.distinct then "SELECT DISTINCT " else "SELECT ") ::
    if b.projection.isEmpty then [.word "*"] else Piece.joined ", " (b.projection.map Projection.pieces)

def countPieces (keyword : String) (n : UInt64) : List Piece :=
  [.word keyword, .word (toString n.toNat)]

def pieces (b : SelectBody) : List Piece :=
  Piece.joined " " <|
    [b.projectionPieces] ++
      b.source.toList.map (fun s => .word "FROM " :: s.pieces) ++
      Piece.clause "WHERE " " AND " (b.filters.map Expr.pieces) ++
      Piece.clause "GROUP BY " ", " (b.groupBy.map Column.pieces) ++
      Piece.clause "ORDER BY " ", " (b.orderBy.map SortKey.pieces) ++
      b.limit.toList.map (countPieces "LIMIT ") ++
      b.offset.toList.map (countPieces "OFFSET ")

end SelectBody

mutual

def Query.pieces : Query → List Piece
  | .select s => s.pieces
  | .raw f => [.raw f]
  | .fragment f => [.raw f]
  | .composed w base => w.pieces ++ .word " " :: base.pieces
termination_by structural q => q

def Select.pieces : Select → List Piece
  | ⟨body, none⟩ => body.pieces
  | ⟨body, some w⟩ => w.pieces ++ .word " " :: body.pieces
termination_by structural s => s

def With.pieces : With → List Piece
  | ⟨ctes⟩ => .word "WITH " :: Piece.joined ", " (ctePieces ctes)
termination_by structural w => w

def ctePieces : List Cte → List (List Piece)
  | [] => []
  | cte :: ctes => cte.pieces :: ctePieces ctes
termination_by structural ctes => ctes

def Cte.pieces : Cte → List Piece
  | ⟨name, columns, query⟩ => Piece.declaration name columns query.pieces
termination_by structural cte => cte

end

lemma Piece.joined_cons_cons (separator : String) (ps qs : List Piece) (items : List (List Piece)) :
    joined separator (ps :: qs :: items) = ps ++ word separator :: joined separator (qs :: items) := by
  simp [joined, List.intercalate_cons_cons]

section Closure

variable {P : List Piece → Prop} {separator : String} {items : List (List Piece)}

lemma Piece.joined_rec (hnil : P []) (hjoin : ∀ ps qs, P ps → P qs → P (ps ++ word separator :: qs))
    (h : ∀ ps ∈ items, P ps) : P (joined separator items) := by
  induction items with
  | nil => exact hnil
  | cons ps items ih =>
    rw [List.forall_mem_cons] at h
    cases items with
    | nil => simpa [joined] using h.1
    | cons qs items =>
      rw [joined_cons_cons]
      exact hjoin ps _ h.1 (ih h.2)

lemma Piece.forall_mem_clause {keyword : String} (h : P (word keyword :: joined separator items)) :
    ∀ ps ∈ clause keyword separator items, P ps := by
  intro ps hp
  rw [clause] at hp
  split at hp
  · simp at hp
  · exact List.mem_singleton.mp hp ▸ h

end Closure

lemma Piece.mem_joined {separator : String} {items : List (List Piece)} {ps : List Piece} {p : Piece}
    (hps : ps ∈ items) (hp : p ∈ ps) : p ∈ joined separator items := by
  induction items with
  | nil => simp at hps
  | cons qs items ih =>
    cases items with
    | nil => simpa [joined, List.mem_singleton.mp hps] using hp
    | cons rs items =>
      rw [joined_cons_cons]
      rcases List.mem_cons.mp hps with rfl | hps
      · exact List.mem_append_left _ hp
      · exact List.mem_append_right _ (List.mem_cons_of_mem _ (ih hps))

lemma Piece.forall_mem_joined {P : Piece → Prop} {separator : String} {items : List (List Piece)}
    (hs : P (word separator)) (h : ∀ ps ∈ items, ∀ p ∈ ps, P p) : ∀ p ∈ joined separator items, P p := by
  apply joined_rec (P := fun ps => ∀ p ∈ ps, P p) (by simp) ?_ h
  intro ps qs hps hqs
  rw [List.forall_mem_append, List.forall_mem_cons]
  exact ⟨hps, hs, hqs⟩

lemma Piece.forall_mem_heading {P : Piece → Prop} {cte : String} {columns : List String} (hw : ∀ s, P (word s))
    (hn : ∀ name ∈ cte :: columns, P (identifier name)) : ∀ p ∈ heading cte columns, P p := by
  rw [List.forall_mem_cons] at hn
  have hlist : ∀ p ∈ joined ", " (columns.map fun column => [identifier column]), P p := by
    apply forall_mem_joined (hw ", ")
    simpa using hn.2
  rw [heading, List.forall_mem_cons]
  refine ⟨hn.1, ?_⟩
  split
  · simp
  · rw [group, List.forall_mem_cons, List.forall_mem_append, List.forall_mem_cons]
    exact ⟨hw " ", ⟨hw "(", hlist⟩, by simpa using hw ")"⟩

end SqlBuilder
