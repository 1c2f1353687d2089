import Mathlib.Data.List.Forall2
import SqlBuilder.Proofs.Pieces

namespace SqlBuilder

variable (σ : Value → Value)

def Fragment.mapValues (f : Fragment) : Fragment := ⟨f.sql, f.params.map σ⟩

def Piece.mapValues : Piece → Piece
  | value v => value (σ v)
  | raw f => raw (f.mapValues σ)
  | p => p

mutual

def Expr.mapValues : Expr → Expr
  | .column c => .column c
  | .value v => .value (σ v)
  | .star => .star
  | .raw f => .raw (f.mapValues σ)
  | .function name args => .function name (mapValuesList args)
  | .window call => .window call.mapValues
  | .binary op left right => .binary op left.mapValues right.mapValues
  | .not operand => .not operand.mapValues
  | .isNull operand negated => .isNull operand.mapValues negated
  | .inList operand list negated => .inList operand.mapValues (mapValuesList list) negated
  | .nested inner => .nested inner.mapValues
termination_by structural e => e

def mapValuesList : List Expr → List Expr
  | [] => []
  | e :: es => e.mapValues :: mapValuesList es
termination_by structural es => es

def WindowCall.mapValues : WindowCall → WindowCall
  | ⟨function, args, window⟩ => ⟨function, mapValuesList args, window⟩
termination_by structural call => call

end

def Projection.mapValues (p : Projection) : Projection := { p with expr := p.expr.mapValues σ }

def SelectBody.mapValues (b : SelectBody) : SelectBody :=
  { b with projection := b.projection.map (Projection.mapValues σ), filters := b.filters.map (Expr.mapValues σ) }

mutual

def Query.mapValues : Query → Query
  | .select s => .select s.mapValues
  | .raw f => .raw (f.mapValues σ)
  | .fragment f => .fragment (f.mapValues σ)
  | .composed w base => .composed w.mapValues base.mapValues
termination_by structural q => q

def Select.mapValues : Select → Select
  | ⟨body, none⟩ => ⟨body.mapValues σ, none⟩
  | ⟨body, some w⟩ => ⟨body.mapValues σ, some w.mapValues⟩
termination_by structural s => s

def With.mapValues : With → With
  | ⟨ctes⟩ => ⟨mapValuesCtes ctes⟩
termination_by structural w => w

def mapValuesCtes : List Cte → List Cte
  | [] => []
  | cte :: ctes => cte.mapValues :: mapValuesCtes ctes
termination_by structural ctes => ctes

def Cte.mapValues : Cte → Cte
  | ⟨name, columns, query⟩ => ⟨name, columns, query.mapValues⟩
termination_by structural cte => cte

end

lemma Fragment.mapValues_id (f : Fragment) : f.mapValues id = f := by
  simp [mapValues]

mutual

lemma Expr.mapValues_id : ∀ e : Expr, e.mapValues id = e
  | .column _ => rfl
  | .value _ => rfl
  | .star => rfl
  | .raw f => congrArg Expr.raw f.mapValues_id
  | .function name args => congrArg (Expr.function name) (mapValuesList_id args)
  | .window call => congrArg Expr.window call.mapValues_id
  | .binary op left right => congrArg₂ (Expr.binary op) left.mapValues_id right.mapValues_id
  | .not operand => congrArg Expr.not operand.mapValues_id
  | .isNull operand negated => congrArg (Expr.isNull · negated) operand.mapValues_id
  | .inList operand list negated =>
    congrArg₂ (Expr.inList · · negated) operand.mapValues_id (mapValuesList_id list)
  | .nested inner => congrArg Expr.nested inner.mapValues_id
termination_by structural e => e

lemma mapValuesList_id : ∀ es : List Expr, mapValuesList id es = es
  | [] => rfl
  | e :: es => congrArg₂ List.cons e.mapValues_id (mapValuesList_id es)
termination_by structural es => es

lemma WindowCall.mapValues_id : ∀ call : WindowCall, call.mapValues id = call
  | ⟨function, args, window⟩ => congrArg (WindowCall.mk function · window) (mapValuesList_id args)
termination_by structural call => call

end

lemma SelectBody.mapValues_id (b : SelectBody) : b.mapValues id = b := by
  have hprojection : Projection.mapValues id = id := funext fun p => by simp [Projection.mapValues, p.expr.mapValues_id]
  have hfilter : Expr.mapValues id = id := funext Expr.mapValues_id
  simp [mapValues, hprojection, hfilter]

mutual

lemma Query.mapValues_id : ∀ q : Query, q.mapValues id = q
  | .select s => congrArg Query.select s.mapValues_id
  | .raw f => congrArg Query.raw f.mapValues_id
  | .fragment f => congrArg Query.fragment f.mapValues_id
  | .composed w base => congrArg₂ Query.composed w.mapValues_id base.mapValues_id
termination_by structural q => q

lemma Select.mapValues_id : ∀ s : Select, s.mapValues id = s
  | ⟨body, none⟩ => congrArg (Select.mk · none) body.mapValues_id
  | ⟨body, some w⟩ => congrArg₂ (Select.mk · <| some ·) body.mapValues_id w.mapValues_id
termination_by structural s => s

lemma With.mapValues_id : ∀ w : With, w.mapValues id = w
  | ⟨ctes⟩ => congrArg With.mk (mapValuesCtes_id ctes)
termination_by structural w => w

lemma mapValuesCtes_id : ∀ ctes : List Cte, mapValuesCtes id ctes = ctes
  | [] => rfl
  | cte :: ctes => congrArg₂ List.cons cte.mapValues_id (mapValuesCtes_id ctes)
termination_by structural ctes => ctes

lemma Cte.mapValues_id : ∀ cte : Cte, cte.mapValues id = cte
  | ⟨name, columns, query⟩ => congrArg (Cte.mk name columns) query.mapValues_id
termination_by structural cte => cte

end

def Piece.erase (p : Piece) : Piece := p.mapValues fun _ => .null

def Query.erase (q : Query) : Query := q.mapValues fun _ => .null

namespace Piece

@[simp] lemma mapValues_word (s : String) : (word s).mapValues σ = word s := rfl

@[simp] lemma mapValues_function (name : String) : (function name).mapValues σ = function name := rfl

@[simp] lemma mapValues_identifier (name : String) : (identifier name).mapValues σ = identifier name := rfl

lemma values_mapValues (p : Piece) : (p.mapValues σ).values = p.values.map σ := by
  cases p <;> rfl

lemma map_joined (separator : String) (items : List (List Piece)) :
    (joined separator items).map (mapValues σ) = joined separator (items.map (List.map (mapValues σ))) := by
  induction items with
  | nil => rfl
  | cons ps items ih =>
    cases items with
    | nil => simp [joined]
    | cons qs items =>
      rw [joined_cons_cons, List.map_append, List.map_cons, ih]
      exact (joined_cons_cons separator _ _ _).symm

lemma map_clause (keyword separator : String) (items : List (List Piece)) :
    (clause keyword separator items).map (List.map (mapValues σ)) =
      clause keyword separator (items.map (List.map (mapValues σ))) := by
  cases items with
  | nil => rfl
  | cons ps items => simp [clause, map_joined]

lemma map_path (s : String) : (path s).map (mapValues σ) = path s := by
  simp [path, map_joined, Function.comp_def]

lemma map_group (inner : List Piece) : (group inner).map (mapValues σ) = group (inner.map (mapValues σ)) := by
  simp [group]

lemma map_heading (cte : String) (columns : List String) :
    (heading cte columns).map (mapValues σ) = heading cte columns := by
  cases columns <;> simp [heading, map_group, map_joined, Function.comp_def]

lemma map_declaration (cte : String) (columns : List String) (body : List Piece) :
    (declaration cte columns body).map (mapValues σ) = declaration cte columns (body.map (mapValues σ)) := by
  simp [declaration, map_heading, map_group]

end Piece

lemma Column.map_pieces (c : Column) : c.pieces.map (Piece.mapValues σ) = c.pieces := by
  have hname : [if c.name = "*" then .word "*" else .identifier c.name].map (Piece.mapValues σ) =
      [if c.name = "*" then .word "*" else .identifier c.name] := by
    split <;> rfl
  rw [pieces, List.map_append, hname]
  cases c.table with
  | none => rfl
  | some table => simp [Piece.map_path]

lemma SortKey.map_pieces (k : SortKey) : k.pieces.map (Piece.mapValues σ) = k.pieces := by
  simp [pieces, k.column.map_pieces]

lemma Window.map_pieces (w : Window) : w.pieces.map (Piece.mapValues σ) = w.pieces := by
  have hframe : (w.frame.map fun f => [Piece.word f.text]).toList.map (List.map (Piece.mapValues σ)) =
      (w.frame.map fun f => [Piece.word f.text]).toList := by
    cases w.frame <;> rfl
  simp [pieces, Piece.map_joined, Piece.map_clause, Function.comp_def, Column.map_pieces, SortKey.map_pieces, hframe]

mutual

lemma Expr.pieces_mapValues : ∀ e : Expr, (e.mapValues σ).pieces = e.pieces.map (Piece.mapValues σ)
  | .column c => (c.map_pieces σ).symm
  | .value v => rfl
  | .star => rfl
  | .raw f => rfl
  | .function name args => by
    simp [Expr.mapValues, Expr.pieces, Piece.map_group, Piece.map_joined, pieces_mapValuesList args]
  | .window call => call.pieces_mapValues
  | .binary op left right => by
    simp [Expr.mapValues, Expr.pieces, left.pieces_mapValues, right.pieces_mapValues]
  | .not operand => by simp [Expr.mapValues, Expr.pieces, operand.pieces_mapValues]
  | .isNull operand negated => by simp [Expr.mapValues, Expr.pieces, operand.pieces_mapValues]
  | .inList _ [] _ => rfl
  | .inList operand (e :: es) negated => by
    have hlist : piecesList (mapValuesList σ (e :: es)) = _ := pieces_mapValuesList (e :: es)
    rw [mapValuesList] at hlist
    simp [Expr.mapValues, mapValuesList, Expr.pieces, operand.pieces_mapValues, hlist, Piece.map_group,
      Piece.map_joined]
  | .nested inner => by simp [Expr.mapValues, Expr.pieces, Piece.map_group, inner.pieces_mapValues]
termination_by structural e => e

lemma pieces_mapValuesList :
    ∀ es : List Expr, piecesList (mapValuesList σ es) = (piecesList es).map (List.map (Piece.mapValues σ))
  | [] => rfl
  | e :: es => by simp [mapValuesList, piecesList, e.pieces_mapValues, pieces_mapValuesList es]
termination_by structural es => es

lemma WindowCall.pieces_mapValues :
    ∀ call : WindowCall, (call.mapValues σ).pieces = call.pieces.map (Piece.mapValues σ)
  | ⟨function, args, window⟩ => by
    simp [WindowCall.mapValues, WindowCall.pieces, Piece.map_group, Piece.map_joined, pieces_mapValuesList args,
      window.map_pieces]
termination_by structural call => call

end

lemma Projection.pieces_mapValues (p : Projection) : (p.mapValues σ).pieces = p.pieces.map (Piece.mapValues σ) := by
  have hexpr := p.expr.pieces_mapValues σ
  cases hn : p.name <;> simp [mapValues, pieces, hexpr, hn]

lemma Source.map_pieces (s : Source) : s.pieces.map (Piece.mapValues σ) = s.pieces := by
  cases s with
  | table path => exact Piece.map_path σ path
  | cte name => rfl

lemma SelectBody.pieces_mapValues (b : SelectBody) : (b.mapValues σ).pieces = b.pieces.map (Piece.mapValues σ) := by
  have hprojection : (b.mapValues σ).projectionPieces = b.projectionPieces.map (Piece.mapValues σ) := by
    cases hp : b.projection <;>
      simp [mapValues, projectionPieces, hp, Piece.map_joined, Projection.pieces_mapValues, Function.comp_def]
  have hcount : ∀ keyword n, (countPieces keyword n).map (Piece.mapValues σ) = countPieces keyword n :=
    fun _ _ => rfl
  rw [pieces, hprojection]
  simp [pieces, mapValues, Piece.map_joined, Piece.map_clause, Function.comp_def, Source.map_pieces, hcount,
    Expr.pieces_mapValues, Column.map_pieces, SortKey.map_pieces]

mutual

lemma Query.pieces_mapValues : ∀ q : Query, (q.mapValues σ).pieces = q.pieces.map (Piece.mapValues σ)
  | .select s => s.pieces_mapValues
  | .raw f => rfl
  | .fragment f => rfl
  | .composed w base => by simp [Query.mapValues, Query.pieces, w.pieces_mapValues, base.pieces_mapValues]
termination_by structural q => q

lemma Select.pieces_mapValues : ∀ s : Select, (s.mapValues σ).pieces = s.pieces.map (Piece.mapValues σ)
  | ⟨body, none⟩ => body.pieces_mapValues σ
  | ⟨body, some w⟩ => by
    simp [Select.mapValues, Select.pieces, w.pieces_mapValues, body.pieces_mapValues]
termination_by structural s => s

lemma With.pieces_mapValues : ∀ w : With, (w.mapValues σ).pieces = w.pieces.map (Piece.mapValues σ)
  | ⟨ctes⟩ => by simp [With.mapValues, With.pieces, Piece.map_joined, pieces_mapValuesCtes ctes]
termination_by structural w => w

lemma pieces_mapValuesCtes :
    ∀ ctes : List Cte, ctePieces (mapValuesCtes σ ctes) = (ctePieces ctes).map (List.map (Piece.mapValues σ))
  | [] => rfl
  | cte :: ctes => by simp [mapValuesCtes, ctePieces, cte.pieces_mapValues, pieces_mapValuesCtes ctes]
termination_by structural ctes => ctes

lemma Cte.pieces_mapValues : ∀ cte : Cte, (cte.mapValues σ).pieces = cte.pieces.map (Piece.mapValues σ)
  | ⟨name, columns, query⟩ => by
    simp [Cte.mapValues, Cte.pieces, Piece.map_declaration, query.pieces_mapValues]
termination_by structural cte => cte

end

lemma Query.pieces_erase (q : Query) : q.erase.pieces = q.pieces.map Piece.erase :=
  q.pieces_mapValues _

/-- Values with the same index in pieces with the same index, which differ in their values alone. -/
def Piece.SamePlace (ps ps' : List Piece) (v v' : Value) : Prop :=
  ∃ (k j : ℕ) (p p' : Piece), ps[k]? = some p ∧ ps'[k]? = some p' ∧ p.erase = p'.erase ∧
    p.values[j]? = some v ∧ p'.values[j]? = some v'

namespace Piece

lemma samePlace_cons {ps ps' : List Piece} {v v' : Value} (h : SamePlace ps ps' v v') (p p' : Piece) :
    SamePlace (p :: ps) (p' :: ps') v v' := by
  obtain ⟨k, j, r, r', hr, hr', hrest⟩ := h
  exact ⟨k + 1, j, r, r', by simpa using hr, by simpa using hr', hrest⟩

lemma samePlace_values {p p' : Piece} (h : p.erase = p'.erase) (ps ps' : List Piece) :
    List.Forall₂ (SamePlace (p :: ps) (p' :: ps')) p.values p'.values := by
  have hvalues : p.values.map (fun _ => Value.null) = p'.values.map fun _ => Value.null := by
    rw [← values_mapValues, ← values_mapValues]
    exact congrArg values h
  have hlength : p.values.length = p'.values.length := by simpa using congrArg List.length hvalues
  refine List.forall₂_iff_get.mpr ⟨hlength, fun j hj hj' => ?_⟩
  exact ⟨0, j, p, p', rfl, rfl, h, List.getElem?_eq_getElem hj, List.getElem?_eq_getElem hj'⟩

lemma samePlace_flatMap {ps ps' : List Piece} (h : ps.map erase = ps'.map erase) :
    List.Forall₂ (SamePlace ps ps') (ps.flatMap values) (ps'.flatMap values) := by
  induction ps generalizing ps' with
  | nil =>
    obtain rfl : ps' = [] := by simpa using h.symm
    exact .nil
  | cons p ps ih =>
    cases ps' with
    | nil => simp at h
    | cons p' ps' =>
      obtain ⟨hp, hps⟩ := List.cons.inj h
      have htail : List.Forall₂ (SamePlace (p :: ps) (p' :: ps')) (ps.flatMap values) (ps'.flatMap values) :=
        (ih hps).imp fun _ _ hv => samePlace_cons hv p p'
      exact List.rel_append (samePlace_values hp ps ps') htail

end Piece

end SqlBuilder
