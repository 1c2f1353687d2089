import SqlBuilder.Proofs.Lexical.Inert
import SqlBuilder.Proofs.Pieces

/-!
The shape of every written query. Two pieces that could run into each other never meet: between them stands a
separator or a parenthesis, and parentheses of the builder come in pairs.
-/

namespace SqlBuilder

def isSeparator (s : String) : Bool :=
  !s.toList.isEmpty && s.toList.all Mode.isInert

inductive Phrase : List Piece → Prop
  | nil : Phrase []
  | star : Phrase [.word "*"]
  | frame (f : Frame) : Phrase [.word f.text]
  | function (name : String) : Phrase [.function name]
  | identifier (name : String) : Phrase [.identifier name]
  | value (v : Value) : Phrase [.value v]
  | raw (f : Fragment) : Phrase [.raw f]
  | join {ps qs : List Piece} {s : String} : isSeparator s = true → Phrase ps → Phrase qs →
      Phrase (ps ++ .word s :: qs)
  | group {ps inner qs : List Piece} : Phrase ps → Phrase inner → Phrase qs →
      Phrase (ps ++ Piece.group inner ++ qs)

namespace Phrase

lemma lead {s : String} {ps : List Piece} (hs : isSeparator s = true) (h : Phrase ps) : Phrase (.word s :: ps) :=
  join hs nil h

lemma trail {s : String} {ps : List Piece} (hs : isSeparator s = true) (h : Phrase ps) :
    Phrase (ps ++ [.word s]) :=
  join hs h nil

lemma word {s : String} (hs : isSeparator s = true) : Phrase [.word s] :=
  lead hs nil

lemma parens {inner : List Piece} (h : Phrase inner) : Phrase (Piece.group inner) := by
  simpa using group nil h nil

lemma call {ps inner : List Piece} (hp : Phrase ps) (h : Phrase inner) : Phrase (ps ++ Piece.group inner) := by
  simpa using group hp h nil

lemma joined {s : String} (hs : isSeparator s = true) {items : List (List Piece)} (h : ∀ ps ∈ items, Phrase ps) :
    Phrase (Piece.joined s items) :=
  Piece.joined_rec nil (fun _ _ => join hs) h

lemma joined_map {α : Type} {s : String} (hs : isSeparator s = true) {f : α → List Piece} (h : ∀ x, Phrase (f x))
    (xs : List α) : Phrase (Piece.joined s (xs.map f)) := by
  apply joined hs
  intro ps hp
  obtain ⟨x, _, rfl⟩ := List.mem_map.mp hp
  exact h x

lemma of_mem_clause {α : Type} {keyword s : String} (hk : isSeparator keyword = true) (hs : isSeparator s = true)
    {f : α → List Piece} (h : ∀ x, Phrase (f x)) (xs : List α) :
    ∀ ps ∈ Piece.clause keyword s (xs.map f), Phrase ps :=
  Piece.forall_mem_clause (lead hk (joined_map hs h xs))

end Phrase

lemma isSeparator_iff {s : String} :
    isSeparator s = true ↔ s.toList ≠ [] ∧ ∀ c ∈ s.toList, Mode.isInert c = true := by
  simp [isSeparator]

lemma isSeparator_toString (n : ℕ) : isSeparator (toString n) = true := by
  rw [isSeparator_iff, Nat.toString_eq_ofList_toDigits, String.toList_ofList]
  exact ⟨Nat.toDigits_ne_nil, Mode.isInert_toDigits n⟩

lemma Operator.isSeparator_sql (op : Operator) : isSeparator op.sql = true := by
  cases op <;> decide

lemma Direction.isSeparator_sql (dir : Direction) : isSeparator dir.sql = true := by
  cases dir <;> decide

lemma WindowFunction.isSeparator_sql (f : WindowFunction) : isSeparator f.sql = true := by
  cases f <;> decide

lemma phrase_path (path : String) : Phrase (Piece.path path) :=
  .joined_map rfl .identifier _

lemma Column.phrase_pieces (c : Column) : Phrase c.pieces := by
  have hname : Phrase [if c.name = "*" then .word "*" else .identifier c.name] := by
    split
    · exact .star
    · exact .identifier c.name
  cases ht : c.table with
  | none => simpa [pieces, ht] using hname
  | some table => simpa [pieces, ht] using Phrase.join (s := ".") rfl (phrase_path table) hname

lemma SortKey.phrase_pieces (k : SortKey) : Phrase k.pieces :=
  .join rfl k.column.phrase_pieces (.word k.direction.isSeparator_sql)

lemma Window.phrase_pieces (w : Window) : Phrase w.pieces := by
  apply Phrase.joined rfl
  intro ps hp
  simp only [List.mem_append, Option.mem_toList, Option.map_eq_some_iff] at hp
  rcases hp with (hp | hp) | ⟨f, _, rfl⟩
  · exact Phrase.of_mem_clause rfl rfl Column.phrase_pieces _ ps hp
  · exact Phrase.of_mem_clause rfl rfl SortKey.phrase_pieces _ ps hp
  · exact .frame f

mutual

lemma Expr.phrase_pieces : ∀ e : Expr, Phrase e.pieces
  | .column c => c.phrase_pieces
  | .value v => .value v
  | .star => .star
  | .raw f => .raw f
  | .function name args => .call (.function name) (phrase_piecesList args)
  | .window call => call.phrase_pieces
  | .binary op left right =>
    .join rfl left.phrase_pieces (.lead op.isSeparator_sql (.lead rfl right.phrase_pieces))
  | .not operand => .lead rfl operand.phrase_pieces
  | .isNull operand negated => .trail (by cases negated <;> decide) operand.phrase_pieces
  | .inList _ [] negated => .word (by cases negated <;> decide)
  | .inList operand (e :: es) negated =>
    .join (by cases negated <;> decide) operand.phrase_pieces (.parens (phrase_piecesList (e :: es)))
  | .nested inner => .parens inner.phrase_pieces
termination_by structural e => e

lemma phrase_piecesList : ∀ es : List Expr, Phrase (Piece.joined ", " (piecesList es))
  | [] => .nil
  | [e] => by simpa [Piece.joined, piecesList] using e.phrase_pieces
  | e :: e' :: es => by
    rw [piecesList, piecesList, Piece.joined_cons_cons]
    exact .join rfl e.phrase_pieces (phrase_piecesList (e' :: es))
termination_by structural es => es

lemma WindowCall.phrase_pieces : ∀ call : WindowCall, Phrase call.pieces
  | ⟨function, args, window⟩ =>
    .group (.word function.isSeparator_sql) (phrase_piecesList args)
      (.lead rfl (.parens window.phrase_pieces))
termination_by structural call => call

end

lemma Projection.phrase_pieces (p : Projection) : Phrase p.pieces := by
  cases hn : p.name with
  | none => simpa [pieces, hn] using p.expr.phrase_pieces
  | some name => simpa [pieces, hn] using Phrase.join (s := " AS ") rfl p.expr.phrase_pieces (.identifier name)

lemma Source.phrase_pieces (s : Source) : Phrase s.pieces := by
  cases s with
  | table path => exact phrase_path path
  | cte name => exact .identifier name

namespace SelectBody

lemma phrase_projection (b : SelectBody) : Phrase b.projectionPieces := by
  apply Phrase.lead (by cases b.distinct <;> decide)
  split
  · exact .star
  · exact .joined_map rfl Projection.phrase_pieces b.projection

lemma phrase_count {keyword : String} (hk : isSeparator keyword = true) (n : UInt64) :
    Phrase (countPieces keyword n) :=
  .lead hk (.word (isSeparator_toString n.toNat))

lemma phrase_pieces (b : SelectBody) : Phrase b.pieces := by
  apply Phrase.joined rfl
  intro ps hp
  simp only [List.mem_append, List.mem_singleton, List.mem_map, Option.mem_toList] at hp
  rcases hp with (((((rfl | ⟨s, _, rfl⟩) | hp) | hp) | hp) | ⟨n, _, rfl⟩) | ⟨n, _, rfl⟩
  · exact b.phrase_projection
  · exact .lead rfl s.phrase_pieces
  · exact Phrase.of_mem_clause rfl rfl Expr.phrase_pieces _ ps hp
  · exact Phrase.of_mem_clause rfl rfl Column.phrase_pieces _ ps hp
  · exact Phrase.of_mem_clause rfl rfl SortKey.phrase_pieces _ ps hp
  · exact phrase_count rfl n
  · exact phrase_count rfl n

end SelectBody

lemma Phrase.heading (cte : String) (columns : List String) : Phrase (Piece.heading cte columns) := by
  rw [Piece.heading]
  split
  · exact identifier cte
  · have hcolumns : Phrase (Piece.joined ", " (columns.map fun column => [.identifier column])) :=
      joined_map rfl identifier columns
    exact join rfl (identifier cte) (parens hcolumns)

lemma Phrase.declaration (cte : String) (columns : List String) {body : List Piece} (h : Phrase body) :
    Phrase (Piece.declaration cte columns body) :=
  join rfl (heading cte columns) (parens h)

mutual

lemma Query.phrase_pieces : ∀ q : Query, Phrase q.pieces
  | .select s => s.phrase_pieces
  | .raw f => .raw f
  | .fragment f => .raw f
  | .composed w base => .join rfl w.phrase_pieces base.phrase_pieces
termination_by structural q => q

lemma Select.phrase_pieces : ∀ s : Select, Phrase s.pieces
  | ⟨body, none⟩ => body.phrase_pieces
  | ⟨body, some w⟩ => .join rfl w.phrase_pieces body.phrase_pieces
termination_by structural s => s

lemma With.phrase_pieces : ∀ w : With, Phrase w.pieces
  | ⟨ctes⟩ => .lead rfl (.joined rfl (phrase_ctePieces ctes))
termination_by structural w => w

lemma phrase_ctePieces : ∀ ctes : List Cte, ∀ ps ∈ ctePieces ctes, Phrase ps
  | [] => by simp [ctePieces]
  | cte :: ctes => List.forall_mem_cons.mpr ⟨cte.phrase_pieces, phrase_ctePieces ctes⟩
termination_by structural ctes => ctes

lemma Cte.phrase_pieces : ∀ cte : Cte, Phrase cte.pieces
  | ⟨name, columns, query⟩ => .declaration name columns query.phrase_pieces
termination_by structural cte => cte

end

end SqlBuilder
