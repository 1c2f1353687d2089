import SqlBuilder.Expr.Step
import SqlBuilder.Proofs.Column.Path
import SqlBuilder.Proofs.Lexical.Sheltered
import SqlBuilder.Proofs.Pieces.Compiled
import SqlBuilder.Proofs.Select.Clauses

namespace SqlBuilder

def Column.Unescaped (c : Column) : Prop :=
  ∀ name ∈ c.names, '\\' ∉ name.toList

instance (c : Column) : Decidable c.Unescaped :=
  inferInstanceAs (Decidable (∀ name ∈ c.names, '\\' ∉ name.toList))

/-- Built from columns, values, calls and the steps of `Expr.step`, with neither text written elsewhere nor a
disjunction without its parentheses. -/
inductive Expr.Fluent : Expr → Prop
  | column {c : Column} : c.Unescaped → Fluent (.column c)
  | value (v : Value) : Fluent (.value v)
  | star : Fluent .star
  | function {name : String} {args : List Expr} : (∀ c ∈ name.toList, isWordChar c = true) →
      isOr name.toList = false → (∀ e ∈ args, Fluent e) → Fluent (.function name args)
  | window {function : WindowFunction} {args : List Expr} {w : Window} : (∀ e ∈ args, Fluent e) →
      (∀ c ∈ w.partitionBy, c.Unescaped) → (∀ k ∈ w.orderBy, k.column.Unescaped) → Fluent (.window ⟨function, args, w⟩)
  | combine (op : Operator) {left right : Expr} : Fluent left → Fluent right → Fluent (left.step (.combine op right))
  | not {e : Expr} : Fluent e → Fluent (e.step .not)
  | isNull {e : Expr} (negated : Bool) : Fluent e → Fluent (e.step (.isNull negated))
  | among {e : Expr} (values : List Value) (negated : Bool) : Fluent e → Fluent (e.step (.among values negated))

lemma piecesList_eq_map (es : List Expr) : piecesList es = es.map Expr.pieces := by
  induction es with
  | nil => rfl
  | cons e es ih => rw [piecesList, ih, List.map_cons]

lemma plain_arguments {es : List Expr} (h : ∀ e ∈ es, ∀ p ∈ e.pieces, p.Plain) :
    ∀ p ∈ Piece.joined ", " (piecesList es), p.Plain := by
  apply Piece.forall_mem_joined (P := Piece.Plain) trivial
  rw [piecesList_eq_map, List.forall_mem_map]
  exact h

section Guarded

variable {d : Dialect} (hd : Mode.isQuote d.quote = true)

include hd

lemma Column.Unescaped.guarded {c : Column} (h : c.Unescaped) : Guarded d c.pieces := by
  have hpart : ∀ name ∈ c.names, Guarded d [.identifier name] := fun name hname => .identifier hd (h name hname)
  have hname : Guarded d [if c.name = "*" then .word "*" else .identifier c.name] := by
    split
    · exact .star
    · exact hpart c.name (by simp [names])
  cases ht : c.table with
  | none => simpa [pieces, ht] using hname
  | some table =>
    have hpath : Guarded d (Piece.path table) := by
      apply Guarded.joined hd (by decide)
      intro ps hps
      obtain ⟨part, hpart', rfl⟩ := List.mem_map.mp hps
      exact hpart part (by simp [names, qualifier, ht, hpart'])
    simpa [pieces, ht] using Guarded.between hd ["."] (by decide) hpath hname

lemma Window.plain_pieces {w : Window} (hpartition : ∀ c ∈ w.partitionBy, c.Unescaped)
    (horder : ∀ k ∈ w.orderBy, k.column.Unescaped) : ∀ p ∈ w.pieces, p.Plain := by
  have hcolumns : ∀ p ∈ Piece.joined ", " (w.partitionBy.map Column.pieces), p.Plain := by
    apply Piece.forall_mem_joined (P := Piece.Plain) trivial
    rw [List.forall_mem_map]
    exact fun c hc => ((hpartition c hc).guarded hd).plain
  have hkeys : ∀ p ∈ Piece.joined ", " (w.orderBy.map SortKey.pieces), p.Plain := by
    apply Piece.forall_mem_joined (P := Piece.Plain) trivial
    rw [List.forall_mem_map]
    intro k hk
    rw [SortKey.pieces, List.forall_mem_append]
    exact ⟨((horder k hk).guarded hd).plain, by simp [Piece.Plain]⟩
  apply Piece.forall_mem_joined (P := Piece.Plain) trivial
  rw [List.forall_mem_append, List.forall_mem_append]
  refine ⟨⟨Piece.forall_mem_clause ?_, Piece.forall_mem_clause ?_⟩, ?_⟩
  · exact List.forall_mem_cons.mpr ⟨trivial, hcolumns⟩
  · exact List.forall_mem_cons.mpr ⟨trivial, hkeys⟩
  · cases w.frame <;> simp [Piece.Plain]

lemma Expr.Fluent.guarded {e : Expr} (h : e.Fluent) : Guarded d e.pieces := by
  induction h with
  | column h => exact h.guarded hd
  | value v => exact .value v
  | star => exact .star
  | function hname hor _ ih =>
    exact .call hd (.function hname hor) (phrase_piecesList _) (plain_arguments fun e he => (ih e he).plain)
  | @window function args w _ hpartition horder ih =>
    have hname : Guarded d [.word function.sql] := .word hd (by cases function <;> decide)
    have hover : Guarded d (.word " OVER " :: Piece.group w.pieces) :=
      .lead hd (by decide) (.parens hd w.phrase_pieces (w.plain_pieces hd hpartition horder))
    exact .group hd hname (phrase_piecesList args) (plain_arguments fun e he => (ih e he).plain) hover
  | @combine op left right _ _ ihl ihr =>
    cases op with
    | or =>
      -- the whole disjunction stands in parentheses, so of its sides only the pieces matter
      have hplain : ∀ p ∈ (binary .or left right).pieces, p.Plain := by
        simp only [Expr.pieces, List.forall_mem_append, List.forall_mem_cons]
        exact ⟨ihl.plain, trivial, trivial, trivial, ihr.plain⟩
      exact .parens hd (binary .or left right).phrase_pieces hplain
    | _ => exact .between hd [" ", Operator.sql _, " "] (by decide) ihl ihr
  | not _ ih => exact .lead hd (by decide) ih
  | isNull negated _ ih => exact .trail hd (by cases negated <;> decide) ih
  | @among e values negated _ ih =>
    cases values with
    | nil => exact .word hd (by cases negated <;> decide)
    | cons v vs =>
      have hplain : ∀ p ∈ Piece.joined ", " (piecesList ((v :: vs).map Expr.value)), p.Plain :=
        plain_arguments (List.forall_mem_map.mpr fun v _ => by simp [Expr.pieces, Piece.Plain])
      exact .between hd [if negated then " NOT IN " else " IN "] (by cases negated <;> decide) ih
        (.parens hd (phrase_piecesList ((v :: vs).map Expr.value)) hplain)

lemma guarded_conjunction {es : List Expr} (h : ∀ e ∈ es, e.Fluent) :
    Guarded d (Piece.joined " AND " (es.map Expr.pieces)) :=
  .joined hd (by decide) (List.forall_mem_map.mpr fun e he => (h e he).guarded hd)

end Guarded

lemma Piece.sql_joined (d : Dialect) (separator : String) (items : List (List Piece)) :
    (fragments d (joined separator items)).sql = separator.intercalate (items.map fun ps => (fragments d ps).sql) := by
  induction items with
  | nil => rfl
  | cons ps items ih =>
    cases items with
    | nil => simp [joined]
    | cons qs items =>
      rw [joined_cons_cons, fragments_join, Fragment.sql_append, Fragment.sql_append, ih]
      simp [Fragment.ofText, String.append_assoc]

lemma Expr.eq_of_compile {d : Dialect} {es : List Expr} {conditions : List Fragment}
    (h : List.Forall₂ (fun e g => e.compile d = .ok g) es conditions) :
    es.map (fun e => Piece.fragments d e.pieces) = conditions := by
  have heq : List.Forall₂ Eq (es.map fun e => Piece.fragments d e.pieces) conditions :=
    List.forall₂_map_left_iff.mpr <| h.imp fun e g hg => (((Emitter.parametric_writes d).expr e).run.value g hg).symm
  exact List.forall₂_eq_eq_eq ▸ heq

lemma sql_conjunction (d : Dialect) (es : List Expr) :
    Fragment.conjunction (es.map fun e => Piece.fragments d e.pieces) =
      (Piece.fragments d (Piece.joined " AND " (es.map Expr.pieces))).sql := by
  rw [Piece.sql_joined, Fragment.conjunction, List.map_map, List.map_map]
  rfl

lemma Fragment.conjunction_append {front back : List Fragment} (hfront : front ≠ []) (hback : back ≠ []) :
    conjunction (front ++ back) = conjunction front ++ " AND " ++ conjunction back := by
  rw [conjunction, List.map_append, String.intercalate_append_of_ne_nil (by simpa using hfront) (by simpa using hback)]
  rfl

lemma Select.compile_body {d : Dialect} {s : Select} {f : Fragment} (h : s.compile d = .ok f) :
    ∃ g, s.body.compile d = .ok g := by
  obtain ⟨body, clause⟩ := s
  cases clause with
  | none => exact ⟨f, h⟩
  | some w =>
    obtain ⟨g, hg, -⟩ := bind_eq_ok.mp h
    exact ⟨g, hg⟩

/-- Every `OR` of the condition stands in parentheses, and every `AND` between two filters outside of them. -/
theorem Select.filters_sheltered {d : Dialect} (hd : d.quote ∈ ['"', '\'', '\x60']) {s : Select} {f : Fragment}
    (h : s.compile d = .ok f) (hfluent : ∀ e ∈ s.body.filters, e.Fluent) :
    ∃ items conditions, s.body.compile d = .ok (s.body.written d items conditions) ∧
      List.Forall₂ (fun e g => e.compile d = .ok g) s.body.filters conditions ∧
      (∀ x ∈ Mode.code.words [] (Fragment.conjunction conditions).toList, isOr x.2 = true → 1 ≤ x.1) ∧
      Mode.code.Uncommented (Fragment.conjunction conditions).toList ∧
      ∀ front back, conditions = front ++ back → front ≠ [] → back ≠ [] →
        Fragment.conjunction conditions =
            Fragment.conjunction front ++ " AND " ++ Fragment.conjunction back ∧
          (Mode.code.after (Fragment.conjunction front).toList).isCode = true ∧
          Mode.code.depth (Fragment.conjunction front).toList = 0 := by
  have hq := Identifier.isQuote_of_mem hd
  have hd' : d.quote ∈ ['"', '\'', '\x60', '['] := List.mem_append_left ['['] hd
  obtain ⟨g, hg⟩ := compile_body h
  obtain ⟨-, -, -, items, conditions, -, hconditions, rfl⟩ := (s.body.compile_eq_ok hd' g).mp hg
  have heq := Expr.eq_of_compile hconditions
  have hguarded := guarded_conjunction hq hfluent
  refine ⟨items, conditions, hg, hconditions, ?_, ?_, ?_⟩
  · rw [← heq, sql_conjunction]
    exact hguarded.sheltered
  · rw [← heq, sql_conjunction]
    exact hguarded.phrase.uncommented hq hguarded.plain
  · rintro front back rfl hfront hback
    -- the filters in front of the `AND` form a condition of their own
    obtain ⟨es, es', hes, rfl, -⟩ := List.map_eq_append_iff.mp heq
    have hbefore : Guarded d (Piece.joined " AND " (es.map Expr.pieces)) :=
      guarded_conjunction hq fun e he => hfluent e (by simp [hes, he])
    refine ⟨Fragment.conjunction_append hfront hback, ?_, ?_⟩
    · rw [sql_conjunction]
      exact (hbefore.selfContained hq).1
    · rw [sql_conjunction]
      exact (hbefore.balanced hq).2

theorem Select.filters_sheltered_keyword_in_names :
    let s : Select := ⟨{ SelectBody.empty with filters :=
      [((Expr.column (.bare "a OR (b")).step (.combine .eq (.value (.int 1)))).step
          (.combine .or ((Expr.column (.qualified "t" "or")).step (.isNull false))),
        (Expr.function "f" [.column (.bare "c")]).step (.among [.int 2, .int 3] true),
        (Expr.window ⟨.rowNumber, [], ⟨[.bare "g"], [⟨.bare "k", .asc⟩], none⟩⟩).step
          (.combine .ltEq (.value (.int 4)))] }, none⟩
    let front : Fragment := ⟨"(\"a OR (b\" = ? OR t.\"or\" IS NULL)", [.int 1]⟩
    let back : List Fragment :=
      [⟨"f(c) NOT IN (?, ?)", [.int 2, .int 3]⟩,
        ⟨"ROW_NUMBER() OVER (PARTITION BY g ORDER BY k ASC) <= ?", [.int 4]⟩]
    s.compile .generic = .ok (s.body.written .generic [] (front :: back)) ∧
      (∀ x ∈ Mode.code.words [] (Fragment.conjunction (front :: back)).toList, isOr x.2 = true → 1 ≤ x.1) ∧
      Mode.code.depth front.sql.toList = 0 := by
  intro s front back
  have hd : Dialect.generic.quote ∈ ['"', '\'', '\x60', '['] := by decide
  have hfilters : List.Forall₂ (fun e g => Expr.compile .generic e = .ok g) s.body.filters (front :: back) :=
    .cons rfl (.cons rfl (.cons rfl .nil))
  have hbody : s.body.compile .generic = .ok (s.body.written .generic [] (front :: back)) :=
    (s.body.compile_eq_ok hd _).mpr ⟨by simp [s, SelectBody.empty], by simp [s, SelectBody.empty],
      by simp [s, SelectBody.empty], [], _, .nil, hfilters, rfl⟩
  have hcolumn : ∀ {c : Column}, c.Unescaped → ∀ e ∈ [Expr.column c], e.Fluent := fun h =>
    List.forall_mem_singleton.mpr (.column h)
  have hcall : ∀ c ∈ "f".toList, isWordChar c = true := by
    have hletter : isWordChar 'f' = true := by decide
    simpa using hletter
  have hpartition : ∀ c ∈ [Column.bare "g"], c.Unescaped := by decide
  have horder : ∀ k ∈ [SortKey.mk (.bare "k") .asc], k.column.Unescaped := by decide
  have hfluent : ∀ e ∈ s.body.filters, e.Fluent := by
    rw [List.forall_mem_cons, List.forall_mem_cons, List.forall_mem_singleton]
    refine ⟨.combine .or ?_ ?_, .among _ true ?_, .combine .ltEq ?_ (.value _)⟩
    · exact .combine .eq (.column (by decide)) (.value _)
    · exact .isNull false (.column (by decide))
    · exact .function hcall (by decide) (hcolumn (by decide))
    · exact .window (by simp) hpartition horder
  obtain ⟨_, conditions, -, hconditions, hor, -, hand⟩ :=
    filters_sheltered (d := .generic) (s := s) (by decide) hbody hfluent
  obtain rfl : conditions = front :: back :=
    (Expr.eq_of_compile hconditions).symm.trans (Expr.eq_of_compile hfilters)
  refine ⟨hbody, hor, ?_⟩
  have hdepth := (hand [front] back rfl (by simp) (by simp [back])).2.2
  simpa [Fragment.conjunction] using hdepth

end SqlBuilder
