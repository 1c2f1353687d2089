import SqlBuilder.Proofs.Condition
import SqlBuilder.Proofs.Pieces.Compiled

namespace SqlBuilder

open Emitter

section Names

open Identifier

lemma Dialect.spelling_bare (d : Dialect) : ∃ before after : List Char,
    (∀ c ∈ before ++ after, c ∈ ['"', '\'', '\x60', '[', ']']) ∧
      ∀ name, isBare name = true → (d.spelling name).toList = before ++ name.toList ++ after := by
  by_cases hw : d.quoting = .whenNeeded
  · refine ⟨[], [], by simp, fun name hn => ?_⟩
    rw [spelling, identifier, if_pos ⟨hw, hn⟩]
    simp
  · have hquote : ∀ name, d.identifier name = Identifier.quote d.quote name := fun name => if_neg fun h => hw h.1
    by_cases hq : Mode.isQuote d.quote = true
    · have hmem : d.quote ∈ ['"', '\'', '\x60', '[', ']'] := by
        have h : d.quote = '\'' ∨ d.quote = '"' ∨ d.quote = '\x60' := by simpa [Mode.isQuote, or_assoc] using hq
        rcases h with h | h | h <;> simp [h]
      refine ⟨[d.quote], [d.quote], by simpa using hmem, fun name hn => ?_⟩
      rw [spelling, hquote, quote_of_isQuote hq]
      simp [enclose, body_eq_self (quote_not_mem_of_isBare hq hn)]
    · by_cases hb : d.quote = '['
      · refine ⟨['['], [']'], by simp, fun name _ => ?_⟩
        rw [spelling, hquote, hb]
        simp [Identifier.quote]
      · refine ⟨[], [], by simp, fun name _ => ?_⟩
        have herror : Identifier.quote d.quote name = .error (.unsupportedQuote d.quote) := by
          unfold Identifier.quote
          split <;> simp_all [Mode.isQuote]
        rw [spelling, hquote, herror]
        simp

end Names

lemma Operator.sql_injective {op op' : Operator} (h : op.sql = op'.sql) : op = op' := by
  cases op <;> cases op' <;> first | rfl | exact absurd h (by decide)

lemma append_cons_inj_of_not_mem {α : Type} {a : α} {xs ys s t : List α} (hx : a ∉ xs) (hy : a ∉ ys)
    (h : xs ++ a :: s = ys ++ a :: t) : xs = ys ∧ s = t := by
  induction xs generalizing ys with
  | nil =>
    cases ys with
    | nil => exact ⟨rfl, (List.cons.inj h).2⟩
    | cons y ys => exact absurd (List.cons.inj h).1 fun ha => hy (by simp [ha])
  | cons x xs ih =>
    cases ys with
    | nil => exact absurd (List.cons.inj h).1 fun ha => hx (by simp [ha])
    | cons y ys =>
      obtain ⟨rfl, hrest⟩ := List.cons.inj h
      obtain ⟨rfl, rfl⟩ := ih (fun hm => hx (by simp [hm])) (fun hm => hy (by simp [hm])) hrest
      exact ⟨rfl, rfl⟩

lemma Emitter.andThen_assoc (e f g : Emitter) : ((e >=> f) >=> g) = (e >=> f >=> g) := by
  funext out
  exact bind_assoc (e out) f g

namespace Condition

section Emitted

variable (d : Dialect)

lemma emit_and (left right : Condition) : (and left right).expr.emit d =
    (left.expr.emit d >=> text " " >=> text "AND" >=> text " " >=> right.expr.emit d) := rfl

lemma emit_conjoin (c c' : Condition) : (c.conjoin c').expr.emit d = (and c c').expr.emit d := by
  induction c with
  | and first rest _ ih =>
    rw [conjoin, emit_and, ih, emit_and, emit_and d (and first rest), emit_and]
    simp only [andThen_assoc]
  | _ => rfl

lemma emit_negateFirst (c : Condition) : c.negateFirst.expr.emit d = (not c).expr.emit d := by
  cases c with
  | and first rest => exact andThen_assoc _ _ _
  | _ => rfl

lemma emit_asRead (c : Condition) : c.asRead.expr.emit d = c.expr.emit d := by
  induction c with
  | comparison c => rfl
  | and left right ihl ihr =>
    rw [asRead, emit_conjoin, emit_and, ihl, ihr, emit_and]
  | or left right ihl ihr =>
    have hor : ∀ l r : Condition, (or l r).expr.emit d = (text "(" >=>
        (l.expr.emit d >=> text " " >=> text "OR" >=> text " " >=> r.expr.emit d) >=> text ")") := fun _ _ => rfl
    rw [asRead, hor, ihl, ihr, hor]
  | not operand ih =>
    have hnot : ∀ c : Condition, (not c).expr.emit d = (text "NOT " >=> c.expr.emit d) := fun _ => rfl
    rw [asRead, emit_negateFirst, hnot, ih, hnot]

lemma compile_asRead (c : Condition) : c.asRead.expr.compile d = c.expr.compile d :=
  congrArg Emitter.run (emit_asRead d c)

end Emitted

def written (d : Dialect) (c : Condition) : Fragment :=
  Piece.fragments d c.expr.pieces

lemma eq_written_of_compile {d : Dialect} {c : Condition} {f : Fragment} (h : c.expr.compile d = .ok f) :
    f = written d c :=
  ((parametric_writes d).expr c.expr).run.value f h

section Written

variable (d : Dialect)

lemma written_and (left right : Condition) :
    written d (and left right) = written d left ++ (.ofText " AND " ++ written d right) := by
  have hpieces : (and left right).expr.pieces =
      left.expr.pieces ++ .word " " :: ([.word "AND"] ++ .word " " :: right.expr.pieces) := rfl
  rw [written, hpieces, Piece.fragments_join, Piece.fragments_join, Piece.fragments_singleton]
  rfl

lemma written_not (operand : Condition) : written d (not operand) = .ofText "NOT " ++ written d operand := rfl

lemma written_or (left right : Condition) : written d (or left right) =
    .ofText "(" ++ (written d left ++ (.ofText " OR " ++ (written d right ++ .ofText ")"))) := by
  have hpieces : (or left right).expr.pieces =
      [] ++ Piece.group (left.expr.pieces ++ .word " " :: ([.word "OR"] ++ .word " " :: right.expr.pieces)) ++ [] := by
    rw [List.nil_append, List.append_nil]
    rfl
  rw [written, hpieces, Piece.fragments_group, Piece.fragments_join, Piece.fragments_join, Piece.fragments_singleton]
  ext <;> simp [written, Piece.fragments, Piece.fragment, Piece.text, Piece.values, Fragment.ofText, Fragment.empty,
    String.append_assoc]

lemma written_comparison (c : Comparison) : written d (comparison c) =
    ⟨d.spelling c.column ++ (" " ++ (c.op.sql ++ " ?")), [c.value]⟩ := by
  have hcombine : (comparison c).expr = .binary c.op (.column (.bare c.column)) (.value c.value) := by
    obtain ⟨column, bare, op, compares, value⟩ := c
    cases op <;> first | rfl | exact absurd rfl compares.2
  have hstar : c.column ≠ "*" := by
    intro h
    have hbare := c.bare
    rw [h] at hbare
    exact absurd hbare (by decide)
  rw [written, hcombine]
  ext <;> simp [Expr.pieces, Column.pieces, Column.bare, hstar, Piece.fragments, Piece.fragment, Piece.text,
    Piece.values, Fragment.empty]

end Written

section Unique

variable {d : Dialect}

def opening : Condition → Option Char
  | comparison _ => none
  | and first _ => first.opening
  | or _ _ => some '('
  | not _ => some 'N'

lemma head_comparison (d : Dialect) (c : Comparison) :
    ∃ first rest, (written d (comparison c)).sql.toList = first :: rest ∧ first ∉ ['(', 'N'] := by
  obtain ⟨before, after, hquotes, hspelling⟩ := d.spelling_bare
  rw [written_comparison, String.toList_append, hspelling _ c.bare]
  cases before with
  | cons q before =>
    refine ⟨q, _, rfl, fun hq => ?_⟩
    have hquote := hquotes q (by simp)
    simp only [List.mem_cons, List.not_mem_nil, or_false] at hq hquote
    rcases hq with rfl | rfl <;> simp at hquote
  | nil =>
    have hbare := c.bare
    rw [Identifier.isBare, Bool.and_eq_true] at hbare
    cases hname : c.column.toList with
    | nil =>
      rw [hname] at hbare
      cases hbare.1
    | cons a rest =>
      refine ⟨a, _, rfl, fun ha => ?_⟩
      rw [hname, Identifier.isPlain, Bool.and_eq_true] at hbare
      simp only [List.mem_cons, List.not_mem_nil, or_false] at ha
      rcases ha with rfl | rfl <;> exact absurd hbare.1.1 (by decide)

lemma head_written (d : Dialect) {c : Condition} (hc : c.isConjunction = false) :
    ∃ first rest, (written d c).sql.toList = first :: rest ∧
      c.opening = if first ∈ ['(', 'N'] then some first else none := by
  cases c with
  | comparison c =>
    obtain ⟨first, rest, htext, hfirst⟩ := head_comparison d c
    exact ⟨first, rest, htext, (if_neg hfirst).symm⟩
  | and left right => cases hc
  | or left right => exact ⟨'(', _, by rw [written_or, Fragment.sql_append, String.toList_append]; rfl, rfl⟩
  | not operand => exact ⟨'N', _, by rw [written_not, Fragment.sql_append, String.toList_append]; rfl, rfl⟩

lemma opening_eq_of_append_eq {c c' : Condition} (hc : c.isConjunction = false) (hc' : c'.isConjunction = false)
    {s s' : Fragment} (h : written d c ++ s = written d c' ++ s') : c.opening = c'.opening := by
  obtain ⟨first, rest, htext, hopening⟩ := head_written d hc
  obtain ⟨first', rest', htext', hopening'⟩ := head_written d hc'
  have hsql := congrArg (fun f => f.sql.toList) h
  simp only [Fragment.sql_append, String.toList_append, htext, htext', List.cons_append] at hsql
  rw [hopening, hopening', (List.cons.inj hsql).1]

def Ends (s : Fragment) : Prop :=
  ¬ " AND ".toList <+: s.sql.toList

/-- No other single conjunct is read at the beginning of a text that begins with this one. -/
def Separable (d : Dialect) (c : Condition) : Prop :=
  ∀ (c' : Condition) (s s' : Fragment), c'.Flat → c'.isConjunction = false →
    written d c ++ s = written d c' ++ s' → c = c' ∧ s = s'

def Delimited (d : Dialect) (c : Condition) : Prop :=
  ∀ (c' : Condition) (s s' : Fragment), c'.Flat → Ends s → Ends s' →
    written d c ++ s = written d c' ++ s' → c = c' ∧ s = s'

lemma not_ends_and (s : Fragment) : ¬ Ends (.ofText " AND " ++ s) :=
  not_not_intro ⟨s.sql.toList, String.toList_append.symm⟩

lemma Separable.delimited {c : Condition} (h : Separable d c) : Delimited d c := by
  intro c' s s' hflat hs _ heq
  cases c' with
  | and first rest =>
    simp only [written_and, Fragment.append_assoc] at heq
    obtain ⟨_, rfl⟩ := h first _ _ hflat.2.1 hflat.1 heq
    exact absurd hs (not_ends_and _)
  | _ => exact h _ s s' hflat rfl heq

lemma Separable.and {first rest : Condition} (hf : Separable d first) (hr : Delimited d rest) :
    Delimited d (and first rest) := by
  intro c' s s' hflat' hs hs' heq
  cases c' with
  | and first' rest' =>
    simp only [written_and, Fragment.append_assoc] at heq
    obtain ⟨rfl, htail⟩ := hf first' _ _ hflat'.2.1 hflat'.1 heq
    obtain ⟨rfl, rfl⟩ := hr rest' s s' hflat'.2.2 hs hs' (Fragment.append_cancel htail)
    exact ⟨rfl, rfl⟩
  | _ =>
    simp only [written_and, Fragment.append_assoc] at heq
    obtain ⟨_, rfl⟩ := hf _ _ s' hflat' rfl heq
    exact absurd hs' (not_ends_and _)

lemma Separable.not {operand : Condition} (h : Separable d operand) : Separable d (not operand) := by
  intro c' s s' hflat hc' heq
  have hopening := opening_eq_of_append_eq rfl hc' heq
  cases c' with
  | not operand' =>
    rw [written_not, written_not, Fragment.append_assoc, Fragment.append_assoc] at heq
    obtain ⟨rfl, rfl⟩ := h operand' s s' hflat.2 hflat.1 (Fragment.append_cancel heq)
    exact ⟨rfl, rfl⟩
  | and left right => cases hc'
  | _ => cases hopening

lemma Delimited.or {left right : Condition} (hl : Delimited d left) (hr : Delimited d right) :
    Separable d (or left right) := by
  intro c' s s' hflat hc' heq
  have hopening := opening_eq_of_append_eq rfl hc' heq
  cases c' with
  | or left' right' =>
    have hends : ∀ f : Fragment, Ends (.ofText " OR " ++ f) ∧ Ends (.ofText ")" ++ f) := by
      intro f
      constructor <;> simp [Ends, Fragment.ofText]
    rw [written_or, written_or] at heq
    simp only [Fragment.append_assoc] at heq
    obtain ⟨rfl, htail⟩ := hl left' _ _ hflat.1 (hends _).1 (hends _).1 (Fragment.append_cancel heq)
    have hright := Fragment.append_cancel htail
    obtain ⟨rfl, hclose⟩ := hr right' _ _ hflat.2 (hends _).2 (hends _).2 hright
    exact ⟨rfl, Fragment.append_cancel hclose⟩
  | and left' right' => cases hc'
  | _ => cases hopening

lemma separable_comparison (d : Dialect) (c : Comparison) : Separable d (comparison c) := by
  intro c' s s' _ hc' heq
  have hopening := opening_eq_of_append_eq rfl hc' heq
  cases c' with
  | comparison c' =>
    obtain ⟨before, after, hquotes, hspelling⟩ := d.spelling_bare
    have hspace : ∀ c : Comparison, ' ' ∉ before ++ c.column.toList ++ after := by
      intro c hmem
      rw [List.append_assoc, List.mem_append, List.mem_append, or_left_comm, ← List.mem_append] at hmem
      rcases hmem with hmem | hmem
      · exact Identifier.not_mem_of_isBare c.bare (by decide) hmem
      · exact absurd (hquotes ' ' hmem) (by decide)
    have hop : ∀ op : Operator, ' ' ∉ op.sql.toList := by
      intro op
      cases op <;> decide
    have htext : ∀ (c : Comparison) (s : Fragment), (written d (comparison c) ++ s).sql.toList =
        (before ++ c.column.toList ++ after) ++ ' ' :: (c.op.sql.toList ++ ' ' :: '?' :: s.sql.toList) := by
      intro c s
      simp [written_comparison, hspelling _ c.bare]
    have hsql := congrArg (fun f : Fragment => f.sql.toList) heq
    have hparams := congrArg Fragment.params heq
    simp only [htext] at hsql
    obtain ⟨hname, hrest⟩ := append_cons_inj_of_not_mem (hspace c) (hspace c') hsql
    obtain ⟨hoperator, hrest⟩ := append_cons_inj_of_not_mem (hop c.op) (hop c'.op) hrest
    rw [List.append_cancel_right_eq, List.append_cancel_left_eq, String.toList_inj] at hname
    rw [written_comparison, written_comparison] at hparams
    obtain ⟨hvalue, hparams⟩ := List.cons.inj hparams
    refine ⟨?_, Fragment.eq_of_sql_params (String.toList_inj.mp (List.cons.inj hrest).2) hparams⟩
    exact congrArg comparison (Comparison.eq_of hname (Operator.sql_injective (String.toList_inj.mp hoperator)) hvalue)
  | and left right => cases hc'
  | _ => cases hopening

lemma separable_of_flat (d : Dialect) {c : Condition} (h : c.Flat) :
    (c.isConjunction = false → Separable d c) ∧ Delimited d c := by
  induction c with
  | comparison c => exact ⟨fun _ => separable_comparison d c, (separable_comparison d c).delimited⟩
  | and first rest ihf ihr =>
    refine ⟨fun hc => (Bool.true_eq_false.mp hc).elim, ?_⟩
    exact ((ihf h.2.1).1 h.1).and (ihr h.2.2).2
  | or left right ihl ihr =>
    have hor : Separable d (or left right) := (ihl h.1).2.or (ihr h.2).2
    exact ⟨fun _ => hor, hor.delimited⟩
  | not operand ih =>
    have hnot : Separable d (not operand) := ((ih h.2).1 h.1).not
    exact ⟨fun _ => hnot, hnot.delimited⟩

lemma asRead_eq_of_compile_eq {c c' : Condition} {f : Fragment} (h : c.expr.compile d = .ok f)
    (h' : c'.expr.compile d = .ok f) : c.asRead = c'.asRead := by
  have hwritten : f = written d c.asRead := eq_written_of_compile ((compile_asRead d c).trans h)
  have hwritten' : f = written d c'.asRead := eq_written_of_compile ((compile_asRead d c').trans h')
  have hends : Ends .empty := by simp [Ends, Fragment.empty]
  have hsame : written d c.asRead ++ .empty = written d c'.asRead ++ .empty := by rw [← hwritten, ← hwritten']
  exact ((separable_of_flat d c.flat_asRead).2 _ _ _ c'.flat_asRead hends hends hsame).1

end Unique

/-- A text is read in one way only; it keeps the meaning of every condition without a negated conjunction. -/
theorem equivalent_of_compile_eq_iff {d : Dialect} {c : Condition} {f : Fragment} (h : c.expr.compile d = .ok f) :
    (∀ c' : Condition, c'.expr.compile d = .ok f → c'.asRead = c.asRead) ∧
      ((∀ c' : Condition, c'.Legible → c'.expr.compile d = .ok f → c.Equivalent c') ↔ c.Equivalent c.asRead) ∧
      (c.Legible → ∀ c' : Condition, c'.Legible → c'.expr.compile d = .ok f → c.Equivalent c') := by
  have hread : ∀ c' : Condition, c'.expr.compile d = .ok f → c'.asRead = c.asRead := fun c' h' =>
    asRead_eq_of_compile_eq h' h
  have hsame : c.Equivalent c.asRead →
      ∀ c' : Condition, c'.Legible → c'.expr.compile d = .ok f → c.Equivalent c' := by
    intro heq c' hc' h' σ
    rw [heq σ, ← hread c' h', ← hc'.equivalent_asRead σ]
  refine ⟨hread, ⟨fun hall => ?_, hsame⟩, fun hc => hsame hc.equivalent_asRead⟩
  exact hall c.asRead c.flat_asRead.legible ((compile_asRead d c).trans h)

theorem equivalent_of_compile_eq_iff_double_negation :
    let x : Condition := .comparison ⟨"x", by decide, .eq, by decide, .int 1⟩
    let y : Condition := .comparison ⟨"y", by decide, .like, by decide, .text "?"⟩
    let c : Condition := and (and (not (not x)) (or x y)) (not y)
    let c' : Condition := and (not (not x)) (and (or x y) (not y))
    c.Legible ∧ c'.Legible ∧ c.expr.compile .postgres = c'.expr.compile .postgres ∧ c.Equivalent c' := by
  intro x y c c'
  have hc : c.Legible := ⟨⟨⟨rfl, rfl, trivial⟩, trivial, trivial⟩, rfl, trivial⟩
  have hc' : c'.Legible := ⟨⟨rfl, rfl, trivial⟩, ⟨trivial, trivial⟩, rfl, trivial⟩
  have h : c.expr.compile .postgres = .ok ⟨"NOT NOT x = ? AND (x = ? OR y LIKE ?) AND NOT y LIKE ?",
    [.int 1, .int 1, .text "?", .text "?"]⟩ := rfl
  have h' : c'.expr.compile .postgres = .ok ⟨"NOT NOT x = ? AND (x = ? OR y LIKE ?) AND NOT y LIKE ?",
    [.int 1, .int 1, .text "?", .text "?"]⟩ := rfl
  exact ⟨hc, hc', h.trans h'.symm, (equivalent_of_compile_eq_iff h).2.2 hc c' hc' h'⟩

/-- Nothing in the text tells a negated conjunction from a conjunction with a negation in front. -/
theorem not_equivalent_negated_conjunction :
    ∃ (c c' : Condition) (f : Fragment), c.expr.compile .generic = .ok f ∧ c'.expr.compile .generic = .ok f ∧
      ¬ c.Equivalent c' := by
  let a : Condition := .comparison ⟨"a", by decide, .eq, by decide, .int 1⟩
  let b : Condition := .comparison ⟨"b", by decide, .eq, by decide, .int 2⟩
  refine ⟨not (and a b), and (not a) b, ⟨"NOT a = ? AND b = ?", [.int 1, .int 2]⟩, rfl, rfl, fun h => ?_⟩
  cases h fun _ => false

end Condition

end SqlBuilder
