import SqlBuilder.Proofs.Pieces.Spaced
import SqlBuilder.Proofs.With.Site
import SqlBuilder.Query.Step

/-!
The keyword `WITH` at depth zero of a composed query. It stands there once for each clause that is not inside a declared
query, so a clause stands alone exactly when its base carries none.
-/

namespace SqlBuilder

/-- The clauses of a query, those inside its declared queries apart. -/
def Query.clauses : Query → List With
  | .select ⟨_, some w⟩ => [w]
  | .select ⟨_, none⟩ => []
  | .raw _ => []
  | .fragment _ => []
  | .composed w base => w :: base.clauses
termination_by structural q => q

/-- The clause opens the statement, and neither its keyword nor a declaration stands at depth zero without it. -/
structure With.Sole (casing : Casing) (d : Dialect) (w : With) (base : Query) (f : Fragment) : Prop where
  starts : "WITH ".toList <+: f.sql.toList
  once : f.withs casing = 1
  declares : ∀ before cte after, (w.attach base).Site before cte after →
    Mode.code.depth (Piece.fragments d before).sql.toList = 0 →
      ∃ front back, w.ctes = front ++ cte :: back ∧ before = opening front cte

lemma Cte.spaced_pieces (cte : Cte) : Spaced cte.pieces := by
  obtain ⟨name, columns, query⟩ := cte
  exact .declaration name columns query.phrase_pieces

variable {d : Dialect} {casing : Casing}

section Count

variable (hd : Mode.isQuote d.quote = true)

include hd

lemma With.withs_pieces {w : With} {rest : List Piece}
    (hp : ∀ p ∈ w.pieces, p.Tidy ∧ p.Balanced ∧ p.WithFree casing) :
    (Piece.fragments d (w.pieces ++ .word " " :: rest)).withs casing = (Piece.fragments d rest).withs casing + 1 := by
  obtain ⟨ctes⟩ := w
  let list : List Piece := Piece.joined ", " (ctePieces ctes)
  -- what the bodies hold does not matter, since each stands in parentheses
  have hlist : Spaced list := by
    apply Spaced.joined (by decide)
    rw [ctePieces_eq_map]
    exact List.forall_mem_map.mpr fun cte _ => cte.spaced_pieces
  have hpl : ∀ p ∈ list, p.Tidy ∧ p.Balanced ∧ p.WithFree casing := fun p h => hp p (List.mem_cons_of_mem _ h)
  have hself := hlist.phrase.selfContained hd fun p h => (hpl p h).1
  have hbalanced := hlist.phrase.balanced hd fun p h => (hpl p h).imp_right And.left
  have hspace : (Fragment.ofText " ").withs casing = 0 := by
    cases casing <;> decide
  have hkeyword : (Fragment.ofText "WITH ").withs casing = 1 := by
    cases casing <;> decide
  have hafter : (Piece.fragments d (list ++ .word " " :: rest)).withs casing =
      (Piece.fragments d rest).withs casing := by
    rw [Piece.fragments_join, Fragment.withs_join rfl hbalanced hself (apart_of_opensApart _ (by decide))
      (apart_of_closesApart (by decide) _), (hlist.quiet hd hpl).withs, hspace, Nat.zero_add, Nat.zero_add]
  have hempty : Fragment.Balanced .empty := Mode.code.balanced_nil
  have hnone : Fragment.withs casing .empty = 0 := rfl
  have hpieces : With.pieces ⟨ctes⟩ ++ .word " " :: rest = [] ++ .word "WITH " :: (list ++ .word " " :: rest) := rfl
  rw [hpieces, Piece.fragments_join, Piece.fragments, Fragment.withs_join rfl hempty Fragment.selfContained_empty
    (by simp [Apart, Fragment.empty]) (apart_of_closesApart (by decide) _), hnone, hkeyword, hafter]
  omega

lemma Query.withs_pieces : ∀ q : Query, (∀ p ∈ q.pieces, p.Tidy ∧ p.Balanced ∧ p.WithFree casing) →
    (Piece.fragments d q.pieces).withs casing = q.clauses.length
  | .select ⟨body, none⟩, hp => (body.spaced_pieces.quiet hd hp).withs
  | .select ⟨body, some w⟩, hp => by
    have hbody : ∀ p ∈ body.pieces, p.Tidy ∧ p.Balanced ∧ p.WithFree casing := fun p h =>
      hp p (w.subset_pieces_append _ h)
    refine (w.withs_pieces hd fun p h => hp p (List.mem_append_left _ h)).trans ?_
    rw [(body.spaced_pieces.quiet hd hbody).withs]
    rfl
  | .raw f, hp => ((Spaced.raw f).quiet hd hp).withs
  | .fragment f, hp => ((Spaced.raw f).quiet hd hp).withs
  | .composed w base, hp => by
    refine (w.withs_pieces hd fun p h => hp p (List.mem_append_left _ h)).trans ?_
    rw [base.withs_pieces fun p h => hp p (w.subset_pieces_append _ h)]
    rfl
termination_by structural q => q

end Count

namespace Query.Site

variable {q : Query} {cte : Cte} {before after : List Piece}

lemma clauses_ne_nil (h : q.Site before cte after) : q.clauses ≠ [] := by
  induction h with
  | own hq _ =>
    rcases eq_of_carried hq with ⟨body, rfl, _⟩ | ⟨base, rfl, _⟩
    · simp [clauses]
    · simp [clauses]
  | inside _ _ ih _ => exact ih
  | base _ _ => simp [clauses]

variable (hd : Mode.isQuote d.quote = true)

include hd

lemma depth_nonneg (h : q.Site before cte after) (hq : ∀ p ∈ q.pieces, p.Tidy ∧ p.Balanced) :
    0 ≤ Mode.code.depth (Piece.fragments d before).sql.toList := by
  have hbalanced : (Piece.fragments d q.pieces).Balanced := q.phrase_pieces.balanced hd hq
  rw [h.fragments_eq d, Fragment.Balanced, Fragment.sql_append, String.toList_append] at hbalanced
  exact hbalanced.depth_nonneg

lemma depth_inside {outer : Cte} {before' after' : List Piece} (h : q.Site before outer after)
    (h' : outer.query.Site before' cte after') (hq : ∀ p ∈ q.pieces, p.Tidy ∧ p.Balanced) :
    0 < Mode.code.depth (Piece.fragments d (before ++ .word " AS " :: .word "(" :: before')).sql.toList := by
  have houter := h.depth_nonneg hd hq
  have hinner := h'.depth_nonneg hd fun p hp => hq p (h.body_subset hp)
  have hclosed := h.closed_before hd fun p hp => (hq p hp).1
  have hcode := (Mode.separates_word (s := " AS ") rfl _ hclosed).1
  have hlevel := (Mode.balanced_word (Mode.code.after (Piece.fragments d before).sql.toList) (s := " AS ") rfl).2
  have hopen : Mode.code.depth (Piece.fragments d (.word "(" :: before')).sql.toList =
      1 + Mode.code.depth (Piece.fragments d before').sql.toList := by
    have hparen : Mode.code.next '(' = .code ∧ Mode.code.shift '(' = 1 := Mode.reads_open rfl
    simp [Piece.fragments, Piece.fragment, Piece.text, Mode.depth, hparen]
  rw [Piece.fragments_join, Fragment.sql_append, Fragment.sql_append, String.toList_append, String.toList_append,
    Mode.depth_append, Mode.depth_append, Fragment.ofText, hcode, hlevel, hopen]
  omega

end Query.Site

theorem With.sole_iff (hd : d.quote ∈ ['"', '\'', '\x60']) {w : With} {base : Query}
    (hp : ∀ p ∈ (w.attach base).pieces, p.Tidy ∧ p.Balanced ∧ p.WithFree casing) {f : Fragment}
    (h : (w.attach base).compile d = .ok f) :
    f.withs casing = base.clauses.length + 1 ∧ (w.Sole casing d base f ↔ base.clauses = []) := by
  have hquote : Mode.isQuote d.quote = true := Identifier.isQuote_of_mem hd
  have hf : f = Piece.fragments d (w.attach base).pieces := (w.attach base).yields_compile.value f h
  have hcount : f.withs casing = base.clauses.length + 1 := by
    rw [hf, Query.withs_pieces hquote _ hp]
    rfl
  refine ⟨hcount, fun hsole => ?_, fun hnone => ⟨?_, ?_, fun before cte after hsite hzero => ?_⟩⟩
  · have honce := hsole.once
    rw [hcount] at honce
    exact List.length_eq_zero_iff.mp (by omega)
  · obtain ⟨ctes⟩ := w
    rw [hf]
    exact ⟨_, (String.toList_append (s := "WITH ")).symm⟩
  · rw [hcount, hnone]
    rfl
  · cases hsite with
    | own hq hw =>
      obtain ⟨rfl, rfl⟩ := Prod.mk.inj (Option.some.inj hq)
      exact ⟨_, _, hw, rfl⟩
    | inside houter hinner =>
      have hpositive := houter.depth_inside hquote hinner fun p h => (hp p h).imp_right And.left
      omega
    | base hbase => exact absurd hnone hbase.clauses_ne_nil

theorem With.sole_iff_keyword_in_quotes :
    let reading (name : String) : SelectBody := { SelectBody.empty with source := some (.cte name) }
    let inner : Cte := ⟨"b", [], .raw ⟨"SELECT 'WITH'", []⟩⟩
    let w : With := ⟨[⟨"with", [], .select ⟨reading "b", some ⟨[inner]⟩⟩⟩]⟩
    let base : Query := .select ⟨reading "with", none⟩
    let f : Fragment := ⟨"WITH \"with\" AS (WITH b AS (SELECT 'WITH') SELECT * FROM b) SELECT * FROM \"with\"", []⟩
    (∀ p ∈ (w.attach base).pieces, p.Tidy ∧ p.Balanced ∧ p.WithFree .any) ∧ (w.attach base).compile .generic = .ok f ∧
      w.Sole .any .generic base f := by
  intro reading inner w base f
  have hp : ∀ p ∈ (w.attach base).pieces, p.Tidy ∧ p.Balanced ∧ p.WithFree .any := by decide
  have hf : (w.attach base).compile .generic = .ok f := by
    simp only [w, base, f, reading, inner]
    rfl
  exact ⟨hp, hf, (sole_iff (by decide) hp hf).2.mpr rfl⟩

/-- The base reads from a declared name and brings the clause of that name along. -/
theorem With.not_sole_second_clause :
    ∃ (w w' : With) (f : Fragment),
      (∀ casing, ∀ p ∈ (w.attach (.select (w'.selectFrom "b"))).pieces, p.Tidy ∧ p.Balanced ∧ p.WithFree casing) ∧
        (w.attach (.select (w'.selectFrom "b"))).compile .generic = .ok f ∧
        ∀ casing, ¬ w.Sole casing .generic (.select (w'.selectFrom "b")) f := by
  let w : With := ⟨[⟨"a", [], .select (.ofTable "t")⟩]⟩
  let w' : With := ⟨[⟨"b", [], .select (.ofTable "u")⟩]⟩
  let f : Fragment := ⟨"WITH a AS (SELECT * FROM t) WITH b AS (SELECT * FROM u) SELECT * FROM b", []⟩
  refine ⟨w, w', f, ?_, ?_, fun casing hsole => ?_⟩
  · intro casing
    cases casing <;> decide
  · simp only [w, w', f]
    rfl
  · have htwice : f.withs casing = 2 := by
      cases casing <;> decide
    exact absurd (htwice.symm.trans hsole.once) (by decide)

end SqlBuilder
