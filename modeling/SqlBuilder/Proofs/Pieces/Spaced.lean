import SqlBuilder.Proofs.Lexical.Keyword

namespace SqlBuilder

def isWording (ss : List String) : Bool :=
  !ss.isEmpty && ss.all isSeparator && lacksLetter (String.join ss)

inductive Spaced : List Piece → Prop
  | nil : Spaced []
  | star : Spaced [.word "*"]
  | function (name : String) : Spaced [.function name]
  | identifier (name : String) : Spaced [.identifier name]
  | value (v : Value) : Spaced [.value v]
  | raw (f : Fragment) : Spaced [.raw f]
  | join {ps qs : List Piece} {ss : List String} : isWording ss = true →
      (ps = [] ∨ opensApart (String.join ss) = true) → (qs = [] ∨ closesApart (String.join ss) = true) →
      Spaced ps → Spaced qs → Spaced (ps ++ (ss.map .word ++ qs))
  | group {ps inner qs : List Piece} : Spaced ps → Phrase inner → Spaced qs →
      Spaced (ps ++ Piece.group inner ++ qs)

def isSpacer (ss : List String) : Bool :=
  isWording ss && opensApart (String.join ss) && closesApart (String.join ss)

lemma isWording_iff {ss : List String} :
    isWording ss = true ↔ ss ≠ [] ∧ (∀ s ∈ ss, isSeparator s = true) ∧ lacksLetter (String.join ss) = true := by
  simp [isWording, and_assoc]

lemma isSeparator_join {ss : List String} (hne : ss ≠ []) (h : ∀ s ∈ ss, isSeparator s = true) :
    isSeparator (String.join ss) = true := by
  obtain ⟨s, ss, rfl⟩ := List.exists_cons_of_ne_nil hne
  rw [isSeparator_iff]
  constructor
  · have hs := (isSeparator_iff.mp (h s (List.mem_cons_self ..))).1
    simp [String.join_cons, hs]
  · intro c hc
    obtain ⟨s', hs', hc⟩ : ∃ s' ∈ s :: ss, c ∈ s'.toList := by simpa using hc
    exact (isSeparator_iff.mp (h s' hs')).2 c hc

lemma Phrase.between {ss : List String} (hne : ss ≠ []) (h : ∀ s ∈ ss, isSeparator s = true) {ps qs : List Piece}
    (hps : Phrase ps) (hqs : Phrase qs) : Phrase (ps ++ (ss.map .word ++ qs)) := by
  induction ss generalizing ps with
  | nil => exact absurd rfl hne
  | cons s ss ih =>
    rw [List.forall_mem_cons] at h
    cases ss with
    | nil => exact .join h.1 hps hqs
    | cons s' ss => exact .join h.1 hps (ih (by simp) h.2 .nil)

namespace Spaced

lemma phrase {ps : List Piece} (h : Spaced ps) : Phrase ps := by
  induction h with
  | nil => exact .nil
  | star => exact .star
  | function name => exact .function name
  | identifier name => exact .identifier name
  | value v => exact .value v
  | raw f => exact .raw f
  | join hss _ _ _ _ ihp ihq =>
    obtain ⟨hne, hseparators, _⟩ := isWording_iff.mp hss
    exact .between hne hseparators ihp ihq
  | group _ hinner _ ihp ihq => exact .group ihp hinner ihq

variable {ps qs : List Piece}

lemma word {s : String} (hs : isWording [s] = true) : Spaced [.word s] :=
  join hs (.inl rfl) (.inl rfl) nil nil

lemma lead {s : String} (hs : (isWording [s] && closesApart s) = true) (h : Spaced ps) : Spaced (.word s :: ps) := by
  have hjoin : String.join [s] = s := by simp
  rw [Bool.and_eq_true] at hs
  exact join hs.1 (.inl rfl) (.inr (hjoin ▸ hs.2)) nil h

lemma trail {s : String} (hs : (isWording [s] && opensApart s) = true) (h : Spaced ps) : Spaced (ps ++ [.word s]) := by
  have hjoin : String.join [s] = s := by simp
  rw [Bool.and_eq_true] at hs
  exact join hs.1 (.inr (hjoin ▸ hs.2)) (.inl rfl) h nil

lemma between (ss : List String) (hss : isSpacer ss = true) (hps : Spaced ps) (hqs : Spaced qs) :
    Spaced (ps ++ (ss.map .word ++ qs)) := by
  simp only [isSpacer, Bool.and_eq_true] at hss
  exact join hss.1.1 (.inr hss.1.2) (.inr hss.2) hps hqs

lemma parens {inner : List Piece} (h : Phrase inner) : Spaced (Piece.group inner) := by
  simpa using group nil h nil

lemma call {inner : List Piece} (hps : Spaced ps) (h : Phrase inner) : Spaced (ps ++ Piece.group inner) := by
  simpa using group hps h nil

lemma joined {s : String} (hs : isSpacer [s] = true) {items : List (List Piece)} (h : ∀ ps ∈ items, Spaced ps) :
    Spaced (Piece.joined s items) :=
  Piece.joined_rec nil (fun _ _ => between [s] hs) h

lemma joined_map {α : Type} {s : String} (hs : isSpacer [s] = true) {f : α → List Piece} (h : ∀ x, Spaced (f x))
    (xs : List α) : Spaced (Piece.joined s (xs.map f)) := by
  apply joined hs
  intro ps hp
  obtain ⟨x, _, rfl⟩ := List.mem_map.mp hp
  exact h x

lemma of_mem_clause {α : Type} {keyword s : String} (hk : (isWording [keyword] && closesApart keyword) = true)
    (hs : isSpacer [s] = true) {f : α → List Piece} (h : ∀ x, Spaced (f x)) (xs : List α) :
    ∀ ps ∈ Piece.clause keyword s (xs.map f), Spaced ps :=
  Piece.forall_mem_clause (lead hk (joined_map hs h xs))

lemma declaration (cte : String) (columns : List String) {body : List Piece} (h : Phrase body) :
    Spaced (Piece.declaration cte columns body) := by
  have hheading : Spaced (Piece.heading cte columns) := by
    rw [Piece.heading]
    split
    · exact identifier cte
    · have hcolumns : Phrase (Piece.joined ", " (columns.map fun column => [.identifier column])) :=
        .joined_map rfl .identifier columns
      exact between [" "] (by decide) (identifier cte) (parens hcolumns)
  exact between [" AS "] (by decide) hheading (parens h)

end Spaced

lemma spaced_path (path : String) : Spaced (Piece.path path) :=
  .joined_map (by decide) .identifier _

lemma Column.spaced_pieces (c : Column) : Spaced c.pieces := by
  have hname : Spaced [if c.name = "*" then .word "*" else .identifier c.name] := by
    split
    · exact .star
    · exact .identifier c.name
  cases ht : c.table with
  | none => simpa [pieces, ht] using hname
  | some table => simpa [pieces, ht] using Spaced.between ["."] (by decide) (spaced_path table) hname

lemma SortKey.spaced_pieces (k : SortKey) : Spaced k.pieces := by
  have hwording : isWording [" ", k.direction.sql] = true := by
    cases k.direction <;> decide
  have hopen : opensApart (String.join [" ", k.direction.sql]) = true := by
    cases k.direction <;> decide
  exact .join hwording (.inr hopen) (.inl rfl) k.column.spaced_pieces .nil

lemma WindowCall.spaced_pieces (call : WindowCall) : Spaced call.pieces := by
  obtain ⟨function, args, window⟩ := call
  have hname : isWording [function.sql] = true := by
    cases function <;> decide
  exact .group (.word hname) (phrase_piecesList args) (.lead (by decide) (.parens window.phrase_pieces))

lemma Expr.spaced_pieces (e : Expr) : Spaced e.pieces := by
  cases e with
  | column c => exact c.spaced_pieces
  | value v => exact .value v
  | star => exact .star
  | raw f => exact .raw f
  | function name args => exact .call (.function name) (phrase_piecesList args)
  | window call => exact call.spaced_pieces
  | binary op left right =>
    exact .between [" ", op.sql, " "] (by cases op <;> decide) left.spaced_pieces right.spaced_pieces
  | not operand => exact .lead (by decide) operand.spaced_pieces
  | isNull operand negated => exact .trail (by cases negated <;> decide) operand.spaced_pieces
  | inList operand options negated =>
    cases options with
    | nil => exact .word (by cases negated <;> decide)
    | cons e es =>
      exact .between [if negated then " NOT IN " else " IN "] (by cases negated <;> decide) operand.spaced_pieces
        (.parens (phrase_piecesList (e :: es)))
  | nested inner => exact .parens inner.phrase_pieces
termination_by structural e

lemma Projection.spaced_pieces (p : Projection) : Spaced p.pieces := by
  cases hn : p.name with
  | none => simpa [pieces, hn] using p.expr.spaced_pieces
  | some name =>
    simpa [pieces, hn] using Spaced.between [" AS "] (by decide) p.expr.spaced_pieces (.identifier name)

lemma Source.spaced_pieces (s : Source) : Spaced s.pieces := by
  cases s with
  | table path => exact spaced_path path
  | cte name => exact .identifier name

lemma isWording_toString (n : ℕ) : isWording [toString n] = true := by
  refine isWording_iff.mpr ⟨by simp, ?_, ?_⟩
  · simpa using isSeparator_toString n
  · simpa using lacksLetter_toString n

namespace SelectBody

lemma spaced_projection (b : SelectBody) : Spaced b.projectionPieces := by
  apply Spaced.lead (by cases b.distinct <;> decide)
  split
  · exact .star
  · exact .joined_map (by decide) Projection.spaced_pieces b.projection

lemma spaced_count {keyword : String} (hk : (isWording [keyword] && closesApart keyword) = true) (n : UInt64) :
    Spaced (countPieces keyword n) :=
  .lead hk (.word (isWording_toString n.toNat))

lemma spaced_pieces (b : SelectBody) : Spaced b.pieces := by
  apply Spaced.joined (by decide)
  intro ps hp
  simp only [List.mem_append, List.mem_singleton, List.mem_map, Option.mem_toList] at hp
  rcases hp with (((((rfl | ⟨s, _, rfl⟩) | hp) | hp) | hp) | ⟨n, _, rfl⟩) | ⟨n, _, rfl⟩
  · exact b.spaced_projection
  · exact .lead (by decide) s.spaced_pieces
  · exact Spaced.of_mem_clause (by decide) (by decide) Expr.spaced_pieces _ ps hp
  · exact Spaced.of_mem_clause (by decide) (by decide) Column.spaced_pieces _ ps hp
  · exact Spaced.of_mem_clause (by decide) (by decide) SortKey.spaced_pieces _ ps hp
  · exact spaced_count (by decide) n
  · exact spaced_count (by decide) n

end SelectBody

namespace Spaced

variable {d : Dialect} {casing : Casing}

lemma quiet_identifier (hd : Mode.isQuote d.quote = true) {name : String} (hn : '\\' ∉ name.toList) :
    (Piece.fragment d (.identifier name)).Quiet casing := by
  rcases Piece.words_identifier hd hn with hwords | ⟨hbare, hwords⟩
  · exact Fragment.quiet_of_words_eq_nil hwords
  · intro x hx _
    rw [hwords] at hx
    rw [Mode.mem_finished hx]
    exact casing.isWith_of_isBare hbare

lemma quiet {ps : List Piece} (hd : Mode.isQuote d.quote = true) (h : Spaced ps)
    (hp : ∀ p ∈ ps, p.Tidy ∧ p.Balanced ∧ p.WithFree casing) : (Piece.fragments d ps).Quiet casing := by
  induction h with
  | nil => exact Fragment.quiet_of_words_eq_nil rfl
  | star =>
    have hwords : Mode.code.words [] "*".toList = [] := by decide
    rw [Piece.fragments_singleton]
    exact Fragment.quiet_of_words_eq_nil hwords
  | function name =>
    rw [Piece.fragments_singleton]
    obtain ⟨_, _, hchars, hword⟩ := hp (.function name) (by simp)
    exact Fragment.quiet_word hchars hword
  | identifier name =>
    rw [Piece.fragments_singleton]
    exact quiet_identifier hd (hp (.identifier name) (by simp)).1
  | value v =>
    have hwords : Mode.code.words [] "?".toList = [] := by decide
    rw [Piece.fragments_singleton]
    exact Fragment.quiet_of_words_eq_nil hwords
  | raw f =>
    rw [Piece.fragments_singleton]
    exact fun x hx _ => (hp (.raw f) (by simp)).2.2 x hx
  | @join ps qs ss hss hopen hclose hps _ ihp ihq =>
    obtain ⟨hne, hseparators, hlacks⟩ := isWording_iff.mp hss
    rw [Piece.fragments_append, Piece.fragments_append, Piece.fragments_words]
    have hfirst := hps.phrase.selfContained hd fun p h => (hp p (by simp [h])).1
    have hbalanced := hps.phrase.balanced hd fun p h => (hp p (by simp [h])).imp_right And.left
    exact .join (isSeparator_join hne hseparators) hlacks hbalanced hfirst (Piece.apart_before d hopen)
      (Piece.apart_after d hclose) (ihp fun p h => hp p (by simp [h])) (ihq fun p h => hp p (by simp [h]))
  | group hps hinner _ ihp ihq =>
    rw [Piece.fragments_group]
    have hfirst := hps.phrase.selfContained hd fun p h => (hp p (by simp [h])).1
    have hbalanced := hps.phrase.balanced hd fun p h => (hp p (by simp [h])).imp_right And.left
    have hinside := hinner.selfContained hd fun p h => (hp p (by simp [Piece.group, h])).1
    have hibalanced := hinner.balanced hd fun p h => (hp p (by simp [Piece.group, h])).imp_right And.left
    exact .group hbalanced hfirst hibalanced hinside (ihp fun p h => hp p (by simp [h]))
      (ihq fun p h => hp p (by simp [h]))

end Spaced

end SqlBuilder
