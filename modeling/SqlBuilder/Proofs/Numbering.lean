import SqlBuilder.Proofs.Lexical.SelfContained
import SqlBuilder.Proofs.Pieces.Compiled

/-!
Numbering in one walk. The pieces are written in their order with a counter for the placeholders, and the result is the
finished statement, which numbers the markers only after the whole text has been put together.
-/

namespace SqlBuilder

structure Numbering where
  sql : String
  next : ℕ
  params : List Value

namespace Numbering

def start : Numbering := ⟨"", 1, []⟩

/-- Renumbers the markers of a text written elsewhere from the counter on. -/
def add (n : Numbering) (f : Fragment) : Numbering :=
  ⟨n.sql ++ String.ofList (Mode.code.placeMarkers .numbered n.next f.sql.toList), n.next + f.params.length,
    n.params ++ f.params⟩

def write (d : Dialect) (n : Numbering) : Piece → Numbering
  | .word s | .function s => { n with sql := n.sql ++ s }
  | .identifier name => { n with sql := n.sql ++ d.spelling name }
  | .value v => ⟨n.sql ++ "$" ++ toString n.next, n.next + 1, n.params ++ [v]⟩
  | .raw f => n.add f

end Numbering

def Piece.number (d : Dialect) (ps : List Piece) : Numbering :=
  ps.foldl (Numbering.write d) .start

def Query.number (d : Dialect) (q : Query) : Numbering :=
  Piece.number d q.pieces

namespace Numbering

variable {d : Dialect}

lemma add_text (n : Numbering) {s : String} (h : (Fragment.ofText s).SelfContained) :
    n.add (.ofText s) = { n with sql := n.sql ++ s } := by
  have hplace : Mode.code.placeMarkers .numbered n.next s.toList = s.toList :=
    Mode.placeMarkers_of_markers_eq_zero .numbered n.next h.2
  simp [add, Fragment.ofText, hplace]

lemma add_value (n : Numbering) (v : Value) :
    n.add ⟨"?", [v]⟩ = ⟨n.sql ++ "$" ++ toString n.next, n.next + 1, n.params ++ [v]⟩ := by
  have hplace : Mode.code.placeMarkers .numbered n.next "?".toList = '$' :: Nat.toDigits 10 n.next := by
    simp [Mode.placeMarkers, Mode.isMarker, Mode.isCode, PlaceholderStyle.text]
  have htext : String.ofList ('$' :: Nat.toDigits 10 n.next) = "$" ++ toString n.next := by
    rw [Nat.toString_eq_ofList_toDigits, ← String.toList_inj]
    simp
  rw [add, hplace, htext]
  simp [String.append_assoc]

lemma write_eq_add (n : Numbering) {p : Piece} (h : (p.fragment d).SelfContained) :
    n.write d p = n.add (p.fragment d) := by
  cases p with
  | word s => exact (n.add_text h).symm
  | function name => exact (n.add_text h).symm
  | identifier name => exact (n.add_text h).symm
  | value v => exact (n.add_value v).symm
  | raw f => rfl

lemma add_join (n : Numbering) {f : Fragment} {s : String} (hf : f.SelfContained) (hs : Mode.Separates s.toList)
    (g : Fragment) : ((n.add f).write d (.word s)).add g = n.add (f ++ (.ofText s ++ g)) := by
  obtain ⟨hcode, hmarkers⟩ := hs _ hf.1
  have hplace : (Mode.code.after f.sql.toList).placeMarkers .numbered (n.next + f.params.length) s.toList = s.toList :=
    Mode.placeMarkers_of_markers_eq_zero .numbered _ hmarkers
  simp [add, write, Fragment.ofText, Mode.placeMarkers_append, hf.2, hplace, hcode, hmarkers, String.append_assoc,
    Nat.add_assoc]

lemma params_write (n : Numbering) (p : Piece) : (n.write d p).params = n.params ++ p.values := by
  cases p <;> simp [write, add, Piece.values]

lemma next_write (n : Numbering) (p : Piece) : (n.write d p).next = n.next + p.values.length := by
  cases p <;> rfl

lemma params_foldl (ps : List Piece) (n : Numbering) :
    (ps.foldl (write d) n).params = n.params ++ ps.flatMap Piece.values := by
  induction ps generalizing n with
  | nil => simp
  | cons p ps ih => rw [List.foldl_cons, ih, params_write, List.flatMap_cons, List.append_assoc]

lemma next_foldl (ps : List Piece) (n : Numbering) :
    (ps.foldl (write d) n).next = n.next + (ps.flatMap Piece.values).length := by
  induction ps generalizing n with
  | nil => simp
  | cons p ps ih => rw [List.foldl_cons, ih, next_write, List.flatMap_cons, List.length_append, Nat.add_assoc]

end Numbering

namespace Piece

variable {d : Dialect}

def Numbers (d : Dialect) (ps : List Piece) : Prop :=
  ∀ n : Numbering, ps.foldl (Numbering.write d) n = n.add (fragments d ps)

lemma numbers_singleton {p : Piece} (h : (fragments d [p]).SelfContained) : Numbers d [p] := by
  intro n
  rw [fragments_singleton] at h ⊢
  exact n.write_eq_add h

lemma Numbers.join {ps qs : List Piece} {s : String} (hs : Mode.Separates s.toList)
    (hf : (fragments d ps).SelfContained) (hp : Numbers d ps) (hq : Numbers d qs) :
    Numbers d (ps ++ .word s :: qs) := by
  intro n
  rw [List.foldl_append, List.foldl_cons, hp n, hq, n.add_join hf hs, fragments_join]

end Piece

lemma Phrase.numbers {d : Dialect} (hd : Mode.isQuote d.quote = true) {ps : List Piece} (h : Phrase ps)
    (ht : ∀ p ∈ ps, p.Tidy) : Piece.Numbers d ps := by
  induction h with
  | nil =>
    intro n
    simp [Piece.fragments, Numbering.add, Fragment.empty, Mode.placeMarkers]
  | star => exact Piece.numbers_singleton (star.selfContained hd ht)
  | frame f => exact Piece.numbers_singleton ((frame f).selfContained hd ht)
  | function name => exact Piece.numbers_singleton ((function name).selfContained hd ht)
  | identifier name => exact Piece.numbers_singleton ((identifier name).selfContained hd ht)
  | value v => exact Piece.numbers_singleton ((value v).selfContained hd ht)
  | raw f => exact Piece.numbers_singleton ((raw f).selfContained hd ht)
  | @join ps qs s hs hp _ ihp ihq =>
    have htp : ∀ p ∈ ps, p.Tidy := fun p h => ht p (by simp [h])
    have htq : ∀ p ∈ qs, p.Tidy := fun p h => ht p (by simp [h])
    exact .join (Mode.separates_word hs) (hp.selfContained hd htp) (ihp htp) (ihq htq)
  | @group ps inner qs hp hi _ ihp ihi ihq =>
    have htp : ∀ p ∈ ps, p.Tidy := fun p h => ht p (by simp [h])
    have hti : ∀ p ∈ inner, p.Tidy := fun p h => ht p (by simp [Piece.group, h])
    have htq : ∀ p ∈ qs, p.Tidy := fun p h => ht p (by simp [h])
    have hinner : Piece.Numbers d (inner ++ .word ")" :: qs) :=
      .join Mode.separates_close (hi.selfContained hd hti) (ihi hti) (ihq htq)
    have hall := Piece.Numbers.join Mode.separates_open (hp.selfContained hd htp) (ihp htp) hinner
    simpa [Piece.group] using hall

lemma Piece.params_number (d : Dialect) (ps : List Piece) : (number d ps).params = ps.flatMap values :=
  Numbering.params_foldl ps .start

lemma Piece.next_number (d : Dialect) (ps : List Piece) : (number d ps).next = 1 + (ps.flatMap values).length :=
  Numbering.next_foldl ps .start

lemma Piece.params_number_at (d : Dialect) {ps before after : List Piece} {p : Piece} (h : ps = before ++ p :: after)
    {j : ℕ} {v : Value} (hj : p.values[j]? = some v) :
    (number d ps).params[(number d before).next + j - 1]? = some v := by
  have hindex : (number d before).next + j - 1 = (before.flatMap values).length + j := by
    rw [next_number]
    omega
  have hlt : j < p.values.length := (List.getElem?_eq_some_iff.mp hj).1
  rw [params_number, hindex, h, List.flatMap_append, List.flatMap_cons]
  rw [List.getElem?_append_right (Nat.le_add_right _ j), Nat.add_sub_cancel_left, List.getElem?_append_left hlt, hj]

theorem Query.statement_eq_number {d : Dialect} (hd : d.quote ∈ ['"', '\'', '\x60'])
    (hn : d.placeholders = .numbered) {q : Query} (hq : ∀ p ∈ q.pieces, p.Tidy) {f : Fragment}
    (h : q.compile d = .ok f) :
    q.statement d = .ok ⟨(q.number d).sql, (q.number d).params⟩ ∧
      (q.number d).params = q.pieces.flatMap Piece.values ∧
      (∀ before p after, q.pieces = before ++ p :: after → ∀ j v, p.values[j]? = some v →
        (q.number d).params[(Piece.number d before).next + j - 1]? = some v) ∧
      ∀ operand negated, (Expr.inList operand [] negated).pieces = [.word (if negated then "1 = 1" else "1 = 0")] := by
  have hquote : Mode.isQuote d.quote = true := Identifier.isQuote_of_mem hd
  have hself : (Piece.fragments d q.pieces).SelfContained := q.phrase_pieces.selfContained hquote hq
  have hnumber : q.number d = Numbering.start.add (Piece.fragments d q.pieces) :=
    q.phrase_pieces.numbers hquote hq .start
  obtain rfl := q.yields_compile.value f h
  refine ⟨?_, Piece.params_number d q.pieces, fun _ _ _ hs _ _ hj => Piece.params_number_at d hs hj, fun _ _ => rfl⟩
  refine bind_eq_ok.mpr ⟨_, h, ?_⟩
  rw [Fragment.finish, hn, hself.place_eq, hnumber]
  simp [Numbering.add, Numbering.start]

theorem Query.statement_eq_number_marker_in_name :
    let items : List Projection := [(Expr.column (.bare "a?")).item, (Expr.value (.int 7)).item]
    let body : SelectBody := { SelectBody.empty with projection := items, filters := [.raw ⟨"b > ?", [.int 1]⟩] }
    let q : Query := .select ⟨body, none⟩
    .identifier "a?" ∈ q.pieces ∧ (∀ p ∈ q.pieces, p.Tidy) ∧
      q.compile .postgres = .ok ⟨"SELECT \"a?\", ? WHERE b > ?", [.int 7, .int 1]⟩ ∧
      q.statement .postgres = .ok ⟨(q.number .postgres).sql, (q.number .postgres).params⟩ := by
  intro items body q
  have hname : .identifier "a?" ∈ q.pieces := .tail _ (.head _)
  have hq : ∀ p ∈ q.pieces, p.Tidy := by decide
  have hc : q.compile .postgres = .ok ⟨"SELECT \"a?\", ? WHERE b > ?", [.int 7, .int 1]⟩ := by rfl
  exact ⟨hname, hq, hc, (Query.statement_eq_number (d := .postgres) (by decide) rfl hq hc).1⟩

end SqlBuilder
