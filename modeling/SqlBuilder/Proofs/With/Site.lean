import SqlBuilder.Proofs.Alignment
import SqlBuilder.Proofs.Lexical.Depth
import SqlBuilder.Proofs.Lexical.Weave

/-!
Where the declarations of a query stand, at every level of nesting. A body stays inside the parentheses that are written
around it: the depth first returns to what it was at the closing one.
-/

namespace SqlBuilder

namespace With

def opening (front : List Cte) (cte : Cte) : List Piece :=
  .word "WITH " :: front.flatMap (fun c => c.pieces ++ [.word ", "]) ++ Piece.heading cte.name cte.columns

def closing (back : List Cte) (rest : List Piece) : List Piece :=
  back.flatMap (fun c => .word ", " :: c.pieces) ++ .word " " :: rest

end With

namespace Query

def carried : Query → Option (With × List Piece)
  | select ⟨body, some w⟩ => some (w, body.pieces)
  | composed w base => some (w, base.pieces)
  | _ => none

/-- A declaration at any level, with all that is written in front of its ` AS ` and after the body in parentheses. -/
inductive Site : Query → List Piece → Cte → List Piece → Prop
  | own {q : Query} {w : With} {rest : List Piece} {front back : List Cte} {cte : Cte} :
      q.carried = some (w, rest) → w.ctes = front ++ cte :: back →
        Site q (With.opening front cte) cte (With.closing back rest)
  | inside {q : Query} {outer cte : Cte} {before after before' after' : List Piece} :
      Site q before outer after → Site outer.query before' cte after' →
        Site q (before ++ .word " AS " :: .word "(" :: before') cte (after' ++ .word ")" :: after)
  | base {w : With} {b : Query} {cte : Cte} {before after : List Piece} :
      Site b before cte after → Site (composed w b) (w.pieces ++ .word " " :: before) cte after

end Query

lemma ctePieces_eq_map (ctes : List Cte) : ctePieces ctes = ctes.map Cte.pieces := by
  induction ctes with
  | nil => rfl
  | cons cte ctes ih => rw [ctePieces, ih, List.map_cons]

lemma Cte.pieces_eq (cte : Cte) :
    cte.pieces = Piece.heading cte.name cte.columns ++ .word " AS " :: Piece.group cte.query.pieces := by
  cases cte
  rfl

namespace Piece

lemma joined_cons (separator : String) (ps : List Piece) (items : List (List Piece)) :
    joined separator (ps :: items) = ps ++ items.flatMap (word separator :: ·) := by
  induction items generalizing ps with
  | nil => simp [joined]
  | cons qs items ih => rw [joined_cons_cons, ih, List.flatMap_cons, List.cons_append]

lemma joined_append_cons (separator : String) (items : List (List Piece)) (ps : List Piece)
    (items' : List (List Piece)) :
    joined separator (items ++ ps :: items') =
      items.flatMap (· ++ [word separator]) ++ (ps ++ items'.flatMap (word separator :: ·)) := by
  induction items with
  | nil => exact joined_cons separator ps items'
  | cons qs items ih =>
    obtain ⟨rs, rest, hrest⟩ : ∃ rs rest, items ++ ps :: items' = rs :: rest :=
      List.exists_cons_of_ne_nil (by simp)
    rw [List.cons_append, hrest, joined_cons_cons, ← hrest, ih]
    simp

end Piece

lemma With.pieces_eq {w : With} {front back : List Cte} {cte : Cte} (h : w.ctes = front ++ cte :: back)
    (rest : List Piece) :
    w.pieces ++ .word " " :: rest =
      opening front cte ++ .word " AS " :: (Piece.group cte.query.pieces ++ closing back rest) := by
  obtain ⟨ctes⟩ := w
  obtain rfl : ctes = front ++ cte :: back := h
  rw [pieces, ctePieces_eq_map, List.map_append, List.map_cons, Piece.joined_append_cons, cte.pieces_eq]
  simp [opening, closing, List.flatMap_map]

lemma Query.eq_of_carried {q : Query} {w : With} {rest : List Piece} (h : q.carried = some (w, rest)) :
    (∃ body, q = .select ⟨body, some w⟩ ∧ rest = body.pieces) ∨
      ∃ base, q = .composed w base ∧ rest = base.pieces := by
  cases q with
  | select s =>
    obtain ⟨body, _ | w'⟩ := s
    · cases h
    · obtain ⟨rfl, rfl⟩ := Prod.mk.inj (Option.some.inj h)
      exact Or.inl ⟨body, rfl, rfl⟩
  | composed w' base =>
    obtain ⟨rfl, rfl⟩ := Prod.mk.inj (Option.some.inj h)
    exact Or.inr ⟨base, rfl, rfl⟩
  | raw f => cases h
  | fragment f => cases h

lemma Query.pieces_of_carried {q : Query} {w : With} {rest : List Piece} (h : q.carried = some (w, rest)) :
    q.pieces = w.pieces ++ .word " " :: rest := by
  rcases eq_of_carried h with ⟨body, rfl, rfl⟩ | ⟨base, rfl, rfl⟩
  · rfl
  · rfl

lemma With.phrase_opening (front : List Cte) (cte : Cte) : Phrase (opening front cte) := by
  have hfront : Phrase (front.flatMap (fun c => c.pieces ++ [.word ", "]) ++ Piece.heading cte.name cte.columns) := by
    induction front with
    | nil => exact .heading cte.name cte.columns
    | cons c front ih =>
      rw [List.flatMap_cons, List.append_assoc, List.append_assoc]
      exact .join rfl c.phrase_pieces ih
  exact .lead rfl hfront

section Compiled

variable {d : Dialect}

lemma compileCtes_of_mem {ctes : List Cte} {cs : List Declaration} (h : compileCtes d ctes = .ok cs) :
    ∀ cte ∈ ctes, ∃ body, cte.query.compile d = .ok body := by
  induction ctes generalizing cs with
  | nil => simp
  | cons cte ctes ih =>
    obtain ⟨c, hc, h⟩ := bind_eq_ok.mp h
    obtain ⟨cs', hcs, _⟩ := bind_eq_ok.mp h
    rw [List.forall_mem_cons]
    refine ⟨?_, ih hcs⟩
    cases cte with
    | mk name columns query =>
      obtain ⟨body, hbody, _⟩ := bind_eq_ok.mp hc
      exact ⟨body, hbody⟩

lemma Query.precede_of_carried {q : Query} {w : With} {rest : List Piece} (hq : q.carried = some (w, rest))
    {f : Fragment} (h : q.compile d = .ok f) : ∃ g, w.precede d g = .ok f := by
  rcases eq_of_carried hq with ⟨body, rfl, _⟩ | ⟨base, rfl, _⟩
  · obtain ⟨g, _, h⟩ := bind_eq_ok.mp h
    obtain ⟨_, _, h⟩ := bind_eq_ok.mp h
    exact ⟨g, h⟩
  · obtain ⟨g, _, h⟩ := bind_eq_ok.mp h
    exact ⟨g, h⟩

lemma Piece.closed_join {ps qs : List Piece} {s : String} (hs : Mode.Separates s.toList) (hps : (fragments d ps).Closed)
    (hqs : (fragments d qs).Closed) : (fragments d (ps ++ .word s :: qs)).Closed := by
  have hcode := (hs _ hps).1
  rw [fragments_join]
  simpa only [Fragment.Closed, Fragment.sql_append, String.toList_append, Fragment.ofText, Mode.after_append, hcode]
    using hqs

end Compiled

namespace Query.Site

variable {d : Dialect} {q : Query} {cte : Cte} {before after : List Piece}

lemma pieces_eq (h : q.Site before cte after) :
    q.pieces = before ++ .word " AS " :: (Piece.group cte.query.pieces ++ after) := by
  induction h with
  | own hq hw => rw [pieces_of_carried hq, With.pieces_eq hw]
  | inside _ _ ihouter ihinner =>
    rw [ihouter, ihinner]
    simp [Piece.group]
  | base _ ih => simp [Query.pieces, ih]

lemma before_subset (h : q.Site before cte after) : before ⊆ q.pieces := by
  rw [h.pieces_eq]
  exact List.subset_append_left before _

lemma body_subset (h : q.Site before cte after) : cte.query.pieces ⊆ q.pieces := by
  intro p hp
  rw [h.pieces_eq]
  simp [Piece.group, hp]

lemma compiles (h : q.Site before cte after) {f : Fragment} (hf : q.compile d = .ok f) :
    ∃ body, cte.query.compile d = .ok body := by
  induction h generalizing f with
  | @own q w rest front back cte hq hw =>
    obtain ⟨ctes⟩ := w
    obtain rfl : ctes = front ++ cte :: back := hw
    obtain ⟨g, hg⟩ := precede_of_carried hq hf
    obtain ⟨cs, hcs, _⟩ := bind_eq_ok.mp hg
    exact compileCtes_of_mem hcs cte (by simp)
  | inside _ _ ihouter ihinner =>
    obtain ⟨body, hbody⟩ := ihouter hf
    exact ihinner hbody
  | base _ ih =>
    obtain ⟨g, hg, _⟩ := bind_eq_ok.mp hf
    exact ih hg

lemma closed_before (hd : Mode.isQuote d.quote = true) (h : q.Site before cte after) (hq : ∀ p ∈ q.pieces, p.Tidy) :
    (Piece.fragments d before).Closed := by
  induction h with
  | own hcarried hw =>
    exact ((With.phrase_opening _ _).selfContained hd fun p hp => hq p ((own hcarried hw).before_subset hp)).1
  | inside houter _ ihouter ihinner =>
    -- the parenthesis around the body is still open here, so this is not a phrase and is read part by part
    have hinner : (Piece.fragments d _).Closed := ihinner fun p hp => hq p (houter.body_subset hp)
    have hempty : (Piece.fragments d []).Closed := Fragment.selfContained_empty.1
    have hopen := Piece.closed_join Mode.separates_open hempty hinner
    exact Piece.closed_join (Mode.separates_word rfl) (ihouter hq) hopen
  | @base w b _ _ _ _ ih =>
    have hw := w.phrase_pieces.selfContained hd fun p hp => hq p (by simp [Query.pieces, hp])
    exact Piece.closed_join (Mode.separates_word rfl) hw.1 (ih fun p hp => hq p (by simp [Query.pieces, hp]))

lemma fragments_eq (d : Dialect) (h : q.Site before cte after) :
    Piece.fragments d q.pieces = Piece.fragments d before ++ (.ofText " AS " ++
      (.ofText "(" ++ (Piece.fragments d cte.query.pieces ++ (.ofText ")" ++ Piece.fragments d after)))) := by
  have hgroup := Piece.fragments_group d [] cte.query.pieces after
  rw [h.pieces_eq, Piece.fragments_join, ← List.nil_append (Piece.group _), hgroup, Piece.fragments,
    Fragment.empty_append]

end Query.Site

/-- Every body is compiled as a query of its own, and stays between the parentheses that are written around it. -/
theorem Query.enclosed_of_compile {d : Dialect} (hd : d.quote ∈ ['"', '\'', '\x60']) {q : Query}
    (hq : ∀ p ∈ q.pieces, p.Tidy ∧ p.Balanced) {f : Fragment} (h : q.compile d = .ok f) :
    f.Balanced ∧ ∀ before cte after, q.Site before cte after → ∃ body, cte.query.compile d = .ok body ∧
      let lead := (Piece.fragments d before).sql ++ " AS "
      f.sql = lead ++ "(" ++ body.sql ++ ")" ++ (Piece.fragments d after).sql ∧
        Mode.code.FirstReturn f.sql.toList lead.length (lead.length + (body.sql.length + 2)) := by
  have hquote : Mode.isQuote d.quote = true := Identifier.isQuote_of_mem hd
  have hf : f = Piece.fragments d q.pieces := q.yields_compile.value f h
  refine ⟨hf ▸ q.phrase_pieces.balanced hquote hq, fun before cte after hsite => ?_⟩
  obtain ⟨body, hbody⟩ := hsite.compiles h
  have hb : body = Piece.fragments d cte.query.pieces := cte.query.yields_compile.value body hbody
  have hinner : ∀ p ∈ cte.query.pieces, p.Tidy ∧ p.Balanced := fun p hp => hq p (hsite.body_subset hp)
  have hself : body.SelfContained := cte.query.selfContained_of_compile hquote (fun p hp => (hinner p hp).1) hbody
  have hbalanced : body.Balanced := hb ▸ cte.query.phrase_pieces.balanced hquote hinner
  refine ⟨body, hbody, ?_⟩
  intro lead
  have hsql : f.sql = lead ++ "(" ++ body.sql ++ ")" ++ (Piece.fragments d after).sql := by
    rw [hf, hb, hsite.fragments_eq d]
    simp only [Fragment.sql_append, Fragment.ofText, lead, String.append_assoc]
  have hlead : Mode.code.after lead.toList = .code := by
    have hclosed := hsite.closed_before hquote fun p hp => (hq p hp).1
    rw [String.toList_append, Mode.after_append]
    exact (Mode.separates_word (s := " AS ") rfl _ hclosed).1
  refine ⟨hsql, ?_⟩
  have hreturn := Mode.firstReturn_parens (m := Mode.code.after lead.toList) (by rw [hlead]; rfl) hbalanced hself.1
  have hwithin := hreturn.within (m := .code) (by simp) (Piece.fragments d after).sql.toList
  simpa [hsql, ← String.length_toList] using hwithin

theorem Query.enclosed_of_compile_nested :
    let inner : Cte := ⟨"b", [], .raw ⟨"SELECT (?)", [.int 1]⟩⟩
    let reading (name : String) : SelectBody := { SelectBody.empty with source := some (.cte name) }
    let outer : Cte := ⟨"a) --", ["c("], .select ⟨reading "b", some ⟨[inner]⟩⟩⟩
    let q : Query := .composed ⟨[outer]⟩ (.select ⟨reading "a) --", none⟩)
    let f : Fragment :=
      ⟨"WITH \"a) --\" (\"c(\") AS (WITH b AS (SELECT (?)) SELECT * FROM b) SELECT * FROM \"a) --\"", [.int 1]⟩
    (∀ p ∈ q.pieces, p.Tidy ∧ p.Balanced) ∧ q.compile .generic = .ok f ∧ f.Balanced ∧
      Mode.code.FirstReturn f.sql.toList 34 46 := by
  intro inner reading outer q f
  have hq : ∀ p ∈ q.pieces, p.Tidy ∧ p.Balanced := by decide
  have hf : q.compile .generic = .ok f := by
    simp only [q, f, outer, reading, inner]
    rfl
  obtain ⟨hbalanced, hsites⟩ := enclosed_of_compile (by decide) hq hf
  have houter : q.Site (With.opening [] outer) outer _ := .own rfl rfl
  have hinner : outer.query.Site (With.opening [] inner) inner _ := .own rfl rfl
  obtain ⟨body, hbody, _, hreturn⟩ := hsites _ _ _ (houter.inside hinner)
  obtain rfl : body = ⟨"SELECT (?)", [.int 1]⟩ := (Except.ok.inj hbody).symm
  have hlead : ((Piece.fragments .generic (With.opening [] outer ++
      .word " AS " :: .word "(" :: With.opening [] inner)).sql ++ " AS ").length = 34 := by decide
  rw [hlead] at hreturn
  exact ⟨hq, hf, hbalanced, hreturn⟩

end SqlBuilder
