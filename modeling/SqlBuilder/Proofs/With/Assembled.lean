import Mathlib.Data.List.Induction
import SqlBuilder.Proofs.Lexical.Weave
import SqlBuilder.Proofs.Pieces.Compiled
import SqlBuilder.Proofs.With.Defects

namespace SqlBuilder

open Emitter Fragment

namespace Declaration

def cte (c : Declaration) : Cte := ⟨c.name, c.columns, .fragment c.body⟩

lemma declared_cte (d : Dialect) (c : Declaration) : c.cte.declared d = c := by
  rw [Cte.declared, cte, Query.pieces, Piece.fragments_singleton]
  rfl

def opening (d : Dialect) (c : Declaration) : String :=
  (Piece.fragments d (Piece.heading c.name c.columns)).sql ++ " AS ("

def layout (d : Dialect) : List Declaration → List (String × Fragment)
  | [] => []
  | c :: cs => ("WITH " ++ c.opening d, c.body) :: cs.map fun c => ("), " ++ c.opening d, c.body)

def parts (cs : List Declaration) (base : Fragment) : List Fragment :=
  cs.map (·.body) ++ [base]

def placed (d : Dialect) (cs : List Declaration) (base : Fragment) : List (String × Fragment) :=
  layout d cs ++ [(") ", base)]

lemma map_snd_placed (d : Dialect) (cs : List Declaration) (base : Fragment) :
    (placed d cs base).map Prod.snd = parts cs base := by
  cases cs with
  | nil => rfl
  | cons c cs => simp [placed, parts, layout, Function.comp_def]

lemma params_heading (d : Dialect) (c : Declaration) :
    (Piece.fragments d (Piece.heading c.name c.columns)).params = [] := by
  rw [Piece.fragments_params, List.flatMap_eq_nil_iff]
  exact Piece.forall_mem_heading (fun _ => rfl) fun _ _ => rfl

lemma fragments_pieces (d : Dialect) (c : Declaration) :
    Piece.fragments d c.cte.pieces = .ofText (c.opening d) ++ (c.body ++ .ofText ")") := by
  have hbody : Piece.fragments d c.cte.query.pieces = c.body := congrArg body (c.declared_cte d)
  have hpieces : c.cte.pieces =
      Piece.heading c.name c.columns ++ .word " AS " :: .word "(" :: (c.cte.query.pieces ++ [.word ")"]) := rfl
  rw [hpieces, Piece.fragments_append, Piece.fragments, Piece.fragments, Piece.fragments_append, hbody]
  ext
  · simp [opening, Piece.fragments, Piece.fragment, Piece.text, ofText, String.append_assoc]
  · simp [params_heading, Piece.fragments, Piece.fragment, Piece.values, ofText]

lemma fragments_joined (d : Dialect) (c : Declaration) (cs : List Declaration) (base : Fragment) :
    Piece.fragments d (Piece.joined ", " (ctePieces ((c :: cs).map cte))) ++ (.ofText " " ++ base) =
      .ofText (c.opening d) ++
        (c.body ++ weave (cs.map (fun c => ("), " ++ c.opening d, c.body)) ++ [(") ", base)])) := by
  induction cs generalizing c with
  | nil =>
    have hlast : Piece.joined ", " (ctePieces [c.cte]) = c.cte.pieces := by
      simp [Piece.joined, ctePieces]
    rw [List.map_singleton, hlast, fragments_pieces]
    ext <;> simp [weave, ofText, empty, String.append_assoc]
  | cons c' cs ih =>
    have hjoined : Piece.joined ", " (ctePieces ((c :: c' :: cs).map cte)) =
        c.cte.pieces ++ .word ", " :: Piece.joined ", " (ctePieces ((c' :: cs).map cte)) :=
      Piece.joined_cons_cons _ _ _ _
    rw [hjoined, Piece.fragments_join, append_assoc, append_assoc, ih c', fragments_pieces]
    ext <;> simp [weave, ofText, String.append_assoc]

lemma fragments_placed (d : Dialect) {cs : List Declaration} (hcs : cs ≠ []) (base : Fragment) :
    Piece.fragments d (With.pieces ⟨cs.map cte⟩ ++ .word " " :: [.raw base]) =
      weave (placed d cs base) := by
  obtain ⟨c, cs, rfl⟩ := List.exists_cons_of_ne_nil hcs
  have hbase : Piece.fragments d [.raw base] = base := Piece.fragments_singleton d (.raw base)
  rw [Piece.fragments_join, hbase, With.pieces, Piece.fragments, append_assoc, fragments_joined]
  ext <;> simp [placed, layout, weave, ofText, Piece.fragment, Piece.text, Piece.values, String.append_assoc]

structure Complete (c : Declaration) : Prop where
  name : c.name ≠ ""
  body : c.body.isBlank = false
  columns : ∀ column ∈ c.columns, column ≠ ""

lemma validate_eq_ok {earlier : List String} {c : Declaration} :
    c.validate earlier = .ok () ↔ c.Complete ∧ c.name ∉ earlier := by
  have hvalidate : c.validate earlier = .ok () ↔
      c.name ≠ "" ∧ c.name ∉ earlier ∧ c.body.isBlank = false ∧ ∀ column ∈ c.columns, column ≠ "" := by
    simp [validate, bind_unit_eq_ok, require_eq_ok]
  rw [hvalidate]
  constructor
  · rintro ⟨hname, hnew, hbody, hcolumns⟩
    exact ⟨⟨hname, hbody, hcolumns⟩, hnew⟩
  · rintro ⟨⟨hname, hbody, hcolumns⟩, hnew⟩
    exact ⟨hname, hnew, hbody, hcolumns⟩

lemma validateAll_eq_ok {earlier : List String} {cs : List Declaration} :
    validateAll earlier cs = .ok () ↔
      (∀ c ∈ cs, c.Complete ∧ c.name ∉ earlier) ∧ (cs.map (·.name)).Nodup := by
  induction cs generalizing earlier with
  | nil => simp [validateAll]
  | cons c cs ih =>
    have hname : ∀ x : Declaration, x.name ∉ earlier ++ [c.name] ↔ x.name ∉ earlier ∧ x.name ≠ c.name := by simp
    have hfresh : c.name ∉ cs.map (·.name) ↔ ∀ x ∈ cs, x.name ≠ c.name := by simp
    simp only [validateAll, bind_unit_eq_ok, validate_eq_ok, ih, hname, List.forall_mem_cons, List.map_cons,
      List.nodup_cons, hfresh]
    constructor
    · rintro ⟨hc, hcs, hnodup⟩
      exact ⟨⟨hc, fun x hx => ⟨(hcs x hx).1, (hcs x hx).2.1⟩⟩, fun x hx => (hcs x hx).2.2, hnodup⟩
    · rintro ⟨⟨hc, hcs⟩, hne, hnodup⟩
      exact ⟨hc, fun x hx => ⟨(hcs x hx).1, (hcs x hx).2, hne x hx⟩, hnodup⟩

/-- The names of the declaration are closed where they are written. -/
def Spelled (d : Dialect) (c : Declaration) : Prop :=
  ∀ name ∈ c.name :: c.columns, (Piece.identifier name).SelfContained d

lemma spelled_of_no_backslash {d : Dialect} (hd : Mode.isQuote d.quote = true) {c : Declaration}
    (h : ∀ name ∈ c.name :: c.columns, '\\' ∉ name.toList) : c.Spelled d :=
  fun name hname => Piece.selfContained_identifier hd (h name hname)

lemma Spelled.separates {d : Dialect} {c : Declaration} (h : c.Spelled d) {lead : String}
    (hlead : Mode.Separates lead.toList) : Mode.Separates (lead ++ c.opening d).toList := by
  have hheading : (Piece.fragments d (Piece.heading c.name c.columns)).SelfContained :=
    (Phrase.heading c.name c.columns).selfContained_of_pieces (Piece.forall_mem_heading (fun _ => trivial) h)
  have hopen : Mode.Separates " AS (".toList := (Mode.separates_word (s := " AS ") rfl).append Mode.separates_open
  exact Fragment.separates_around hlead hheading (params_heading d c) hopen

lemma layout_concat (d : Dialect) (cs : List Declaration) (c : Declaration) :
    ∃ lead : String, Mode.Separates lead.toList ∧
      layout d (cs ++ [c]) = layout d cs ++ [(lead ++ c.opening d, c.body)] := by
  cases cs with
  | nil => exact ⟨"WITH ", Mode.separates_word rfl, rfl⟩
  | cons c' cs =>
    have hlead : Mode.Separates "), ".toList := Mode.separates_close.append (Mode.separates_word (s := ", ") rfl)
    exact ⟨"), ", hlead, by simp [layout]⟩

lemma forall_mem_layout {d : Dialect} {cs : List Declaration} (h : ∀ c ∈ cs, c.Spelled d ∧ c.body.Closed) :
    ∀ x ∈ layout d cs, Mode.Separates x.1.toList ∧ x.2.Closed := by
  induction cs using List.reverseRecOn with
  | nil => simp [layout]
  | append_singleton cs c ih =>
    rw [List.forall_mem_append, List.forall_mem_singleton] at h
    obtain ⟨hcs, hspelled, hclosed⟩ := h
    obtain ⟨lead, hlead, hlayout⟩ := layout_concat d cs c
    rw [hlayout, List.forall_mem_append, List.forall_mem_singleton]
    exact ⟨ih hcs, hspelled.separates hlead, hclosed⟩

lemma separates_last : Mode.Separates ") ".toList :=
  Mode.separates_close.append (Mode.separates_word (s := " ") rfl)

end Declaration

open Declaration

section Total

def Emitter.Total (e : Emitter) : Prop :=
  ∀ out, ∃ f, e out = .ok f

lemma Emitter.Emits.total {e : Emitter} {a : Emission} (h : Emits e a) (ha : a.condition) : Total e :=
  fun out => ⟨out ++ a.fragment, (h out _).mpr ⟨ha, rfl⟩⟩

lemma total_emitWith {d : Dialect} (hd : Mode.isQuote d.quote = true) (cs : List Declaration) (base : Fragment) :
    Total (emitWith d cs base) := by
  have hquote : d.quote ∈ ['"', '\'', '\x60', '['] := by
    simp only [Mode.isQuote, Bool.or_eq_true, decide_eq_true_eq] at hd
    rcases hd with (h | h) | h <;> simp [h]
  exact (Declaration.emits_with hquote cs base).total trivial

end Total

section Assembled

variable {d : Dialect} {cs : List Declaration} {base f : Fragment}

lemma assembleWith_eq_ok : assembleWith d cs base = .ok f ↔
    cs ≠ [] ∧ base.isBlank = false ∧ validateAll [] cs = .ok () ∧ (emitWith d cs base).run = .ok f ∧ f.Aligned := by
  simp [assembleWith, bind_unit_eq_ok, require_eq_ok, aligned_eq_ok]

lemma eq_weave_of_emitWith (hcs : cs ≠ []) (h : (emitWith d cs base).run = .ok f) :
    f = weave (placed d cs base) := by
  have hdeclared : (cs.map cte).map (Cte.declared d) = cs := by
    rw [List.map_map]
    exact List.map_id'' (declared_cte d) cs
  have hbodies := (parametric_writes d).declared (writes_fragment d) (cs.map cte)
  have hemit := (parametric_writes d).emitWith _ _ base base _ _ hbodies (writes_piece (.raw base))
  rw [hdeclared] at hemit
  rw [← fragments_placed d hcs]
  exact hemit.run.value f h

lemma params_placed : (weave (placed d cs base)).params = (parts cs base).flatMap (·.params) := by
  rw [params_weave, ← map_snd_placed d, List.flatMap_map]

lemma reads_placed (hcs : ∀ c ∈ cs, c.Spelled d ∧ c.body.Closed) (base : Fragment) :
    Mode.code.after (weave (placed d cs base)).sql.toList = Mode.code.after base.sql.toList ∧
      (weave (placed d cs base)).markers = ((parts cs base).map (·.markers)).sum := by
  obtain ⟨hmode, hmarkers⟩ := reads_weave_last (forall_mem_layout hcs) separates_last base
  refine ⟨hmode, hmarkers.trans ?_⟩
  rw [← map_snd_placed d, List.map_map, placed, List.map_append, List.sum_append]
  rfl

end Assembled

end SqlBuilder
