import SqlBuilder.Proofs.With.Assembled

/-!
When parts that could be executed on their own may be put together. The parenthesis behind a body is written on the
body's last line, so a line comment that the body ends with takes it in, together with all that follows.
-/

namespace SqlBuilder

open Declaration Fragment

namespace Fragment

structure Executable (d : Dialect) (f : Fragment) : Prop where
  visible : f.isBlank = false
  finished : ∃ s, f.finish d = .ok s

lemma aligned_of_finish {d : Dialect} {f : Fragment} (h : ∃ s, f.finish d = .ok s) : f.Aligned := by
  obtain ⟨s, hs⟩ := h
  exact (place_eq_ok.mp hs).1

lemma executable_marker (d : Dialect) : Executable d ⟨"?", [.null]⟩ :=
  ⟨rfl, _, place_eq_ok.mpr ⟨⟨by decide, by decide⟩, rfl⟩⟩

lemma Aligned.closed_or {f : Fragment} (h : f.Aligned) :
    f.Closed ∨ Mode.code.after f.sql.toList = .lineComment :=
  Mode.close_eq_ok.mp h.closed

end Fragment

/-- The whole can be executed, and its markers are those of the parts. -/
def Composes (d : Dialect) (cs : List Declaration) (base : Fragment) : Prop :=
  ∃ f s, assembleWith d cs base = .ok f ∧ f.finish d = .ok s ∧
    f.markers = ((parts cs base).map (·.markers)).sum

structure Declaration.Sound (d : Dialect) (c : Declaration) : Prop where
  complete : c.Complete
  names : ∀ name ∈ c.name :: c.columns, '\\' ∉ name.toList
  finished : ∃ s, c.body.finish d = .ok s

section Composition

variable {d : Dialect} {cs : List Declaration}

lemma composes_of_closed (hd : Mode.isQuote d.quote = true) (hne : cs ≠ []) (hcs : ∀ c ∈ cs, c.Sound d)
    (hnodup : (cs.map (·.name)).Nodup) (hclosed : ∀ c ∈ cs, c.body.Closed) {base : Fragment}
    (hbase : base.Executable d) : Composes d cs base := by
  have hwritten : ∀ c ∈ cs, c.Spelled d ∧ c.body.Closed := fun c hc =>
    ⟨spelled_of_no_backslash hd (hcs c hc).names, hclosed c hc⟩
  have hparts : ∀ p ∈ parts cs base, p.Aligned := by
    rw [parts, List.forall_mem_append, List.forall_mem_singleton, List.forall_mem_map]
    exact ⟨fun c hc => aligned_of_finish (hcs c hc).finished, aligned_of_finish hbase.finished⟩
  obtain ⟨f, hemit⟩ := total_emitWith hd cs base .empty
  obtain rfl := eq_weave_of_emitWith hne hemit
  obtain ⟨hmode, hmarkers⟩ := reads_placed hwritten base
  have haligned : (weave (placed d cs base)).Aligned := by
    constructor
    · rw [hmode]
      exact (aligned_of_finish hbase.finished).closed
    · rw [params_placed, List.length_flatMap]
      exact hmarkers.trans (congrArg List.sum (List.map_congr_left fun p hp => (hparts p hp).markers))
  have hvalid : validateAll [] cs = .ok () :=
    validateAll_eq_ok.mpr ⟨fun c hc => ⟨(hcs c hc).complete, List.not_mem_nil⟩, hnodup⟩
  exact ⟨_, _, assembleWith_eq_ok.mpr ⟨hne, hbase.visible, hvalid, hemit, haligned⟩,
    place_eq_ok.mpr ⟨haligned, rfl⟩, hmarkers⟩

lemma not_composes_of_lineComment (hcs : ∀ c ∈ cs, c.Spelled d ∧ c.body.Closed) {c : Declaration} (hc : c.Spelled d)
    (hend : Mode.code.after c.body.sql.toList = .lineComment) : ¬ Composes d (cs ++ [c]) ⟨"?", [.null]⟩ := by
  rintro ⟨f, s, hf, _, hmarkers⟩
  obtain ⟨hne, _, _, hemit, _⟩ := assembleWith_eq_ok.mp hf
  obtain rfl := eq_weave_of_emitWith hne hemit
  obtain ⟨lead, hlead, hlayout⟩ := layout_concat d cs c
  obtain ⟨hmode, hcount⟩ := reads_weave_last (forall_mem_layout hcs) (hc.separates hlead) c.body
  -- the base is read inside the comment, where its marker is none
  have hlost : Mode.lineComment.markers (weave [(") ", ⟨"?", [.null]⟩)]).sql.toList = 0 := by decide
  have hown : markers ⟨"?", [.null]⟩ = 1 := by decide
  rw [← map_snd_placed d, placed, hlayout, weave_append, markers_append, hcount, hmode, hend, hlost] at hmarkers
  simp only [List.map_append, List.map_cons, List.map_nil, List.map_map, List.sum_append, List.sum_cons, List.sum_nil,
    hown, Function.comp_def] at hmarkers
  omega

theorem composes_iff (hd : d.quote ∈ ['"', '\'', '\x60']) (hcs : ∀ c ∈ cs, c.Sound d)
    (hnodup : (cs.map (·.name)).Nodup) :
    (∀ front, front <+: cs → front ≠ [] → ∀ base : Fragment, base.Executable d → Composes d front base) ↔
      ∀ c ∈ cs, Mode.code.after c.body.sql.toList ≠ .lineComment := by
  have hq : Mode.isQuote d.quote = true := Identifier.isQuote_of_mem hd
  have hspelled : ∀ c ∈ cs, c.Spelled d := fun c hc => spelled_of_no_backslash hq (hcs c hc).names
  have hclosed : ∀ c ∈ cs, Mode.code.after c.body.sql.toList ≠ .lineComment → c.body.Closed := fun c hc hend =>
    (aligned_of_finish (hcs c hc).finished).closed_or.resolve_right hend
  constructor
  · intro h
    by_contra hsome
    -- the first of them, so that the bodies in front of it are closed
    obtain ⟨c, hfirst⟩ : ∃ c, cs.find? (fun c => Mode.code.after c.body.sql.toList = .lineComment) = some c := by
      rw [← Option.isSome_iff_exists, List.find?_isSome]
      simpa using hsome
    obtain ⟨hend, before, after, rfl, hbefore⟩ := List.find?_eq_some_iff_append.mp hfirst
    rw [List.forall_mem_append, List.forall_mem_cons] at hspelled hclosed
    have hfront : before ++ [c] <+: before ++ c :: after := ⟨after, by simp⟩
    refine not_composes_of_lineComment ?_ hspelled.2.1 (by simpa using hend)
      (h _ hfront (by simp) _ (executable_marker d))
    exact fun c hc => ⟨hspelled.1 c hc, hclosed.1 c hc (by simpa using hbefore c hc)⟩
  · intro hend front hfront hne base hbase
    have hmem : ∀ c ∈ front, c ∈ cs := fun c hc => hfront.subset hc
    exact composes_of_closed hq hne (fun c hc => hcs c (hmem c hc)) (hnodup.sublist (hfront.sublist.map _))
      (fun c hc => hclosed c (hmem c hc) (hend c (hmem c hc))) hbase

theorem composes_iff_comment_inside :
    ∃ cs : List Declaration, Dialect.postgres.quote ∈ ['"', '\'', '\x60'] ∧ (∀ c ∈ cs, c.Sound .postgres) ∧
      (cs.map (·.name)).Nodup ∧
      ((∀ front, front <+: cs → front ≠ [] → ∀ base : Fragment, base.Executable .postgres →
          Composes .postgres front base) ↔
        ∀ c ∈ cs, Mode.code.after c.body.sql.toList ≠ .lineComment) := by
  have hcs : ∀ c ∈ [⟨"a", ["n?"], ⟨"SELECT '?', ? -- one\n", [.int 1]⟩⟩, ⟨"b", [], ⟨"SELECT ?", [.int 2]⟩⟩],
      Declaration.Sound .postgres c := by
    rw [List.forall_mem_cons, List.forall_mem_singleton]
    exact ⟨⟨⟨by decide, rfl, by decide⟩, by decide, _, rfl⟩, ⟨⟨by decide, rfl, by decide⟩, by decide, _, rfl⟩⟩
  exact ⟨_, by decide, hcs, by decide, composes_iff (by decide) hcs (by decide)⟩

/-- The comment at the end of the body takes in the base with its marker. -/
theorem not_composes_comment_at_end :
    ∃ cs base, Dialect.generic.quote ∈ ['"', '\'', '\x60'] ∧ cs ≠ [] ∧ (∀ c ∈ cs, c.Sound .generic) ∧
      (cs.map (·.name)).Nodup ∧ base.Executable .generic ∧ ¬ Composes .generic cs base := by
  refine ⟨[⟨"a", [], ⟨"SELECT 1 -- one", []⟩⟩], ⟨"SELECT ?", [.int 1]⟩, by decide, by decide, ?_, by decide, ?_, ?_⟩
  · rw [List.forall_mem_singleton]
    exact ⟨⟨by decide, rfl, by decide⟩, by decide, _, rfl⟩
  · exact ⟨rfl, _, rfl⟩
  · rintro ⟨f, _, hf, _⟩
    have hrefused : assembleWith .generic [⟨"a", [], ⟨"SELECT 1 -- one", []⟩⟩] ⟨"SELECT ?", [.int 1]⟩ =
        .error (.parameterMismatch 0 1) := rfl
    rw [hrefused] at hf
    cases hf

end Composition

end SqlBuilder
