import SqlBuilder.Proofs.Pieces.Compiled

/-!
Markers and values stay aligned. When the pieces that come from outside are tidy, a query fails only for what the caller
asked for, and what compiles can be finished.
-/

namespace SqlBuilder

variable {d : Dialect}

lemma Query.selfContained_of_compile (hd : Mode.isQuote d.quote = true) {q : Query} (hq : ∀ p ∈ q.pieces, p.Tidy)
    {f : Fragment} (h : q.compile d = .ok f) : f.SelfContained := by
  rw [q.yields_compile.value f h]
  exact q.phrase_pieces.selfContained hd hq

theorem Query.aligned_of_tidy (hd : d.quote ∈ ['"', '\'', '\x60']) {q : Query} (hq : ∀ p ∈ q.pieces, p.Tidy) :
    (∀ err, q.compile d = .error err → err.isConfiguration = true) ∧
      (∀ err, q.statement d = .error err → err.isConfiguration = true) ∧
      (∀ f, q.compile d = .ok f → f.SelfContained) ∧
      ((∃ s, q.statement d = .ok s) ↔ ∃ f, q.compile d = .ok f) := by
  have hquote : Mode.isQuote d.quote = true := Identifier.isQuote_of_mem hd
  have hcompile : OnlyFaults (q.compile d) := q.yields_compile.faults hquote hq
  have hself : ∀ f, q.compile d = .ok f → f.SelfContained := fun f hf => q.selfContained_of_compile hquote hq hf
  have hfinish : ∀ f, q.compile d = .ok f → ∃ s, f.finish d = .ok s := fun f hf =>
    ⟨_, (hself f hf).place_eq d.placeholders⟩
  refine ⟨hcompile, ?_, hself, ?_, ?_⟩
  · apply hcompile.bind
    intro f hf
    obtain ⟨s, hs⟩ := hfinish f hf
    rw [hs]
    exact onlyFaults_ok s
  · rintro ⟨s, hs⟩
    obtain ⟨f, hf, _⟩ := bind_eq_ok.mp hs
    exact ⟨f, hf⟩
  · rintro ⟨f, hf⟩
    obtain ⟨s, hs⟩ := hfinish f hf
    exact ⟨s, bind_eq_ok.mpr ⟨f, hf, hs⟩⟩

theorem Query.aligned_of_tidy_marker_in_name :
    let item : Projection := (Expr.window ⟨.ntile, [.value (.int 4)], .empty⟩).item
    let base : SelectBody := { SelectBody.empty with projection := [item], source := some (.cte "t?") }
    let q : Query := .composed ⟨[⟨"t?", [], .raw ⟨"SELECT ?", [.int 1]⟩⟩]⟩ (.select ⟨base, none⟩)
    .identifier "t?" ∈ q.pieces ∧ (∀ p ∈ q.pieces, p.Tidy) ∧
      (∀ err, q.statement .postgres = .error err → err.isConfiguration = true) ∧
      (∀ f, q.compile .postgres = .ok f → f.SelfContained) := by
  intro item base q
  have hname : .identifier "t?" ∈ q.pieces := .tail _ (.head _)
  have hq : ∀ p ∈ q.pieces, p.Tidy := by decide
  have haligned := Query.aligned_of_tidy (d := .postgres) (by decide) hq
  exact ⟨hname, hq, haligned.2.1, haligned.2.2.1⟩

end SqlBuilder
