import SqlBuilder.Proofs.Lexical.SelfContained
import SqlBuilder.Proofs.Pieces.Parametric
import SqlBuilder.Query.Compile

/-!
What a query compiles to, and for which reasons it may fail. A success is the text of its pieces; when the pieces that
come from outside are tidy, no check of assembled text can fail.
-/

namespace SqlBuilder

open Emitter

/-- The only possible success, and the only possible failures when these pieces are tidy. -/
structure Yields {α : Type} (d : Dialect) (x : Except BuildError α) (v : α) (ps : List Piece) : Prop where
  value : ∀ a, x = .ok a → a = v
  faults : Mode.isQuote d.quote = true → (∀ p ∈ ps, p.Tidy) → OnlyFaults x

section Yields

variable {α β : Type} {d : Dialect}

lemma yields_ok (v : α) (ps : List Piece) : Yields d (.ok v) v ps :=
  ⟨fun _ h => (Except.ok.inj h).symm, fun _ _ => onlyFaults_ok v⟩

lemma yields_check {r : Except BuildError Unit} (hr : OnlyFaults r) (ps : List Piece) : Yields d r () ps :=
  ⟨fun _ _ => rfl, fun _ _ => hr⟩

lemma Yields.mono {x : Except BuildError α} {v : α} {ps qs : List Piece} (h : Yields d x v ps) (hsub : ps ⊆ qs) :
    Yields d x v qs :=
  ⟨h.value, fun hd ht => h.faults hd fun p hp => ht p (hsub hp)⟩

lemma Yields.bind {x : Except BuildError α} {k : α → Except BuildError β} {v : α} {w : β} {ps : List Piece}
    (hx : Yields d x v ps) (hk : Yields d (k v) w ps) : Yields d (x >>= k) w ps := by
  constructor
  · intro b hb
    obtain ⟨a, ha, hb⟩ := bind_eq_ok.mp hb
    obtain rfl := hx.value a ha
    exact hk.value b hb
  · intro hd ht
    apply (hx.faults hd ht).bind
    intro a ha
    obtain rfl := hx.value a ha
    exact hk.faults hd ht

lemma Yields.map {x : Except BuildError α} {v : α} {ps : List Piece} (hx : Yields d x v ps) (f : α → β) :
    Yields d (x.map f) (f v) ps := by
  constructor
  · intro b hb
    obtain ⟨a, ha, rfl⟩ := map_eq_ok.mp hb
    rw [hx.value a ha]
  · exact fun hd ht => (hx.faults hd ht).map f

lemma Yields.aligned {x : Except BuildError Fragment} {ps : List Piece} (hps : Phrase ps)
    (hx : Yields d x (Piece.fragments d ps) ps) : Yields d (aligned x) (Piece.fragments d ps) ps := by
  constructor
  · intro f hf
    obtain ⟨g, hg, hf⟩ := bind_eq_ok.mp hf
    obtain ⟨_, _, hf⟩ := bind_eq_ok.mp hf
    rw [← Except.ok.inj hf]
    exact hx.value g hg
  · intro hd ht
    apply (hx.faults hd ht).bind
    intro f hf
    obtain rfl := hx.value f hf
    rw [(hps.selfContained hd ht).checkAligned_eq]
    exact onlyFaults_ok _

end Yields

namespace Emitter

def Writes (d : Dialect) (e : Emitter) (ps : List Piece) : Prop :=
  ∀ out, Yields d (e out) (out ++ Piece.fragments d ps) ps

variable {d : Dialect}

lemma Writes.run {e : Emitter} {ps : List Piece} (he : Writes d e ps) : Yields d e.run (Piece.fragments d ps) ps := by
  have hempty := he .empty
  rwa [Fragment.empty_append] at hempty

lemma Writes.andThen {e f : Emitter} {ps qs : List Piece} (he : Writes d e ps) (hf : Writes d f qs) :
    Writes d (e >=> f) (ps ++ qs) := by
  intro out
  have hfirst := (he out).mono (List.subset_append_left ps qs)
  have hsecond := (hf (out ++ Piece.fragments d ps)).mono (List.subset_append_right ps qs)
  rw [Fragment.append_assoc, ← Piece.fragments_append] at hsecond
  exact hfirst.bind hsecond

lemma writes_nothing : Writes d nothing [] := by
  intro out
  rw [Piece.fragments, Fragment.append_empty]
  exact yields_ok out []

lemma writes_result {x : Except BuildError Fragment} {ps : List Piece} (hx : Yields d x (Piece.fragments d ps) ps) :
    Writes d (result x) ps :=
  fun out => hx.map (out ++ ·)

lemma writes_fragment (d : Dialect) (ps : List Piece) : Writes d (fragment (Piece.fragments d ps)) ps :=
  writes_result (yields_ok _ ps)

lemma writes_piece (p : Piece) : Writes d (fragment (p.fragment d)) [p] := by
  rw [← Piece.fragments_singleton]
  exact writes_fragment d [p]

lemma writes_words (ss : List String) : Writes d (text (String.join ss)) (ss.map .word) := by
  have hw := writes_fragment d (ss.map .word)
  rwa [Piece.fragments_words] at hw

lemma writes_check {r : Except BuildError Unit} (hr : OnlyFaults r) : Writes d (check r) [] := by
  intro out
  rw [Piece.fragments, Fragment.append_empty]
  exact (yields_check hr []).map fun _ => out

lemma writes_identifier (name : String) : Writes d (identifier d name) [.identifier name] := by
  intro out
  have hname : Yields d (d.identifier name) (d.spelling name) [.identifier name] := by
    constructor
    · intro s hs
      rw [Dialect.spelling, hs]
    · intro hd _
      rw [d.identifier_eq_spelling hd]
      exact onlyFaults_ok _
  rw [Piece.fragments_singleton]
  exact hname.map out.pushText

lemma writes_frame (f : Frame) : Writes d (result (f.render.map .ofText)) [.word f.text] := by
  apply writes_result
  have hrender : Yields d f.render f.text [.word f.text] :=
    (yields_check f.onlyFaults_validate _).bind (yields_ok f.text _)
  rw [Piece.fragments_singleton]
  exact hrender.map Fragment.ofText

lemma parametric_writes (d : Dialect) : Parametric d d id fun e _ ps => Writes d e ps where
  silent := writes_nothing
  andThen := Writes.andThen
  guarded := writes_check
  words := writes_words
  function name := writes_piece (.function name)
  identifier := writes_identifier
  value v := writes_piece (.value v)
  raw f := writes_piece (.raw f)
  frame := writes_frame
  aligned hps he := writes_result (he.run.aligned hps)

end Emitter

variable {d : Dialect}

lemma SelectBody.yields_compile (b : SelectBody) : Yields d (b.compile d) (Piece.fragments d b.pieces) b.pieces :=
  ((parametric_writes d).selectBody b).run

def Cte.declared (d : Dialect) (cte : Cte) : Declaration :=
  ⟨cte.name, cte.columns, Piece.fragments d cte.query.pieces⟩

lemma Parametric.declared {d' : Dialect} {σ : Value → Value} {R : Emitter → Emitter → List Piece → Prop}
    (h : Parametric d d' σ R)
    (hbody : ∀ ps, R (fragment (Piece.fragments d ps)) (fragment (Piece.fragments d' ps)) ps) (ctes : List Cte) :
    Pointwise R ((ctes.map (Cte.declared d)).map (·.emit d)) ((ctes.map (Cte.declared d')).map (·.emit d'))
      (ctePieces ctes) := by
  induction ctes with
  | nil => exact .nil
  | cons cte ctes ih =>
    cases cte with
    | mk name columns query =>
      let c (d : Dialect) : Declaration := ⟨name, columns, Piece.fragments d query.pieces⟩
      exact .cons (h.declaration (c d) (c d') query.pieces rfl rfl (hbody query.pieces)) ih

lemma Declaration.onlyFaults_validateAll (earlier : List String) (cs : List Declaration) :
    OnlyFaults (validateAll earlier cs) := by
  induction cs generalizing earlier with
  | nil => exact onlyFaults_ok ()
  | cons c cs ih =>
    have hvalidate : OnlyFaults (c.validate earlier) :=
      (onlyFaults_require _ _).bind fun _ _ => (onlyFaults_require _ _).bind fun _ _ =>
        (onlyFaults_require _ _).bind fun _ _ => onlyFaults_require _ _
    exact hvalidate.bind fun _ _ => ih (earlier ++ [c.name])

lemma yields_assembleWith (ctes : List Cte) {ps : List Piece} (hps : Phrase ps) :
    Yields d (assembleWith d (ctes.map (Cte.declared d)) (Piece.fragments d ps))
      (Piece.fragments d (With.pieces ⟨ctes⟩ ++ .word " " :: ps)) (With.pieces ⟨ctes⟩ ++ .word " " :: ps) := by
  have hcs := (parametric_writes d).declared (writes_fragment d) ctes
  have hemit : Writes d (emitWith d (ctes.map (Cte.declared d)) (Piece.fragments d ps))
      (With.pieces ⟨ctes⟩ ++ .word " " :: ps) :=
    (parametric_writes d).emitWith _ _ _ (Piece.fragments d ps) _ ps hcs (writes_fragment d ps)
  have hwhole : Phrase (With.pieces ⟨ctes⟩ ++ .word " " :: ps) :=
    .join rfl (With.phrase_pieces ⟨ctes⟩) hps
  apply (yields_check (onlyFaults_require _ _) _).bind
  apply (yields_check (onlyFaults_require _ _) _).bind
  apply (yields_check (Declaration.onlyFaults_validateAll [] _) _).bind
  exact hemit.run.aligned hwhole

lemma With.onlyFaults_checkSource (w : With) (source : Option Source) : OnlyFaults (w.checkSource source) := by
  rw [checkSource.eq_def]
  split
  · exact onlyFaults_require _ _
  · exact onlyFaults_ok ()

lemma With.flatten_subset_pieces (ctes : List Cte) (ps : List Piece) :
    (ctePieces ctes).flatten ⊆ With.pieces ⟨ctes⟩ ++ .word " " :: ps := by
  intro p hp
  obtain ⟨qs, hqs, hp⟩ := List.mem_flatten.mp hp
  exact List.mem_append_left _ (List.mem_cons_of_mem _ (Piece.mem_joined hqs hp))

lemma Piece.subset_declaration (cte : String) (columns : List String) (body : List Piece) :
    body ⊆ declaration cte columns body := by
  intro p hp
  simp [declaration, group, hp]

lemma With.subset_pieces_append (w : With) (ps : List Piece) : ps ⊆ w.pieces ++ .word " " :: ps :=
  List.subset_append_of_subset_right w.pieces (List.subset_cons_self _ ps)

mutual

lemma Query.yields_compile : ∀ q : Query, Yields d (q.compile d) (Piece.fragments d q.pieces) q.pieces
  | .select s => s.yields_compile
  | .raw f => by
    rw [Query.pieces, Piece.fragments_singleton]
    exact (yields_check (onlyFaults_require _ _) _).bind (yields_ok f _)
  | .fragment f => by
    rw [Query.pieces, Piece.fragments_singleton]
    exact yields_ok f _
  | .composed w base => by
    have hbase := base.yields_compile.mono (w.subset_pieces_append _)
    exact hbase.bind (w.yields_precede base.phrase_pieces)
termination_by structural q => q

lemma Select.yields_compile : ∀ s : Select, Yields d (s.compile d) (Piece.fragments d s.pieces) s.pieces
  | ⟨body, none⟩ => body.yields_compile
  | ⟨body, some w⟩ => by
    have hbody := (body.yields_compile (d := d)).mono (w.subset_pieces_append _)
    apply hbody.bind
    exact (yields_check (w.onlyFaults_checkSource body.source) _).bind (w.yields_precede body.phrase_pieces)
termination_by structural s => s

lemma With.yields_precede : ∀ w : With, ∀ {ps : List Piece}, Phrase ps →
    Yields d (w.precede d (Piece.fragments d ps)) (Piece.fragments d (w.pieces ++ .word " " :: ps))
      (w.pieces ++ .word " " :: ps)
  | ⟨ctes⟩, ps, hps =>
    ((yields_compileCtes ctes).mono (With.flatten_subset_pieces ctes ps)).bind (yields_assembleWith ctes hps)
termination_by structural w => w

lemma yields_compileCtes : ∀ ctes : List Cte,
    Yields d (compileCtes d ctes) (ctes.map (Cte.declared d)) (ctePieces ctes).flatten
  | [] => yields_ok [] _
  | cte :: ctes => by
    have hcte := cte.yields_compile.mono (List.subset_append_left cte.pieces (ctePieces ctes).flatten)
    have hctes := (yields_compileCtes ctes).mono (List.subset_append_right cte.pieces (ctePieces ctes).flatten)
    exact hcte.bind (hctes.bind (yields_ok _ _))
termination_by structural ctes => ctes

lemma Cte.yields_compile : ∀ cte : Cte, Yields d (cte.compile d) (cte.declared d) cte.pieces
  | ⟨name, columns, query⟩ =>
    (query.yields_compile.mono (Piece.subset_declaration name columns query.pieces)).bind (yields_ok _ _)
termination_by structural cte => cte

end

end SqlBuilder
