import SqlBuilder.Proofs.Pieces.Related

/-!
A query under two dialects. When the pieces that come from outside are tidy, both dialects accept it with the same
values or both refuse it for the same fault.
-/

namespace SqlBuilder

open Emitter

namespace Identifier

lemma isBlankChar_of_isBareStart {c : Char} (h : isBareStart c = true) : Text.isBlankChar c = false := by
  have hrange : 95 ≤ c.toNat ∧ c.toNat ≤ 122 := by
    simp only [isBareStart, Bool.or_eq_true, decide_eq_true_eq] at h
    rcases h with hlower | rfl
    · obtain ⟨hl, hu⟩ := Bool.and_eq_true_iff.mp hlower
      have hleast : 97 ≤ c.toNat := of_decide_eq_true hl
      have hgreatest : c.toNat ≤ 122 := of_decide_eq_true hu
      omega
    · decide
  simp only [Text.isBlankChar, Text.blankRanges, List.any_cons, List.any_nil, Bool.or_eq_false_iff,
    Bool.and_eq_false_iff, decide_eq_false_iff_not, and_true]
  omega

lemma isBlank_of_isBare {name : String} (h : isBare name = true) : Text.isBlank name = false := by
  rw [isBare, Bool.and_eq_true] at h
  rw [Text.isBlank]
  cases hc : name.toList with
  | nil => simp [hc, isPlain] at h
  | cons c cs =>
    simp only [hc, isPlain, Bool.and_eq_true] at h
    rw [List.all_cons, isBlankChar_of_isBareStart h.1.1, Bool.false_and]

lemma isBlank_enclose {q : Char} (hq : Mode.isQuote q = true) (name : List Char) :
    Text.isBlank (String.ofList (enclose q name)) = false := by
  have hblank : Text.isBlankChar q = false := by
    have hc : q = '\'' ∨ q = '"' ∨ q = '\x60' := by simpa [Mode.isQuote, or_assoc] using hq
    rcases hc with rfl | rfl | rfl <;> decide
  simp [Text.isBlank, enclose, hblank]

end Identifier

def Concur {α : Type} (v v' : α) (ps : List Piece) (x x' : Except BuildError α) : Prop :=
  (∀ p ∈ ps, p.Tidy) → Alike (fun a a' => a = v ∧ a' = v') x x'

section Concur

variable {α β : Type} {v v' : α} {w w' : β} {ps : List Piece}

lemma concur_ok (v v' : α) (ps : List Piece) : Concur v v' ps (.ok v) (.ok v') :=
  fun _ => ⟨rfl, rfl⟩

lemma concur_check (r : Except BuildError Unit) (ps : List Piece) : Concur () () ps r r := by
  intro _
  cases r with
  | error err => exact rfl
  | ok _ => exact ⟨rfl, rfl⟩

lemma Concur.mono {x x' : Except BuildError α} {qs : List Piece} (h : Concur v v' ps x x') (hsub : ps ⊆ qs) :
    Concur v v' qs x x' :=
  fun ht => h fun p hp => ht p (hsub hp)

lemma Concur.bind {x x' : Except BuildError α} {k k' : α → Except BuildError β} (hx : Concur v v' ps x x')
    (hk : Concur w w' ps (k v) (k' v')) : Concur w w' ps (x >>= k) (x' >>= k') := by
  intro ht
  apply (hx ht).bind
  rintro _ _ ⟨rfl, rfl⟩
  exact hk ht

lemma Concur.map {x x' : Except BuildError α} (hx : Concur v v' ps x x') (f f' : α → β) :
    Concur (f v) (f' v') ps (x.map f) (x'.map f') := by
  intro ht
  apply (hx ht).map
  rintro _ _ ⟨rfl, rfl⟩
  exact ⟨rfl, rfl⟩

end Concur

section Pair

variable {d d' : Dialect}

def Emitter.Concurs (d d' : Dialect) (e e' : Emitter) (ps : List Piece) : Prop :=
  ∀ out out', Concur (out ++ Piece.fragments d ps) (out' ++ Piece.fragments d' ps) ps (e out) (e' out')

namespace Emitter

lemma Concurs.run {e e' : Emitter} {ps : List Piece} (h : Concurs d d' e e' ps) :
    Concur (Piece.fragments d ps) (Piece.fragments d' ps) ps e.run e'.run := by
  have hempty := h .empty .empty
  rwa [Fragment.empty_append, Fragment.empty_append] at hempty

lemma Concurs.andThen {e e' f f' : Emitter} {ps qs : List Piece} (he : Concurs d d' e e' ps)
    (hf : Concurs d d' f f' qs) : Concurs d d' (e >=> f) (e' >=> f') (ps ++ qs) := by
  intro out out'
  have hfirst := (he out out').mono (List.subset_append_left ps qs)
  have hsecond := (hf (out ++ Piece.fragments d ps) (out' ++ Piece.fragments d' ps)).mono
    (List.subset_append_right ps qs)
  rw [Fragment.append_assoc, Fragment.append_assoc, ← Piece.fragments_append, ← Piece.fragments_append] at hsecond
  exact hfirst.bind hsecond

lemma concurs_nothing : Concurs d d' nothing nothing [] := by
  intro out out'
  rw [Piece.fragments, Piece.fragments, Fragment.append_empty, Fragment.append_empty]
  exact concur_ok out out' []

lemma concurs_check (r : Except BuildError Unit) : Concurs d d' (check r) (check r) [] := by
  intro out out'
  rw [Piece.fragments, Piece.fragments, Fragment.append_empty, Fragment.append_empty]
  exact (concur_check r []).map (fun _ => out) fun _ => out'

lemma concurs_result {x x' : Except BuildError Fragment} {ps : List Piece}
    (h : Concur (Piece.fragments d ps) (Piece.fragments d' ps) ps x x') : Concurs d d' (result x) (result x') ps :=
  fun out out' => h.map (out ++ ·) (out' ++ ·)

lemma concurs_fragment (d d' : Dialect) (ps : List Piece) :
    Concurs d d' (fragment (Piece.fragments d ps)) (fragment (Piece.fragments d' ps)) ps :=
  concurs_result (concur_ok _ _ ps)

lemma concurs_piece (p : Piece) : Concurs d d' (fragment (p.fragment d)) (fragment (p.fragment d')) [p] := by
  have hp := concurs_fragment d d' [p]
  rwa [Piece.fragments_singleton, Piece.fragments_singleton] at hp

lemma concurs_words (ss : List String) :
    Concurs d d' (text (String.join ss)) (text (String.join ss)) (ss.map .word) := by
  have hw := concurs_fragment d d' (ss.map .word)
  rwa [Piece.fragments_words, Piece.fragments_words] at hw

lemma concurs_frame (f : Frame) :
    Concurs d d' (result (f.render.map .ofText)) (result (f.render.map .ofText)) [.word f.text] := by
  apply concurs_result
  rw [Piece.fragments_singleton, Piece.fragments_singleton]
  have hrender : Concur f.text f.text [.word f.text] f.render f.render :=
    (concur_check f.validate _).bind (concur_ok f.text f.text _)
  exact hrender.map Fragment.ofText Fragment.ofText

end Emitter

lemma Declares.eq_declared {ctes : List Cte} {cs cs' : List Declaration}
    (h : Declares (fun ps f f' => f = Piece.fragments d ps ∧ f' = Piece.fragments d' ps) ctes cs cs') :
    cs = ctes.map (Cte.declared d) ∧ cs' = ctes.map (Cte.declared d') := by
  induction h with
  | nil => exact ⟨rfl, rfl⟩
  | cons _ _ hbody _ ih =>
    rw [hbody.1, hbody.2, ih.1, ih.2]
    exact ⟨rfl, rfl⟩

section Quotes

variable (hd : Mode.isQuote d.quote = true) (hd' : Mode.isQuote d'.quote = true)

include hd hd'

lemma Emitter.concurs_identifier (name : String) :
    Concurs d d' (identifier d name) (identifier d' name) [.identifier name] := by
  intro out out'
  rw [Piece.fragments_singleton, Piece.fragments_singleton, identifier, identifier, d.identifier_eq_spelling hd,
    d'.identifier_eq_spelling hd']
  exact concur_ok _ _ _

lemma Concur.aligned {x x' : Except BuildError Fragment} {ps : List Piece} (hps : Phrase ps)
    (hx : Concur (Piece.fragments d ps) (Piece.fragments d' ps) ps x x') :
    Concur (Piece.fragments d ps) (Piece.fragments d' ps) ps (aligned x) (aligned x') := by
  apply hx.bind
  intro ht
  rw [(hps.selfContained hd ht).checkAligned_eq, (hps.selfContained hd' ht).checkAligned_eq]
  exact ⟨rfl, rfl⟩

lemma parametric_concurs : Parametric d d' id (Concurs d d') where
  silent := concurs_nothing
  andThen := Concurs.andThen
  guarded _ := concurs_check _
  words := concurs_words
  function name := concurs_piece (.function name)
  identifier := concurs_identifier hd hd'
  value v := concurs_piece (.value v)
  raw f := by
    rw [f.mapValues_id]
    exact concurs_piece (.raw f)
  frame := concurs_frame
  aligned hps he := concurs_result (he.run.aligned hd hd' hps)

lemma SelectBody.concur_compile (b : SelectBody) :
    Concur (Piece.fragments d b.pieces) (Piece.fragments d' b.pieces) b.pieces (b.compile d) (b.compile d') := by
  have hemit := (parametric_concurs hd hd').selectBody b
  rw [b.mapValues_id] at hemit
  exact hemit.run

lemma Piece.isBlank_fragments (ps : List Piece) : (fragments d ps).isBlank = (fragments d' ps).isBlank := by
  have hvisible : ∀ {d : Dialect}, Mode.isQuote d.quote = true → ∀ name, Text.isBlank (d.spelling name) = false := by
    intro d hd name
    rcases d.identifier_eq hd name with ⟨hb, h⟩ | h
    · rw [Dialect.spelling, h]
      exact Identifier.isBlank_of_isBare hb
    · rw [Dialect.spelling, h]
      exact Identifier.isBlank_enclose hd _
  induction ps with
  | nil => rfl
  | cons p ps ih =>
    have hp : (p.fragment d).isBlank = (p.fragment d').isBlank := by
      cases p with
      | identifier name => exact (hvisible hd name).trans (hvisible hd' name).symm
      | _ => rfl
    rw [fragments, fragments, Fragment.isBlank_append, Fragment.isBlank_append, hp, ih]

lemma Declaration.validateAll_declared (earlier : List String) (ctes : List Cte) :
    validateAll earlier (ctes.map (Cte.declared d)) = validateAll earlier (ctes.map (Cte.declared d')) := by
  induction ctes generalizing earlier with
  | nil => rfl
  | cons cte ctes ih =>
    have hbody : (cte.declared d).body.isBlank = (cte.declared d').body.isBlank :=
      Piece.isBlank_fragments hd hd' cte.query.pieces
    have hcte : (cte.declared d).validate earlier = (cte.declared d').validate earlier := by
      rw [validate, validate, hbody]
      rfl
    rw [List.map_cons, List.map_cons, validateAll, validateAll, hcte]
    exact congrArg ((cte.declared d').validate earlier >>= ·) (funext fun _ => ih (earlier ++ [cte.name]))

lemma concur_assembleWith (ctes : List Cte) {ps : List Piece} (hps : Phrase ps) :
    Concur (Piece.fragments d (With.pieces ⟨ctes⟩ ++ .word " " :: ps))
      (Piece.fragments d' (With.pieces ⟨ctes⟩ ++ .word " " :: ps)) (With.pieces ⟨ctes⟩ ++ .word " " :: ps)
      (assembleWith d (ctes.map (Cte.declared d)) (Piece.fragments d ps))
      (assembleWith d' (ctes.map (Cte.declared d')) (Piece.fragments d' ps)) := by
  have hcs := (parametric_concurs hd hd').declared (concurs_fragment d d') ctes
  have hemit : Concurs d d' (emitWith d (ctes.map (Cte.declared d)) (Piece.fragments d ps))
      (emitWith d' (ctes.map (Cte.declared d')) (Piece.fragments d' ps)) (With.pieces ⟨ctes⟩ ++ .word " " :: ps) :=
    (parametric_concurs hd hd').emitWith _ _ _ _ _ ps hcs (concurs_fragment d d' ps)
  have hwhole : Phrase (With.pieces ⟨ctes⟩ ++ .word " " :: ps) :=
    .join rfl (With.phrase_pieces ⟨ctes⟩) hps
  rw [assembleWith, assembleWith, List.isEmpty_map, List.isEmpty_map, Piece.isBlank_fragments hd hd' ps,
    Declaration.validateAll_declared hd hd' [] ctes]
  exact (concur_check _ _).bind <| (concur_check _ _).bind <| (concur_check _ _).bind <|
    hemit.run.aligned hd hd' hwhole

lemma respected_concur : Respected d d' id Piece.Tidy fun ps f f' =>
    f = Piece.fragments d ps ∧ f' = Piece.fragments d' ps where
  body b hb := by
    rw [b.mapValues_id]
    exact b.concur_compile hd hd' hb
  raw f := by
    rw [f.mapValues_id, Piece.fragments_singleton, Piece.fragments_singleton]
    exact ⟨rfl, rfl⟩
  assembled hcs hps hbase hall := by
    obtain ⟨rfl, rfl⟩ := hbase
    obtain ⟨rfl, rfl⟩ := hcs.eq_declared
    exact concur_assembleWith hd hd' _ hps hall

lemma Query.concur_compile (q : Query) :
    Concur (Piece.fragments d q.pieces) (Piece.fragments d' q.pieces) q.pieces (q.compile d) (q.compile d') := by
  intro hq
  have hwalk := q.alike_compile (respected_concur hd hd') hq
  rwa [q.mapValues_id] at hwalk

lemma Query.concur_statement (q : Query) :
    Concur ⟨String.ofList (Mode.code.placeMarkers d.placeholders 1 (Piece.fragments d q.pieces).sql.toList),
        q.pieces.flatMap Piece.values⟩
      ⟨String.ofList (Mode.code.placeMarkers d'.placeholders 1 (Piece.fragments d' q.pieces).sql.toList),
        q.pieces.flatMap Piece.values⟩ q.pieces (q.statement d) (q.statement d') := by
  apply (q.concur_compile hd hd').bind
  intro ht
  have hself := q.phrase_pieces.selfContained hd ht
  have hself' := q.phrase_pieces.selfContained hd' ht
  rw [Fragment.finish, Fragment.finish, hself.place_eq, hself'.place_eq, Piece.fragments_params,
    Piece.fragments_params]
  exact ⟨rfl, rfl⟩

end Quotes

end Pair

theorem Query.alike_under_dialects {d d' : Dialect} (hd : d.quote ∈ ['"', '\'', '\x60'])
    (hd' : d'.quote ∈ ['"', '\'', '\x60']) {q : Query} (hq : ∀ p ∈ q.pieces, p.Tidy) :
    Alike (fun f f' => f.params = f'.params) (q.compile d) (q.compile d') ∧
      Alike (fun s s' => s.params = s'.params) (q.statement d) (q.statement d') ∧
      (∀ err, q.compile d = .error err → err.isConfiguration = true) ∧
      (∀ err, q.statement d = .error err → err.isConfiguration = true) := by
  have hquote : Mode.isQuote d.quote = true := Identifier.isQuote_of_mem hd
  have hquote' : Mode.isQuote d'.quote = true := Identifier.isQuote_of_mem hd'
  have hcompile : OnlyFaults (q.compile d) := q.yields_compile.faults hquote hq
  refine ⟨?_, ?_, hcompile, ?_⟩
  · refine (q.concur_compile hquote hquote' hq).imp ?_
    rintro _ _ ⟨rfl, rfl⟩
    rw [Piece.fragments_params, Piece.fragments_params]
  · refine (q.concur_statement hquote hquote' hq).imp ?_
    rintro _ _ ⟨rfl, rfl⟩
    rfl
  · apply hcompile.bind
    intro f hf
    obtain rfl := q.yields_compile.value f hf
    rw [Fragment.finish, (q.phrase_pieces.selfContained hquote hq).place_eq]
    exact onlyFaults_ok _

theorem Query.alike_under_dialects_quotes_in_name :
    let items : List Projection := [(Expr.column (.bare "a\"\x60")).item, (Expr.value (.int 7)).item]
    let body : SelectBody := { SelectBody.empty with projection := items }
    let q : Query := .select ⟨body, none⟩
    .identifier "a\"\x60" ∈ q.pieces ∧ (∀ p ∈ q.pieces, p.Tidy) ∧
      q.compile .generic = .ok ⟨"SELECT \"a\"\"\x60\", ?", [.int 7]⟩ ∧
      Alike (fun f f' => f.params = f'.params) (q.compile .generic) (q.compile .mysql) := by
  intro items body q
  have hname : .identifier "a\"\x60" ∈ q.pieces := .tail _ (.head _)
  have hq : ∀ p ∈ q.pieces, p.Tidy := by decide
  exact ⟨hname, hq, rfl, (Query.alike_under_dialects (d := .generic) (by decide) (by decide) hq).1⟩

end SqlBuilder
