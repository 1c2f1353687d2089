import SqlBuilder.Proofs.Pieces.Compiled
import SqlBuilder.Proofs.Values

namespace SqlBuilder

inductive Declares (S : List Piece → Fragment → Fragment → Prop) :
    List Cte → List Declaration → List Declaration → Prop
  | nil : Declares S [] [] []
  | cons {query : Query} {body body' : Fragment} {ctes : List Cte} {cs cs' : List Declaration} (name : String)
      (columns : List String) : S query.pieces body body' → Declares S ctes cs cs' →
      Declares S (⟨name, columns, query⟩ :: ctes) (⟨name, columns, body⟩ :: cs) (⟨name, columns, body'⟩ :: cs')

/-- A relation also speaks of the pieces, and may be asked only of those that are allowed. -/
structure Respected (d d' : Dialect) (σ : Value → Value) (allowed : Piece → Prop)
    (S : List Piece → Fragment → Fragment → Prop) : Prop where
  body (b : SelectBody) : (∀ p ∈ b.pieces, allowed p) →
    Alike (S b.pieces) (b.compile d) ((b.mapValues σ).compile d')
  raw (f : Fragment) : S [.raw f] f (f.mapValues σ)
  assembled {ctes : List Cte} {cs cs' : List Declaration} {ps : List Piece} {base base' : Fragment} :
    Declares S ctes cs cs' → Phrase ps → S ps base base' →
    (∀ p ∈ With.pieces ⟨ctes⟩ ++ .word " " :: ps, allowed p) →
    Alike (S (With.pieces ⟨ctes⟩ ++ .word " " :: ps)) (assembleWith d cs base) (assembleWith d' cs' base')

section Names

variable {σ : Value → Value}

lemma Cte.name_mapValues (cte : Cte) : (cte.mapValues σ).name = cte.name := by
  cases cte
  rfl

lemma With.names_mapValues (w : With) : (w.mapValues σ).names = w.names := by
  obtain ⟨ctes⟩ := w
  have hnames : (mapValuesCtes σ ctes).map Cte.name = ctes.map Cte.name := by
    induction ctes with
    | nil => rfl
    | cons cte ctes ih => rw [mapValuesCtes, List.map_cons, List.map_cons, cte.name_mapValues, ih]
  exact hnames

lemma With.checkSource_mapValues (w : With) (source : Option Source) :
    (w.mapValues σ).checkSource source = w.checkSource source := by
  rw [checkSource.eq_def, checkSource.eq_def, w.names_mapValues]

end Names

variable {d d' : Dialect} {σ : Value → Value} {allowed : Piece → Prop} {S : List Piece → Fragment → Fragment → Prop}

mutual

lemma Query.alike_compile (h : Respected d d' σ allowed S) : ∀ q : Query, (∀ p ∈ q.pieces, allowed p) →
    Alike (S q.pieces) (q.compile d) ((q.mapValues σ).compile d')
  | .select s, hs => s.alike_compile h hs
  | .raw f, _ => .bind_same _ fun _ => h.raw f
  | .fragment f, _ => h.raw f
  | .composed w base, hq =>
    (base.alike_compile h fun p hp => hq p (w.subset_pieces_append _ hp)).bind fun _ _ hbase =>
      w.alike_precede h base.phrase_pieces hbase hq
termination_by structural q => q

lemma Select.alike_compile (h : Respected d d' σ allowed S) : ∀ s : Select, (∀ p ∈ s.pieces, allowed p) →
    Alike (S s.pieces) (s.compile d) ((s.mapValues σ).compile d')
  | ⟨body, none⟩, hs => h.body body hs
  | ⟨body, some w⟩, hs => by
    apply (h.body body fun p hp => hs p (w.subset_pieces_append _ hp)).bind
    intro f f' hf
    have hsource : (w.mapValues σ).checkSource (body.mapValues σ).source = w.checkSource body.source :=
      w.checkSource_mapValues body.source
    rw [hsource]
    exact .bind_same _ fun _ => w.alike_precede h body.phrase_pieces hf hs
termination_by structural s => s

lemma With.alike_precede (h : Respected d d' σ allowed S) : ∀ (w : With) {ps : List Piece} {base base' : Fragment},
    Phrase ps → S ps base base' → (∀ p ∈ w.pieces ++ .word " " :: ps, allowed p) →
    Alike (S (w.pieces ++ .word " " :: ps)) (w.precede d base) ((w.mapValues σ).precede d' base')
  | ⟨ctes⟩, ps, _, _, hps, hbase, hw =>
    (alike_compileCtes h ctes fun p hp => hw p (With.flatten_subset_pieces ctes ps hp)).bind fun _ _ hcs =>
      h.assembled hcs hps hbase hw
termination_by structural w => w

lemma alike_compileCtes (h : Respected d d' σ allowed S) : ∀ ctes : List Cte,
    (∀ p ∈ (ctePieces ctes).flatten, allowed p) →
    Alike (Declares S ctes) (compileCtes d ctes) (compileCtes d' (mapValuesCtes σ ctes))
  | [], _ => .nil
  | cte :: ctes, hctes =>
    (cte.alike_compile h fun p hp => hctes p (List.mem_append_left _ hp)).bind fun _ _ hc =>
      (alike_compileCtes h ctes fun p hp => hctes p (List.mem_append_right _ hp)).bind fun _ _ hcs => hc hcs
termination_by structural ctes => ctes

lemma Cte.alike_compile (h : Respected d d' σ allowed S) : ∀ cte : Cte, (∀ p ∈ cte.pieces, allowed p) →
    Alike (fun c c' => ∀ {ctes : List Cte} {cs cs' : List Declaration}, Declares S ctes cs cs' →
      Declares S (cte :: ctes) (c :: cs) (c' :: cs')) (cte.compile d) ((cte.mapValues σ).compile d')
  | ⟨name, columns, query⟩, hcte =>
    (query.alike_compile h fun p hp => hcte p (Piece.subset_declaration name columns query.pieces hp)).bind
      fun _ _ hbody => fun hcs => .cons name columns hbody hcs
termination_by structural cte => cte

end

end SqlBuilder
