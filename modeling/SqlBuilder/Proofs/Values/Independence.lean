import SqlBuilder.Proofs.Pieces.Related

/-!
Values do not influence the text. Compiling commutes with replacing values, in failure as in success, so queries that
differ only in their values compile alike.
-/

namespace SqlBuilder

variable {σ : Value → Value} {d : Dialect}

namespace Fragment

lemma mapValues_append (f g : Fragment) : (f ++ g).mapValues σ = f.mapValues σ ++ g.mapValues σ := by
  ext <;> simp [mapValues]

lemma place_mapValues (style : PlaceholderStyle) (f : Fragment) :
    (f.mapValues σ).place style = (f.place style).map fun s => ⟨s.sql, s.params.map σ⟩ := by
  apply bind_same
  rintro ⟨sql, markers⟩
  have hlength : (f.mapValues σ).params.length = f.params.length := List.length_map σ
  by_cases h : markers = f.params.length
  · simp only [hlength, h, if_true]
    rfl
  · simp only [hlength, h, if_false]
    rfl

lemma checkAligned_mapValues (f : Fragment) : (f.mapValues σ).checkAligned = f.checkAligned := by
  rw [checkAligned, checkAligned, place_mapValues]
  cases f.place .question <;> rfl

end Fragment

lemma aligned_map (r : Except BuildError Fragment) :
    aligned (r.map (Fragment.mapValues σ)) = (aligned r).map (Fragment.mapValues σ) := by
  apply bind_map rfl
  intro f
  rw [f.checkAligned_mapValues]
  exact bind_same fun _ => rfl

namespace Emitter

def Follows (σ : Value → Value) (e e' : Emitter) : Prop :=
  ∀ out : Fragment, e' (out.mapValues σ) = (e out).map (Fragment.mapValues σ)

lemma follows_nothing : Follows σ nothing nothing := fun _ => rfl

lemma follows_text (s : String) : Follows σ (text s) (text s) := by
  intro out
  apply congrArg Except.ok
  exact (Fragment.mapValues_append out (.ofText s)).symm

lemma follows_value (v : Value) : Follows σ (value v) (value (σ v)) := by
  intro out
  apply congrArg Except.ok
  exact (Fragment.mapValues_append out (.ofValue v)).symm

lemma follows_result {r r' : Except BuildError Fragment} (h : r' = r.map (Fragment.mapValues σ)) :
    Follows σ (result r) (result r') := by
  intro out
  subst h
  cases r with
  | error err => rfl
  | ok f => exact congrArg Except.ok (Fragment.mapValues_append out f).symm

lemma follows_fragment (f : Fragment) : Follows σ (fragment f) (fragment (f.mapValues σ)) :=
  follows_result rfl

lemma follows_check (r : Except BuildError Unit) : Follows σ (check r) (check r) := by
  intro out
  cases r <;> rfl

lemma follows_identifier (name : String) : Follows σ (identifier d name) (identifier d name) := by
  intro out
  rw [identifier, identifier]
  cases d.identifier name with
  | error err => rfl
  | ok s => exact follows_text s out

lemma Follows.andThen {e e' f f' : Emitter} (he : Follows σ e e') (hf : Follows σ f f') :
    Follows σ (e >=> f) (e' >=> f') :=
  fun out => bind_map (he out) hf

lemma Follows.run {e e' : Emitter} (h : Follows σ e e') : e'.run = e.run.map (Fragment.mapValues σ) :=
  h .empty

end Emitter

open Emitter

lemma parametric_follows (σ : Value → Value) (d : Dialect) : Parametric d d σ fun e e' _ => Follows σ e e' where
  silent := follows_nothing
  andThen := Follows.andThen
  guarded _ := follows_check _
  words _ := follows_text _
  function name := follows_text name
  identifier := follows_identifier
  value := follows_value
  raw := follows_fragment
  frame f := follows_result (by cases f.render <;> rfl)
  aligned _ he := follows_result (by rw [he.run, aligned_map])

lemma SelectBody.compile_mapValues (b : SelectBody) :
    (b.mapValues σ).compile d = (b.compile d).map (Fragment.mapValues σ) :=
  ((parametric_follows σ d).selectBody b).run

namespace Declaration

def mapValues (σ : Value → Value) (c : Declaration) : Declaration := { c with body := c.body.mapValues σ }

lemma validateAll_mapValues (earlier : List String) (cs : List Declaration) :
    validateAll earlier (cs.map (mapValues σ)) = validateAll earlier cs := by
  induction cs generalizing earlier with
  | nil => rfl
  | cons c cs ih => exact congrArg (c.validate earlier >>= ·) (funext fun _ => ih (earlier ++ [c.name]))

end Declaration

lemma assembleWith_mapValues (cs : List Declaration) (base : Fragment) :
    assembleWith d (cs.map (Declaration.mapValues σ)) (base.mapValues σ) =
      (assembleWith d cs base).map (Fragment.mapValues σ) := by
  have hemit : Follows σ (emitWith d cs base)
      (emitWith d (cs.map (Declaration.mapValues σ)) (base.mapValues σ)) := by
    have hcs : Parametric.Pointwise (fun e e' _ => Follows σ e e') (cs.map (·.emit d))
        ((cs.map (Declaration.mapValues σ)).map (·.emit d))
        (cs.map fun c => Piece.declaration c.name c.columns []) := by
      rw [List.map_map]
      refine .map (fun c => ?_) cs
      exact (parametric_follows σ d).declaration c (c.mapValues σ) [] rfl rfl (follows_fragment c.body)
    exact (parametric_follows σ d).emitWith cs _ base _ _ [] hcs (follows_fragment base)
  rw [assembleWith, assembleWith, List.isEmpty_map, Declaration.validateAll_mapValues, hemit.run, aligned_map]
  exact bind_same fun _ => bind_same fun _ => bind_same fun _ => rfl

lemma Declares.eq_map {ctes : List Cte} {cs cs' : List Declaration}
    (h : Declares (fun _ f f' => f' = f.mapValues σ) ctes cs cs') : cs' = cs.map (Declaration.mapValues σ) := by
  induction h with
  | nil => rfl
  | cons _ _ hbody _ ih =>
    rw [hbody, ih]
    rfl

lemma respected_mapValues (σ : Value → Value) (d : Dialect) :
    Respected d d σ (fun _ => True) fun _ f f' => f' = f.mapValues σ where
  body b _ := alike_map_iff.mpr b.compile_mapValues
  raw _ := rfl
  assembled hcs _ hbase _ := by
    subst hbase
    rw [alike_map_iff, hcs.eq_map, assembleWith_mapValues]

lemma Query.compile_mapValues (q : Query) : (q.mapValues σ).compile d = (q.compile d).map (Fragment.mapValues σ) :=
  alike_map_iff.mp (q.alike_compile (respected_mapValues σ d) fun _ _ => trivial)

lemma Query.statement_mapValues (q : Query) :
    (q.mapValues σ).statement d = (q.statement d).map fun s => ⟨s.sql, s.params.map σ⟩ :=
  bind_map q.compile_mapValues fun f => f.place_mapValues d.placeholders

structure Query.Corresponding (q q' : Query) (vs vs' : List Value) : Prop where
  left : vs = q.pieces.flatMap Piece.values
  right : vs' = q'.pieces.flatMap Piece.values
  same_place : List.Forall₂ (Piece.SamePlace q.pieces q'.pieces) vs vs'

lemma Query.corresponding_of_erase_eq {q q' : Query} (h : q.erase = q'.erase) {f f' : Fragment}
    (hf : q.compile d = .ok f) (hf' : q'.compile d = .ok f') : Corresponding q q' f.params f'.params := by
  have hpieces : q.pieces.map Piece.erase = q'.pieces.map Piece.erase := by
    rw [← q.pieces_erase, ← q'.pieces_erase, h]
  have hleft : f.params = q.pieces.flatMap Piece.values := by
    rw [q.yields_compile.value f hf, Piece.fragments_params]
  have hright : f'.params = q'.pieces.flatMap Piece.values := by
    rw [q'.yields_compile.value f' hf', Piece.fragments_params]
  refine ⟨hleft, hright, ?_⟩
  rw [hleft, hright]
  exact Piece.samePlace_flatMap hpieces

lemma Fragment.params_of_place {style : PlaceholderStyle} {f : Fragment} {s : Statement}
    (h : f.place style = .ok s) : s.params = f.params := by
  rw [(place_eq_ok.mp h).2]

theorem Query.alike_of_erase_eq (d : Dialect) {q q' : Query} (h : q.erase = q'.erase) :
    Alike (fun f f' => f.sql = f'.sql ∧ Corresponding q q' f.params f'.params) (q.compile d) (q'.compile d) ∧
      Alike (fun s s' => s.sql = s'.sql ∧ Corresponding q q' s.params s'.params)
        (q.statement d) (q'.statement d) := by
  have hcompile : (q.compile d).map (Fragment.mapValues fun _ => .null) =
      (q'.compile d).map (Fragment.mapValues fun _ => .null) := by
    rw [← q.compile_mapValues, ← q'.compile_mapValues]
    exact congrArg (Query.compile d) h
  have hstatement : (q.statement d).map (fun s => Statement.mk s.sql (s.params.map fun _ => .null)) =
      (q'.statement d).map fun s => Statement.mk s.sql (s.params.map fun _ => .null) := by
    rw [← q.statement_mapValues, ← q'.statement_mapValues]
    exact congrArg (Query.statement d) h
  refine ⟨alike_of_map_eq hcompile fun f f' hf hf' hsql => ?_, alike_of_map_eq hstatement fun s s' hs hs' hsql => ?_⟩
  · exact ⟨(Fragment.mk.inj hsql).1, corresponding_of_erase_eq h hf hf'⟩
  · obtain ⟨f, hf, hplace⟩ := bind_eq_ok.mp hs
    obtain ⟨f', hf', hplace'⟩ := bind_eq_ok.mp hs'
    refine ⟨(Statement.mk.inj hsql).1, ?_⟩
    rw [Fragment.params_of_place hplace, Fragment.params_of_place hplace']
    exact corresponding_of_erase_eq h hf hf'

theorem Query.alike_of_erase_eq_quote_in_value :
    let body (v : Value) : SelectBody :=
      { SelectBody.empty with filters := [.binary .eq (.column (.bare "a")) (.value v)] }
    let q : Query := .select ⟨body (.int 1), none⟩
    let q' : Query := .select ⟨body (.text "' OR '1' = '1"), none⟩
    q.erase = q'.erase ∧
      Alike (fun g g' => g.sql = g'.sql ∧ Corresponding q q' g.params g'.params)
        (q.compile .generic) (q'.compile .generic) := by
  intro body q q'
  have h : q.erase = q'.erase := rfl
  exact ⟨h, (Query.alike_of_erase_eq .generic h).1⟩

end SqlBuilder
