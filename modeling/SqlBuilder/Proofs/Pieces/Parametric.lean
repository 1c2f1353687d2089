import SqlBuilder.Proofs.Faults
import SqlBuilder.Proofs.Pieces.Phrase
import SqlBuilder.Proofs.Values
import SqlBuilder.With.Declaration

/-!
What two dialects emit for the same tree, the second with its values replaced, is related by every relation that the
primitive emitters respect. The tree is walked here once, for all such relations.
-/

namespace SqlBuilder

open Emitter

def WindowCall.emit (d : Dialect) : WindowCall → Emitter
  | ⟨function, args, window⟩ =>
    check (require (function.accepts args.length) (.wrongArity function args.length)) >=>
      text function.sql >=> text "(" >=> emitList d args >=> text ") OVER (" >=> window.emit d >=> text ")"

lemma WindowCall.compile_eq (d : Dialect) (call : WindowCall) : call.compile d = aligned (call.emit d).run := by
  cases call
  rfl

lemma length_mapValuesList (σ : Value → Value) (es : List Expr) : (mapValuesList σ es).length = es.length := by
  induction es with
  | nil => rfl
  | cons e es ih => exact congrArg (· + 1) ih

/-- One clause for each primitive emitter; a relation also speaks of the pieces that both emitters write. -/
structure Parametric (d d' : Dialect) (σ : Value → Value) (R : Emitter → Emitter → List Piece → Prop) : Prop where
  silent : R nothing nothing []
  andThen {e e' f f' : Emitter} {ps qs : List Piece} : R e e' ps → R f f' qs → R (e >=> f) (e' >=> f') (ps ++ qs)
  guarded {r : Except BuildError Unit} : OnlyFaults r → R (check r) (check r) []
  words (ss : List String) : R (text (String.join ss)) (text (String.join ss)) (ss.map .word)
  function (name : String) : R (text name) (text name) [.function name]
  identifier (name : String) : R (identifier d name) (identifier d' name) [.identifier name]
  value (v : Value) : R (value v) (value (σ v)) [.value v]
  raw (f : Fragment) : R (fragment f) (fragment (f.mapValues σ)) [.raw f]
  frame (f : Frame) : R (result (f.render.map .ofText)) (result (f.render.map .ofText)) [.word f.text]
  aligned {e e' : Emitter} {ps : List Piece} : Phrase ps → R e e' ps →
    R (result (aligned e.run)) (result (aligned e'.run)) ps

namespace Parametric

inductive Pointwise (R : Emitter → Emitter → List Piece → Prop) :
    List Emitter → List Emitter → List (List Piece) → Prop
  | nil : Pointwise R [] [] []
  | cons {e e' : Emitter} {ps : List Piece} {es es' : List Emitter} {pss : List (List Piece)} :
      R e e' ps → Pointwise R es es' pss → Pointwise R (e :: es) (e' :: es') (ps :: pss)

variable {d d' : Dialect} {σ : Value → Value} {R : Emitter → Emitter → List Piece → Prop}

lemma Pointwise.append {es es' fs fs' : List Emitter} {pss qss : List (List Piece)} (he : Pointwise R es es' pss)
    (hf : Pointwise R fs fs' qss) : Pointwise R (es ++ fs) (es' ++ fs') (pss ++ qss) := by
  induction he with
  | nil => exact hf
  | cons h _ ih => exact .cons h ih

lemma Pointwise.map {α : Type} {f f' : α → Emitter} {g : α → List Piece} (h : ∀ x, R (f x) (f' x) (g x))
    (xs : List α) : Pointwise R (xs.map f) (xs.map f') (xs.map g) := by
  induction xs with
  | nil => exact .nil
  | cons x xs ih => exact .cons (h x) ih

variable (h : Parametric d d' σ R)

include h

lemma word (s : String) : R (text s) (text s) [.word s] := by
  have hs : String.join [s] = s := by simp [String.join]
  simpa [hs] using h.words [s]

lemma wordsOf {s : String} (ss : List String) (hs : String.join ss = s) : R (text s) (text s) (ss.map .word) :=
  hs ▸ h.words ss

lemma require (condition : Bool) (fault : Fault) :
    R (check (SqlBuilder.require condition fault)) (check (SqlBuilder.require condition fault)) [] :=
  h.guarded (onlyFaults_require condition fault)

lemma joined (separator : String) {es es' : List Emitter} {pss : List (List Piece)} (hes : Pointwise R es es' pss) :
    R (joined separator es) (joined separator es') (Piece.joined separator pss) := by
  induction hes with
  | nil => exact h.silent
  | @cons e e' ps es es' pss he hes ih =>
    cases hes with
    | nil => simpa [Emitter.joined, Piece.joined] using he
    | @cons f f' qs fs fs' qss hf hfs =>
      rw [Piece.joined_cons_cons]
      exact h.andThen he (h.andThen (h.word separator) ih)

lemma clause (keyword separator : String) {es es' : List Emitter} {pss : List (List Piece)}
    (hes : Pointwise R es es' pss) :
    Pointwise R (clause keyword separator es) (clause keyword separator es') (Piece.clause keyword separator pss) := by
  cases hes with
  | nil => exact .nil
  | cons he hes => exact .cons (h.andThen (h.word keyword) (h.joined separator (.cons he hes))) .nil

lemma group {e e' : Emitter} {ps : List Piece} (he : R e e' ps) :
    R (text "(" >=> e >=> text ")") (text "(" >=> e' >=> text ")") (Piece.group ps) := by
  have hgroup := h.andThen (h.word "(") (h.andThen he (h.word ")"))
  exact hgroup

lemma path (role : PathRole) (s : String) : R (emitPath d role s) (emitPath d' role s) (Piece.path s) :=
  h.andThen (h.require _ _) (h.joined "." (.map h.identifier _))

lemma column (c : Column) : R (c.emit d) (c.emit d') c.pieces := by
  have htable : R (Column.emitQualifier d c.table) (Column.emitQualifier d' c.table)
      (c.table.elim [] fun table => Piece.path table ++ [.word "."]) := by
    cases c.table with
    | none => exact h.silent
    | some table => exact h.andThen (h.path .qualifier table) (h.word ".")
  have hname : R (if c.name = "*" then text "*" else Emitter.identifier d c.name)
      (if c.name = "*" then text "*" else Emitter.identifier d' c.name)
      [if c.name = "*" then .word "*" else .identifier c.name] := by
    split
    · exact h.word "*"
    · exact h.identifier c.name
  have hcolumn := h.andThen (h.require (c.name ≠ "") .emptyColumnName) (h.andThen htable hname)
  exact hcolumn

lemma sortKey (k : SortKey) : R (k.emit d) (k.emit d') k.pieces :=
  h.andThen (h.column k.column) (h.andThen (h.word " ") (h.word k.direction.sql))

lemma window (w : Window) : R (w.emit d) (w.emit d') w.pieces := by
  refine h.joined " " (.append (.append ?partitionBy ?orderBy) ?frame)
  case partitionBy => exact h.clause _ _ (.map h.column w.partitionBy)
  case orderBy => exact h.clause _ _ (.map h.sortKey w.orderBy)
  case frame =>
    cases w.frame with
    | none => exact .nil
    | some f => exact .cons (h.andThen (h.guarded (Window.onlyFaults_checkOrdering f w.orderBy)) (h.frame f)) .nil

end Parametric

variable {d d' : Dialect} {σ : Value → Value} {R : Emitter → Emitter → List Piece → Prop}

mutual

lemma Parametric.expr (h : Parametric d d' σ R) : ∀ e : Expr, R (e.emit d) ((e.mapValues σ).emit d') e.pieces
  | .column c => h.column c
  | .value v => h.value v
  | .star => h.word "*"
  | .raw f => h.andThen (h.require _ _) (h.raw f)
  | .function name args => h.andThen (h.require _ _) (h.andThen (h.function name) (h.group (h.exprs args)))
  | .window call => by
    have hcall := h.aligned call.phrase_pieces (h.call call)
    rwa [← WindowCall.compile_eq, ← WindowCall.compile_eq] at hcall
  | .binary op left right =>
    h.andThen (h.expr left) <| h.andThen (h.word " ") <| h.andThen (h.word op.sql) <|
      h.andThen (h.word " ") (h.expr right)
  | .not operand => h.andThen (h.word "NOT ") (h.expr operand)
  | .isNull operand _ => h.andThen (h.expr operand) (h.word _)
  | .inList _ [] _ => h.word _
  | .inList operand (e :: es) negated => by
    apply h.andThen (h.expr operand)
    have hlist := h.andThen (h.exprs (e :: es)) (h.word ")")
    cases negated with
    | true => exact h.andThen (h.wordsOf [" NOT IN ", "("] rfl) hlist
    | false => exact h.andThen (h.wordsOf [" IN ", "("] rfl) hlist
  | .nested inner => h.group (h.expr inner)
termination_by structural e => e

lemma Parametric.exprs (h : Parametric d d' σ R) :
    ∀ es : List Expr, R (emitList d es) (emitList d' (mapValuesList σ es)) (Piece.joined ", " (piecesList es))
  | [] => h.silent
  | [e] => by simpa [Piece.joined, piecesList, emitList, mapValuesList] using h.expr e
  | e :: e' :: es => by
    rw [piecesList, piecesList, Piece.joined_cons_cons]
    exact h.andThen (h.expr e) (h.andThen (h.word ", ") (h.exprs (e' :: es)))
termination_by structural es => es

lemma Parametric.call (h : Parametric d d' σ R) :
    ∀ call : WindowCall, R (call.emit d) ((call.mapValues σ).emit d') call.pieces
  | ⟨function, args, window⟩ => by
    have hover := h.wordsOf (s := ") OVER (") [")", " OVER ", "("] rfl
    have hcall := h.andThen (h.word function.sql) <| h.andThen (h.word "(") <| h.andThen (h.exprs args) <|
      h.andThen hover <| h.andThen (h.window window) (h.word ")")
    rw [WindowCall.mapValues, WindowCall.emit, WindowCall.emit, length_mapValuesList]
    simpa [WindowCall.pieces, Piece.group] using h.andThen (h.require _ _) hcall
termination_by structural call => call

end

namespace Parametric

variable (h : Parametric d d' σ R)

include h

lemma projection (p : Projection) : R (p.emit d) ((p.mapValues σ).emit d') p.pieces := by
  have hname : R (Projection.emitName d p.name) (Projection.emitName d' p.name)
      (p.name.elim [] fun name => [.word " AS ", .identifier name]) := by
    cases p.name with
    | none => exact h.silent
    | some name =>
      exact h.andThen (h.require _ _) (h.andThen (h.word " AS ") (h.identifier name))
  have hprojection := h.andThen (h.expr p.expr) hname
  exact hprojection

lemma source (s : Source) : R (s.emit d) (s.emit d') s.pieces := by
  apply h.andThen (h.require _ _)
  cases s with
  | table path => exact h.path .table path
  | cte name => exact h.identifier name

lemma selectProjection (b : SelectBody) :
    R (b.emitProjection d) ((b.mapValues σ).emitProjection d') b.projectionPieces := by
  have hempty : (b.projection.map (Projection.mapValues σ)).isEmpty = b.projection.isEmpty := List.isEmpty_map
  have hitems : R (if b.projection.isEmpty then text "*" else Emitter.joined ", " (b.projection.map (·.emit d)))
      (if b.projection.isEmpty then text "*" else
        Emitter.joined ", " (b.projection.map fun p => (p.mapValues σ).emit d'))
      (if b.projection.isEmpty then [.word "*"] else Piece.joined ", " (b.projection.map Projection.pieces)) := by
    split
    · exact h.word "*"
    · exact h.joined ", " (.map h.projection b.projection)
  rw [SelectBody.mapValues, SelectBody.emitProjection, SelectBody.emitProjection, hempty, List.map_map]
  exact h.andThen (h.word _) hitems

lemma selectBody (b : SelectBody) : R (b.emit d) ((b.mapValues σ).emit d') b.pieces := by
  have hcount : ∀ keyword n, R (SelectBody.emitCount keyword n) (SelectBody.emitCount keyword n)
      (SelectBody.countPieces keyword n) := fun keyword n => h.andThen (h.word keyword) (h.word _)
  refine h.joined " " <| .append (.append (.append (.append (.append (.append
    (.cons (h.selectProjection b) .nil) ?source) ?filters) ?groupBy) ?orderBy) ?limit) ?offset
  case source => exact .map (fun s => h.andThen (h.word "FROM ") (h.source s)) _
  case filters =>
    rw [SelectBody.mapValues, List.map_map]
    exact h.clause _ _ (.map h.expr b.filters)
  case groupBy => exact h.clause _ _ (.map h.column b.groupBy)
  case orderBy => exact h.clause _ _ (.map h.sortKey b.orderBy)
  case limit => exact .map (hcount "LIMIT ") _
  case offset => exact .map (hcount "OFFSET ") _

lemma declaration (c c' : Declaration) (ps : List Piece) (hname : c'.name = c.name)
    (hcolumns : c'.columns = c.columns) (hbody : R (fragment c.body) (fragment c'.body) ps) :
    R (c.emit d) (c'.emit d') (Piece.declaration c.name c.columns ps) := by
  have hlist : R (Declaration.emitColumns d c.columns) (Declaration.emitColumns d' c.columns)
      (if c.columns.isEmpty then [] else
        .word " " :: Piece.group (Piece.joined ", " (c.columns.map fun column => [.identifier column]))) := by
    rw [Declaration.emitColumns, Declaration.emitColumns]
    split
    · exact h.silent
    · have hnames := h.andThen (h.joined ", " (.map h.identifier c.columns)) (h.word ")")
      exact h.andThen (h.wordsOf (s := " (") [" ", "("] rfl) hnames
  have hrest := h.andThen (h.wordsOf (s := " AS (") [" AS ", "("] rfl) (h.andThen hbody (h.word ")"))
  have hall := h.andThen (h.identifier c.name) (h.andThen hlist hrest)
  rw [Declaration.emit, Declaration.emit, hname, hcolumns]
  exact hall

lemma emitWith (cs cs' : List Declaration) (base base' : Fragment) (pss : List (List Piece)) (ps : List Piece)
    (hcs : Pointwise R (cs.map (·.emit d)) (cs'.map (·.emit d')) pss)
    (hbase : R (fragment base) (fragment base') ps) :
    R (emitWith d cs base) (emitWith d' cs' base') (.word "WITH " :: Piece.joined ", " pss ++ .word " " :: ps) := by
  have hall := h.andThen (h.word "WITH ") (h.andThen (h.joined ", " hcs) (h.andThen (h.word " ") hbase))
  exact hall

end Parametric

end SqlBuilder
