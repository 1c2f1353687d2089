import SqlBuilder.Proofs.Emission
import SqlBuilder.Proofs.Lexical.Aligned
import SqlBuilder.Proofs.Pieces.Parametric
import SqlBuilder.Proofs.Window.Steps

namespace SqlBuilder

open Emitter

namespace Column

structure Complete (c : Column) : Prop where
  name : c.name ≠ ""
  qualifier : ∀ table ∈ c.table, "" ∉ Text.parts table

lemma complete_iff {c : Column} : c.Complete ↔ c.name ≠ "" ∧ ∀ table ∈ c.table, "" ∉ Text.parts table :=
  ⟨fun h => ⟨h.name, h.qualifier⟩, fun h => ⟨h.1, h.2⟩⟩

instance (c : Column) : Decidable c.Complete :=
  decidable_of_iff' _ complete_iff

def written (d : Dialect) (c : Column) : String :=
  c.table.elim "" (fun table => ".".intercalate ((Text.parts table).map d.spelling) ++ ".") ++
    if c.name = "*" then "*" else d.spelling c.name

end Column

def SortKey.written (d : Dialect) (k : SortKey) : String :=
  k.column.written d ++ " " ++ k.direction.sql

namespace Frame

structure Suits (f : Frame) (keys : List SortKey) : Prop where
  valid : f.validate = .ok ()
  range : f.unit = .range → (∃ b ∈ f.start :: f.stop.toList, b.offset ≠ none) → keys.length = 1
  groups : f.unit = .groups → keys ≠ []

lemma hasOffset_iff {f : Frame} : f.hasOffset = true ↔ ∃ b ∈ f.start :: f.stop.toList, b.offset ≠ none := by
  cases h : f.stop <;> simp [hasOffset, h, Option.isSome_iff_ne_none]

lemma suits_iff {f : Frame} {keys : List SortKey} :
    f.Suits keys ↔ Window.checkOrdering f keys = .ok () ∧ f.validate = .ok () := by
  have hordering : Window.checkOrdering f keys = .ok () ↔
      (f.unit = .range → f.hasOffset → keys.length = 1) ∧ (f.unit = .groups → keys ≠ []) := by
    rw [Window.checkOrdering]
    cases f.unit <;> simp [require_eq_ok, imp_iff_not_or]
  rw [hordering, hasOffset_iff]
  exact ⟨fun h => ⟨⟨h.range, h.groups⟩, h.valid⟩, fun h => ⟨h.2, h.1.1, h.1.2⟩⟩

instance (f : Frame) (keys : List SortKey) : Decidable (f.Suits keys) :=
  decidable_of_iff' _ suits_iff

end Frame

def Window.contents (d : Dialect) (w : Window) : List String :=
  (if w.partitionBy = [] then [] else ["PARTITION BY " ++ ", ".intercalate (w.partitionBy.map (·.written d))]) ++
    (if w.orderBy = [] then [] else ["ORDER BY " ++ ", ".intercalate (w.orderBy.map (·.written d))]) ++
    w.frame.toList.map (·.text)

section Emissions

variable {d : Dialect} (hd : d.quote ∈ ['"', '\'', '\x60', '['])

include hd

lemma emits_path (role : PathRole) (path : String) :
    Emits (emitPath d role path)
      ⟨"" ∉ Text.parts path, .ofText (".".intercalate ((Text.parts path).map d.spelling))⟩ := by
  have hparts := emits_joined_map "." (emits_identifier hd) (Text.parts path)
  refine ((emits_require _ _).andThen hparts).congr ?_ ?_ ?_ <;>
    simp [List.forall_mem_ne', Fragment.empty, Fragment.ofText, Function.comp_def]

lemma Column.emits (c : Column) : Emits (c.emit d) ⟨c.Complete, .ofText (c.written d)⟩ := by
  have hqualifier : Emits (emitQualifier d c.table)
      ⟨∀ table ∈ c.table, "" ∉ Text.parts table,
        .ofText (c.table.elim "" fun table => ".".intercalate ((Text.parts table).map d.spelling) ++ ".")⟩ := by
    cases c.table with
    | none => exact emits_nothing.congr (by simp) rfl rfl
    | some table =>
      refine ((emits_path hd .qualifier table).andThen (emits_text ".")).congr ?_ ?_ ?_ <;> simp [Fragment.ofText]
  have hname : Emits (if c.name = "*" then text "*" else identifier d c.name)
      (.ofText (if c.name = "*" then "*" else d.spelling c.name)) := by
    split
    · exact emits_text "*"
    · exact emits_identifier hd c.name
  refine ((emits_require _ _).andThen (hqualifier.andThen hname)).congr ?_ ?_ ?_ <;>
    simp [complete_iff, written, Fragment.ofText, Fragment.empty]

lemma SortKey.emits (k : SortKey) : Emits (k.emit d) ⟨k.column.Complete, .ofText (k.written d)⟩ := by
  refine ((k.column.emits hd).andThen ((emits_text " ").andThen (emits_text k.direction.sql))).congr ?_ ?_ ?_ <;>
    simp [written, Fragment.ofText, String.append_assoc]

omit hd in
lemma Window.emits_frame (keys : List SortKey) (f : Frame) :
    Emits (emitFrame keys f) ⟨f.Suits keys, .ofText f.text⟩ := by
  have hrender : Emits (result (f.render.map .ofText)) ⟨f.validate = .ok (), .ofText f.text⟩ := by
    apply emits_result
    intro g
    rw [Frame.render]
    cases f.validate <;> simp [Except.map, bind, Except.bind, pure, Except.pure, eq_comm]
  exact ((emits_check _).andThen hrender).congr Frame.suits_iff (by simp) (by simp)

lemma Window.emits (w : Window) :
    Emits (w.emit d)
      ⟨(∀ c ∈ w.partitionBy, c.Complete) ∧ (∀ k ∈ w.orderBy, k.column.Complete) ∧ ∀ f ∈ w.frame, f.Suits w.orderBy,
        .ofText (" ".intercalate (w.contents d))⟩ := by
  have hpartition := emits_clause_map "PARTITION BY " ", " (Column.emits hd) w.partitionBy
  have horder := emits_clause_map "ORDER BY " ", " (SortKey.emits hd) w.orderBy
  have hframe : List.Forall₂ Emits (w.frame.map (emitFrame w.orderBy)).toList
      (w.frame.toList.map fun f => ⟨f.Suits w.orderBy, .ofText f.text⟩) := by
    cases w.frame with
    | none => exact .nil
    | some f => exact .cons (emits_frame w.orderBy f) .nil
  refine (emits_joined " " (List.rel_append (List.rel_append hpartition horder) hframe)).congr ?_ ?_ ?_
  · simp only [Emission.condition_joined, List.forall_mem_append, Emission.forall_mem_clause, List.forall_mem_map,
      Option.mem_toList, Option.mem_def, and_assoc]
  · simp [Emission.map_sql_clause, contents, Function.comp_def, Fragment.ofText]
  · simp [Emission.flatMap_params_clause, List.flatMap_map, Fragment.ofText]

end Emissions

namespace WindowCall

def written (function : WindowFunction) (args : List Fragment) (contents : List String) : Fragment :=
  ⟨function.sql ++ "(" ++ ", ".intercalate (args.map (·.sql)) ++ ") OVER (" ++ " ".intercalate contents ++ ")",
    args.flatMap (·.params)⟩

lemma emits_arguments (d : Dialect) (args : List Expr) :
    Emits (emitList d args)
      (.joined ", " (args.map fun e => ⟨∃ g, e.compile d = .ok g, (e.compile d).toOption.getD .empty⟩)) := by
  rw [emitList_eq_joined]
  exact emits_joined_map ", " (fun e => (e.appends_emit d).emits) args

lemma emits_emit {d : Dialect} (hd : d.quote ∈ ['"', '\'', '\x60', '[']) (function : WindowFunction) (args : List Expr)
    (w : Window) :
    Emits (emit d ⟨function, args, w⟩)
      ⟨(function.arity.1 ≤ args.length ∧ args.length ≤ function.arity.2) ∧ (∀ e ∈ args, ∃ g, e.compile d = .ok g) ∧
          (∀ c ∈ w.partitionBy, c.Complete) ∧ (∀ k ∈ w.orderBy, k.column.Complete) ∧
          ∀ f ∈ w.frame, f.Suits w.orderBy,
        written function (args.map fun e => (e.compile d).toOption.getD .empty) (w.contents d)⟩ := by
  have hcall := (emits_require (function.accepts args.length) (.wrongArity function args.length)).andThen <|
    (emits_text function.sql).andThen <| (emits_text "(").andThen <| (emits_arguments d args).andThen <|
      (emits_text ") OVER (").andThen <| (w.emits hd).andThen (emits_text ")")
  refine hcall.congr (by simp [WindowFunction.accepts]) ?_ ?_ <;>
    simp [written, Fragment.empty, Fragment.ofText, Function.comp_def, List.flatMap_map, String.append_assoc]

open CallStep

/-- The steps decide the window, and the window decides with the arguments whether the call compiles and to what. -/
theorem compile_build_eq_ok {d : Dialect} (hd : d.quote ∈ ['"', '\'', '\x60', '[']) (function : WindowFunction)
    (args : List Expr) (steps : List CallStep) (f : Fragment) :
    ((ofArgs function args).build steps).compile d = .ok f ↔
      function.arity.1 ≤ args.length ∧ args.length ≤ function.arity.2 ∧
        (∀ c ∈ columns steps ++ (keys steps).map (·.column), c.Complete) ∧
        (∀ frame ∈ lastFrame steps, frame.Suits (keys steps)) ∧
        ∃ fs, List.Forall₂ (fun e g => e.compile d = .ok g) args fs ∧
          f = written function fs (Window.contents d ⟨columns steps, keys steps, lastFrame steps⟩) ∧ f.Aligned := by
  rw [build_ofArgs, compile_eq, aligned_eq_ok, (emits_emit hd _ _ _).run_eq_ok, List.forall_mem_append,
    List.forall_mem_map]
  constructor
  · rintro ⟨⟨⟨⟨hleast, hgreatest⟩, hargs, hcolumns, hkeys, hframe⟩, hf⟩, haligned⟩
    have hfs := (forall₂_ok_iff Fragment.empty).mpr ⟨hargs, rfl⟩
    exact ⟨hleast, hgreatest, ⟨hcolumns, hkeys⟩, hframe, _, hfs, hf, haligned⟩
  · rintro ⟨hleast, hgreatest, ⟨hcolumns, hkeys⟩, hframe, fs, hfs, hf, haligned⟩
    obtain ⟨hargs, rfl⟩ := (forall₂_ok_iff Fragment.empty).mp hfs
    exact ⟨⟨⟨⟨hleast, hgreatest⟩, hargs, hcolumns, hkeys, hframe⟩, hf⟩, haligned⟩

/-- The first partition column is lost with the window it was added to, and the first frame gives way to the second. With
a second sort key the offset of that frame is not accepted. -/
theorem compile_build_eq_ok_replaced :
    let d : Dialect := { Dialect.generic with quote := '[' }
    let base : Window := ⟨[.qualified "s.t" "a"], [], some (.rows .currentRow)⟩
    let steps : List CallStep :=
      [.window (.partitionBy [.bare "dropped"]), .over base, .window (.orderBy ⟨.bare "b", .desc⟩),
        .window (.frame (.rangeBetween (.preceding 3) .currentRow))]
    let refused : List CallStep := steps ++ [.window (.orderBy ⟨.bare "c", .asc⟩)]
    let args : List Expr := [.column (.bare "Total"), .value (.int 2)]
    let f : Fragment :=
      ⟨"LAG([Total], ?) OVER (PARTITION BY s.t.a ORDER BY b DESC RANGE BETWEEN 3 PRECEDING AND CURRENT ROW)", [.int 2]⟩
    d.quote ∈ ['"', '\'', '\x60', '['] ∧ ((ofArgs .lag args).build steps).compile d = .ok f ∧
      ∀ g, ((ofArgs .lag args).build refused).compile d ≠ .ok g := by
  intro d base steps refused args f
  have hd : d.quote ∈ ['"', '\'', '\x60', '['] := by decide
  have hcolumns : columns steps = [.qualified "s.t" "a"] := rfl
  have hkeys : keys steps = [⟨.bare "b", .desc⟩] := rfl
  have hframe : lastFrame steps = some (.rangeBetween (.preceding 3) .currentRow) := rfl
  have hcomplete : ∀ c ∈ columns steps ++ (keys steps).map (·.column), c.Complete := by
    rw [hcolumns, hkeys]
    decide
  have hsuits : ∀ frame ∈ lastFrame steps, frame.Suits (keys steps) := by
    rw [hframe, hkeys]
    decide
  have hargs : List.Forall₂ (fun e g => Expr.compile d e = .ok g) args [⟨"[Total]", []⟩, ⟨"?", [.int 2]⟩] :=
    .cons rfl (.cons rfl .nil)
  have hf : f = written .lag [⟨"[Total]", []⟩, ⟨"?", [.int 2]⟩]
      (Window.contents d ⟨columns steps, keys steps, lastFrame steps⟩) := by
    rw [hcolumns, hkeys, hframe]
    exact Fragment.eq_of_sql_params (by decide +kernel) rfl
  have haligned : f.Aligned := ⟨by decide +kernel, by decide +kernel⟩
  refine ⟨hd, (compile_build_eq_ok hd _ _ _ _).mpr ⟨by decide, by decide, hcomplete, hsuits, _, hargs, hf, haligned⟩, ?_⟩
  intro g hg
  obtain ⟨_, _, _, hframes, _⟩ := (compile_build_eq_ok hd _ _ _ _).mp hg
  have hsingle := (hframes (.rangeBetween (.preceding 3) .currentRow) rfl).range rfl
    ⟨.preceding 3, by simp [Frame.rangeBetween], by simp [Bound.preceding]⟩
  have htwo : (keys refused).length = 2 := rfl
  omega

end WindowCall

end SqlBuilder
