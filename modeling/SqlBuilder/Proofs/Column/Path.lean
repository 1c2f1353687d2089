import SqlBuilder.Proofs.Select.Clauses
import SqlBuilder.Query.Compile
import SqlBuilder.Query.Step

/-!
Columns and tables by their dotted paths. The names of a column that is read from a path are the parts of the path, so
the column is written like the table with that path and refused for the same paths.
-/

namespace SqlBuilder

open Emitter

section Paths

variable {d : Dialect} {role : PathRole} {path : String}

lemma emitPath_of_empty_part (h : "" ∈ Text.parts path) (out : Fragment) :
    emitPath d role path out = .error (.configuration (.emptyPathPart role path)) := by
  have hall : (Text.parts path).all (· ≠ "") = false := by
    rw [List.all_eq_false]
    exact ⟨"", h, by simp⟩
  exact andThen_of_error (check_require_of_false hall _ out)

lemma mapM_identifier (hd : d.quote ∈ ['"', '\'', '\x60', '[']) (names : List String) :
    names.mapM d.identifier = .ok (names.map d.spelling) := by
  have hname : d.identifier = fun name => pure (d.spelling name) := funext (d.identifier_eq_ok hd)
  rw [hname, List.mapM_pure]
  rfl

end Paths

namespace Column

def qualifier (c : Column) : List String :=
  c.table.elim [] Text.parts

def names (c : Column) : List String :=
  c.qualifier ++ [c.name]

def spellings (d : Dialect) (c : Column) : List String :=
  c.qualifier.map d.spelling ++ [if c.name = "*" then "*" else d.spelling c.name]

lemma names_parse (path : String) : (parse path).names = Text.parts path := by
  cases h : Text.splitLast path with
  | none => simp [parse, h, bare, names, qualifier, Text.parts_of_splitLast_eq_none h]
  | some split =>
    obtain ⟨table, name⟩ := split
    simp [parse, h, qualified, names, qualifier, Text.parts_of_splitLast h]

lemma names_injective : Function.Injective names := by
  intro c c' h
  obtain ⟨hqualifier, hname⟩ := List.append_inj' h rfl
  obtain ⟨table, name⟩ := c
  obtain ⟨table', name'⟩ := c'
  obtain rfl : name = name' := List.singleton_inj.mp hname
  cases table with
  | none =>
    cases table' with
    | none => rfl
    | some table' => exact absurd hqualifier.symm (Text.parts_ne_nil table')
  | some table =>
    cases table' with
    | none => exact absurd hqualifier (Text.parts_ne_nil table)
    | some table' => rw [Text.parts_injective hqualifier]

lemma complete_iff_names {c : Column} : c.Complete ↔ "" ∉ c.names := by
  have hname : "" ∈ [c.name] ↔ c.name = "" := by rw [List.mem_singleton, eq_comm]
  rw [complete_iff, names, qualifier, List.mem_append, not_or, hname, and_comm]
  cases c.table <;> simp

lemma written_eq (d : Dialect) (c : Column) : c.written d = ".".intercalate (c.spellings d) := by
  cases h : c.table with
  | none => simp [written, spellings, qualifier, h]
  | some table =>
    have hparts : (Text.parts table).map d.spelling ≠ [] := by simpa using Text.parts_ne_nil table
    simp [written, spellings, qualifier, h, String.intercalate_append_of_ne_nil hparts]

lemma spellings_eq_map {d : Dialect} {c : Column} (h : c.name ≠ "*") : c.spellings d = c.names.map d.spelling := by
  simp [spellings, names, h]

def fault (c : Column) : Fault :=
  if c.name = "" then .emptyColumnName else .emptyPathPart .qualifier (c.table.getD "")

lemma compile_of_empty_name (d : Dialect) {c : Column} (h : "" ∈ c.names) :
    (Expr.column c).compile d = .error (.configuration c.fault) := by
  by_cases hname : c.name = ""
  · rw [fault, if_pos hname]
    exact andThen_of_error (check_require_of_false (by simp [hname]) _ _)
  · have hqualifier : "" ∈ c.qualifier := by simpa [names, Ne.symm hname] using h
    obtain ⟨table, htable⟩ : ∃ table, c.table = some table := by
      refine Option.ne_none_iff_exists'.mp fun hnone => ?_
      simp [qualifier, hnone] at hqualifier
    have hparts : "" ∈ Text.parts table := by simpa [qualifier, htable] using hqualifier
    rw [fault, if_neg hname, htable]
    -- the name passes its check, and the qualifier fails before anything is written
    refine (andThen_of_ok (check_require_of_true (by simp [hname]) _ _)).trans (andThen_of_error ?_)
    rw [htable]
    exact andThen_of_error (emitPath_of_empty_part hparts _)

lemma compile_of_names {d : Dialect} (hd : d.quote ∈ ['"', '\'', '\x60', '[']) {c : Column} (h : "" ∉ c.names) :
    (Expr.column c).compile d = .ok ⟨".".intercalate (c.spellings d), []⟩ := by
  rw [← written_eq]
  exact (c.emits hd).run_eq_ok.mpr ⟨complete_iff_names.mpr h, rfl⟩

end Column

namespace Source

def fault : Source → Fault
  | table path => if path = "" then .emptySourceName else .emptyPathPart .table path
  | cte _ => .emptySourceName

lemma emit_of_not_complete (d : Dialect) {s : Source} (h : ¬s.Complete) (out : Fragment) :
    s.emit d out = .error (.configuration s.fault) := by
  by_cases hname : s.name = ""
  · have hfault : s.fault = .emptySourceName := by
      cases s with
      | table path => exact if_pos hname
      | cte name => rfl
    rw [hfault]
    exact andThen_of_error (check_require_of_false (by simp [hname]) _ out)
  · refine (andThen_of_ok (check_require_of_true (by simp [hname]) _ out)).trans ?_
    cases s with
    | table path =>
      have hfault : (table path).fault = .emptyPathPart .table path := if_neg hname
      rw [hfault]
      exact emitPath_of_empty_part (not_not.mp h) out
    | cte name => exact absurd hname h

end Source

lemma Select.compile_ofTable (d : Dialect) (path : String) :
    (ofTable path).compile d = (Source.table path).emit d (.ofText "SELECT * FROM ") :=
  rfl

theorem compile_parse_agrees {d : Dialect} (hd : d.quote ∈ ['"', '\'', '\x60', '[']) {path : String}
    (hstar : (Text.parts path).getLast? ≠ some "*") :
    ("" ∈ Text.parts path →
      (Expr.column (.parse path)).compile d = .error (.configuration (Column.parse path).fault) ∧
        ((Source.table path).emit d).run = .error (.configuration (Source.table path).fault) ∧
        (Select.ofTable path).compile d = .error (.configuration (Source.table path).fault)) ∧
      ("" ∉ Text.parts path →
        ∃ names, (Text.parts path).mapM d.identifier = .ok names ∧
          (Expr.column (.parse path)).compile d = .ok (.ofText (".".intercalate names)) ∧
          ((Source.table path).emit d).run = .ok (.ofText (".".intercalate names)) ∧
          (Select.ofTable path).compile d = .ok (.ofText ("SELECT * FROM " ++ ".".intercalate names))) := by
  rw [← Column.names_parse] at hstar ⊢
  constructor
  · intro hempty
    have hsource : ¬(Source.table path).Complete := not_not.mpr (by rwa [← Column.names_parse])
    exact ⟨Column.compile_of_empty_name d hempty, Source.emit_of_not_complete d hsource _,
      (Select.compile_ofTable d path).trans (Source.emit_of_not_complete d hsource _)⟩
  · intro hnames
    have hlast : (Column.parse path).name ≠ "*" := by
      rintro h
      exact hstar (by simp [Column.names, h])
    have hcolumn := Column.compile_of_names hd hnames
    rw [Column.spellings_eq_map hlast] at hcolumn
    have hemit (out : Fragment) : (Source.table path).emit d out =
        .ok (out ++ .ofText (".".intercalate ((Column.parse path).names.map d.spelling))) := by
      rw [Column.names_parse] at hnames ⊢
      exact (Source.emits hd (.table path) out _).mpr ⟨hnames, rfl⟩
    exact ⟨_, mapM_identifier hd _, hcolumn, hemit .empty, (Select.compile_ofTable d path).trans (hemit _)⟩

theorem compile_parse_agrees_quoted_parts :
    let d : Dialect := { Dialect.generic with quote := '[' }
    (Expr.column (.parse "a[b].Order.c")).compile d = .ok (.ofText "[a[b]].[Order].c") ∧
      (Select.ofTable "a[b].Order.c").compile d = .ok (.ofText "SELECT * FROM [a[b]].[Order].c") ∧
      (Expr.column (.parse "a..b")).compile d = .error (.configuration (.emptyPathPart .qualifier "a.")) ∧
      (Select.ofTable "a..b").compile d = .error (.configuration (.emptyPathPart .table "a..b")) := by
  intro d
  have hd : d.quote ∈ ['"', '\'', '\x60', '['] := by decide
  have hparts : Text.parts "a[b].Order.c" = ["a[b]", "Order", "c"] := by decide
  have hgap : Text.parts "a..b" = ["a", "", "b"] := by decide
  obtain ⟨names, hnames, hcolumn, _, hselect⟩ :=
    (compile_parse_agrees hd (by rw [hparts]; decide)).2 (by rw [hparts]; decide)
  have hspelled : (Text.parts "a[b].Order.c").mapM d.identifier = .ok ["[a[b]]", "[Order]", "c"] := by
    rw [hparts]
    rfl
  obtain rfl : names = ["[a[b]]", "[Order]", "c"] := Except.ok.inj (hnames.symm.trans hspelled)
  obtain ⟨hcolumn', _, hselect'⟩ := (compile_parse_agrees hd (by rw [hgap]; decide)).1 (by rw [hgap]; decide)
  exact ⟨hcolumn, hselect, hcolumn', hselect'⟩

end SqlBuilder
