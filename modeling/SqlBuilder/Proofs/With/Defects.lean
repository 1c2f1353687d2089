import SqlBuilder.Proofs.Emission
import SqlBuilder.With.Declaration

/-!
What assembling a `WITH` query answers. The defects of the declarations are listed in the order in which they are
looked for, and the first of them is reported; without a defect the text is laid out and checked.
-/

namespace SqlBuilder

open Emitter

namespace Declaration

def defects (earlier : List String) (c : Declaration) : List Fault :=
  (if c.name = "" then [.emptyCteName] else []) ++
    (if c.name ∈ earlier then [.duplicateCte c.name] else []) ++
    (if c.body.isBlank then [.emptyCteBody c.name] else []) ++
    (if "" ∈ c.columns then [.emptyCteColumn c.name] else [])

def allDefects (earlier : List String) (cs : List Declaration) : List Fault :=
  (cs.mapIdx fun i c => c.defects (earlier ++ (cs.take i).map (·.name))).flatten

def report (faults : List Fault) : Except BuildError Unit :=
  faults.head?.elim (.ok ()) fun fault => .error (.configuration fault)

lemma report_append (xs ys : List Fault) : report (xs ++ ys) = report xs >>= fun _ => report ys := by
  cases xs <;> rfl

lemma report_if (condition : Prop) [Decidable condition] (fault : Fault) :
    report (if condition then [fault] else []) = require (!decide condition) fault := by
  by_cases h : condition <;> simp [h, report]

lemma validate_eq_report (earlier : List String) (c : Declaration) :
    c.validate earlier = report (c.defects earlier) := by
  have hcolumns : c.columns.all (· ≠ "") = !decide ("" ∈ c.columns) := by
    rw [Bool.eq_iff_iff]
    simpa using ⟨fun h hm => h "" hm rfl, fun h column hm he => h (he ▸ hm)⟩
  have hname : decide (c.name ≠ "") = !decide (c.name = "") := decide_not
  simp only [validate, defects, report_append, report_if, hcolumns, hname, List.contains_eq_mem, bind_assoc,
    Bool.decide_eq_true]

lemma allDefects_cons (earlier : List String) (c : Declaration) (cs : List Declaration) :
    allDefects earlier (c :: cs) = c.defects earlier ++ allDefects (earlier ++ [c.name]) cs := by
  simp [allDefects, List.mapIdx_cons, List.append_assoc]

lemma validateAll_eq_report (earlier : List String) (cs : List Declaration) :
    validateAll earlier cs = report (allDefects earlier cs) := by
  induction cs generalizing earlier with
  | nil => rfl
  | cons c cs ih => rw [validateAll, allDefects_cons, report_append, validate_eq_report, ih]

def text (d : Dialect) (c : Declaration) : String :=
  d.spelling c.name ++
    (if c.columns = [] then "" else " (" ++ ", ".intercalate (c.columns.map d.spelling) ++ ")") ++
    " AS (" ++ c.body.sql ++ ")"

def assembled (d : Dialect) (cs : List Declaration) (base : Fragment) : Fragment :=
  ⟨"WITH " ++ ", ".intercalate (cs.map (·.text d)) ++ " " ++ base.sql, cs.flatMap (·.body.params) ++ base.params⟩

variable {d : Dialect} (hd : d.quote ∈ ['"', '\'', '\x60', '['])

include hd

lemma emits_columns (columns : List String) :
    Emits (emitColumns d columns)
      (.ofText (if columns = [] then "" else " (" ++ ", ".intercalate (columns.map d.spelling) ++ ")")) := by
  cases columns with
  | nil => exact emits_nothing
  | cons column columns =>
    have hnames := emits_joined_map ", " (emits_identifier hd) (column :: columns)
    refine ((emits_text " (").andThen (hnames.andThen (emits_text ")"))).congr ?_ ?_ ?_ <;>
      simp [String.append_assoc, Function.comp_def]

lemma emits_declaration (c : Declaration) : Emits (c.emit d) (.ofFragment ⟨c.text d, c.body.params⟩) := by
  have hall := (emits_identifier hd c.name).andThen <| (emits_columns hd c.columns).andThen <|
    (emits_text " AS (").andThen <| (emits_fragment c.body).andThen (emits_text ")")
  refine hall.congr ?_ ?_ ?_ <;> simp [text, String.append_assoc]

lemma emits_with (cs : List Declaration) (base : Fragment) :
    Emits (emitWith d cs base) (.ofFragment (assembled d cs base)) := by
  have hall := (emits_text "WITH ").andThen <| (emits_joined_map ", " (emits_declaration hd) cs).andThen <|
    (emits_text " ").andThen (emits_fragment base)
  refine hall.congr ?_ ?_ ?_ <;> simp [assembled, String.append_assoc, Function.comp_def, List.flatMap_map]

lemma run_emitWith (cs : List Declaration) (base : Fragment) :
    (emitWith d cs base).run = .ok (assembled d cs base) :=
  (emits_with hd cs base).run_eq_ok.mpr ⟨trivial, rfl⟩

end Declaration

open Declaration

lemma aligned_ok_eq (f : Fragment) :
    aligned (.ok f) =
      match placeMarkers .question f.sql with
      | .error err => .error err
      | .ok (_, markers) =>
        if markers = f.params.length then .ok f else .error (.parameterMismatch markers f.params.length) := by
  have haligned : aligned (.ok f) = f.checkAligned >>= fun _ => .ok f := rfl
  rw [haligned, Fragment.checkAligned, Fragment.place]
  cases placeMarkers .question f.sql with
  | error err => rfl
  | ok r =>
    obtain ⟨sql, markers⟩ := r
    by_cases h : markers = f.params.length
    · simp only [bind, Except.bind, if_pos h]
      rfl
    · simp only [bind, Except.bind, if_neg h]
      rfl

/-- An empty list comes before a blank base, a blank base before the defects, and those before what the check of the
whole text finds. -/
theorem assembleWith_eq {d : Dialect} (hd : d.quote ∈ ['"', '\'', '\x60', '[']) (cs : List Declaration)
    (base : Fragment) :
    assembleWith d cs base =
      if cs = [] then .error (.configuration .noCtes)
      else if base.isBlank then .error (.configuration .emptyBase)
      else match (allDefects [] cs).head? with
        | some defect => .error (.configuration defect)
        | none =>
          match placeMarkers .question (assembled d cs base).sql with
          | .error err => .error err
          | .ok (_, markers) =>
            if markers = (assembled d cs base).params.length then .ok (assembled d cs base)
            else .error (.parameterMismatch markers (assembled d cs base).params.length) := by
  rw [assembleWith, validateAll_eq_report, report, run_emitWith hd, ← aligned_ok_eq]
  cases cs with
  | nil => rfl
  | cons c cs =>
    cases base.isBlank with
    | true => rfl
    | false => cases (allDefects [] (c :: cs)).head? <;> rfl

theorem assembleWith_eq_repeated_name :
    let d : Dialect := { Dialect.generic with quote := '[' }
    let first : Declaration := ⟨"Big", ["n"], ⟨"SELECT ?", [.int 1]⟩⟩
    let second : Declaration := ⟨"Big", [], ⟨" ", []⟩⟩
    let third : Declaration := ⟨"", [], ⟨"SELECT 1", []⟩⟩
    let base : Fragment := ⟨"SELECT * FROM [Big] WHERE n = ?", [.int 2]⟩
    let f : Fragment := ⟨"WITH [Big] (n) AS (SELECT ?) SELECT * FROM [Big] WHERE n = ?", [.int 1, .int 2]⟩
    d.quote ∈ ['"', '\'', '\x60', '['] ∧
      assembleWith d [first, second, third] base = .error (.configuration (.duplicateCte "Big")) ∧
      assembleWith d [first] base = .ok f := by
  intro d first second third base f
  have hd : d.quote ∈ ['"', '\'', '\x60', '['] := by decide
  have hbase : base.isBlank = false := by decide
  have htwice : (allDefects [] [first, second, third]).head? = some (.duplicateCte "Big") := by decide +kernel
  have hnone : (allDefects [] [first]).head? = none := by decide +kernel
  have hf : assembled d [first] base = f := Fragment.eq_of_sql_params (by decide +kernel) rfl
  have hmarkers : placeMarkers .question f.sql = .ok (f.sql, 2) := by decide +kernel
  refine ⟨hd, ?_, ?_⟩
  · rw [assembleWith_eq hd, htwice]
    simp [hbase]
  · rw [assembleWith_eq hd, hnone, hf, hmarkers]
    simp [hbase, f]

end SqlBuilder
