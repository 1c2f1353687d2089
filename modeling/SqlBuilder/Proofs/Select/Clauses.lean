import SqlBuilder.Proofs.Window.Call
import SqlBuilder.Select

namespace SqlBuilder

open Emitter

namespace Source

def Complete : Source → Prop
  | table path => "" ∉ Text.parts path
  | cte name => name ≠ ""

instance : DecidablePred Complete
  | table path => inferInstanceAs (Decidable ("" ∉ Text.parts path))
  | cte name => inferInstanceAs (Decidable (name ≠ ""))

def written (d : Dialect) : Source → String
  | table path => ".".intercalate ((Text.parts path).map d.spelling)
  | cte name => d.spelling name

end Source

def Fragment.conjunction (conditions : List Fragment) : String :=
  " AND ".intercalate (conditions.map (·.sql))

namespace SelectBody

def contents (d : Dialect) (b : SelectBody) (items conditions : List Fragment) : List String :=
  [(if b.distinct then "SELECT DISTINCT " else "SELECT ") ++
      if items = [] then "*" else ", ".intercalate (items.map (·.sql))] ++
    b.source.toList.map (fun s => "FROM " ++ s.written d) ++
    (if conditions = [] then [] else ["WHERE " ++ Fragment.conjunction conditions]) ++
    (if b.groupBy = [] then [] else ["GROUP BY " ++ ", ".intercalate (b.groupBy.map (·.written d))]) ++
    (if b.orderBy = [] then [] else ["ORDER BY " ++ ", ".intercalate (b.orderBy.map (·.written d))]) ++
    b.limit.toList.map (fun n => "LIMIT " ++ toString n.toNat) ++
    b.offset.toList.map (fun n => "OFFSET " ++ toString n.toNat)

def written (d : Dialect) (b : SelectBody) (items conditions : List Fragment) : Fragment :=
  ⟨" ".intercalate (b.contents d items conditions), items.flatMap (·.params) ++ conditions.flatMap (·.params)⟩

end SelectBody

section Emissions

variable {d : Dialect} (hd : d.quote ∈ ['"', '\'', '\x60', '['])

include hd

lemma Source.emits (s : Source) : Emits (s.emit d) ⟨s.Complete, .ofText (s.written d)⟩ := by
  have hname := emits_require (s.name ≠ "") .emptySourceName
  rw [decide_eq_true_eq] at hname
  cases s with
  | table path =>
    have hempty : "" ∉ Text.parts path → path ≠ "" := by
      rintro h rfl
      exact h (by decide)
    refine (hname.andThen (emits_path hd .table path)).congr ?_ ?_ ?_
    · simpa [Complete, Source.name] using hempty
    · simp [written, Fragment.empty]
    · simp [Fragment.empty, Fragment.ofText]
  | cte name =>
    refine (hname.andThen (emits_identifier hd name)).congr ?_ ?_ ?_
    · simp [Complete, Source.name]
    · simp [written, Fragment.empty, Fragment.ofText]
    · simp [Fragment.empty, Fragment.ofText]

omit hd in
lemma SelectBody.emits_projection (d : Dialect) (b : SelectBody) {items : List Fragment}
    (hitems : items = b.projection.map fun p => ((p.emit d).run).toOption.getD .empty) :
    Emits (b.emitProjection d)
      ⟨∀ p ∈ b.projection, ∃ g, (p.emit d).run = .ok g,
        ⟨(if b.distinct then "SELECT DISTINCT " else "SELECT ") ++
            if items = [] then "*" else ", ".intercalate (items.map (·.sql)),
          items.flatMap (·.params)⟩⟩ := by
  have hkeyword := emits_text (if b.distinct then "SELECT DISTINCT " else "SELECT ")
  subst hitems
  rw [emitProjection]
  cases b.projection with
  | nil => exact (hkeyword.andThen (emits_text "*")).congr (by simp) rfl rfl
  | cons p ps =>
    have hitems := emits_joined_map ", " (fun p : Projection => (p.appends_emit d).emits) (p :: ps)
    refine (hkeyword.andThen hitems).congr ?_ ?_ ?_ <;> simp [Function.comp_def, List.flatMap_map]

lemma SelectBody.emits (b : SelectBody) {items conditions : List Fragment}
    (hitems : items = b.projection.map fun p => ((p.emit d).run).toOption.getD .empty)
    (hconditions : conditions = b.filters.map fun e => (e.compile d).toOption.getD .empty) :
    Emits (b.emit d)
      ⟨(∀ p ∈ b.projection, ∃ g, (p.emit d).run = .ok g) ∧ (∀ s ∈ b.source, s.Complete) ∧
          (∀ e ∈ b.filters, ∃ g, e.compile d = .ok g) ∧ (∀ c ∈ b.groupBy, c.Complete) ∧
          ∀ k ∈ b.orderBy, k.column.Complete,
        b.written d items conditions⟩ := by
  have hprojection := b.emits_projection d hitems
  have hsource := emits_map (fun s => (emits_text "FROM ").andThen (Source.emits hd s)) b.source.toList
  have hfilters := emits_clause_map "WHERE " " AND " (fun e : Expr => (e.appends_emit d).emits) b.filters
  have hgroup := emits_clause_map "GROUP BY " ", " (Column.emits hd) b.groupBy
  have horder := emits_clause_map "ORDER BY " ", " (SortKey.emits hd) b.orderBy
  have hcount : ∀ keyword (n : UInt64), Emits (emitCount keyword n) (.ofText (keyword ++ toString n.toNat)) :=
    fun keyword n => ((emits_text keyword).andThen (emits_text _)).congr (by simp) rfl rfl
  have hlimit := emits_map (hcount "LIMIT ") b.limit.toList
  have hoffset := emits_map (hcount "OFFSET ") b.offset.toList
  have hclauses := List.rel_append (List.rel_append (List.rel_append (List.rel_append (List.rel_append (List.rel_append
    (.cons hprojection .nil) hsource) hfilters) hgroup) horder) hlimit) hoffset
  refine (emits_joined " " hclauses).congr ?_ ?_ ?_
  · simp only [Emission.condition_joined, List.forall_mem_append, List.forall_mem_singleton,
      Emission.forall_mem_clause, List.forall_mem_map, Option.mem_toList, Option.mem_def, Emission.condition_append,
      Emission.condition_ofText, true_and, implies_true, and_true, and_assoc, Expr.compile]
  · simp [Emission.map_sql_clause, written, contents, Fragment.conjunction, Function.comp_def, Fragment.ofText,
      hconditions, Expr.compile]
  · have hnone : ∀ {α : Type} (xs : List α), (xs.flatMap fun _ => ([] : List Value)) = [] := fun xs => by simp
    simp [Emission.flatMap_params_clause, List.flatMap_map, Fragment.ofText, written, hconditions, Expr.compile, hnone]

lemma SelectBody.compile_eq_ok (b : SelectBody) (f : Fragment) :
    b.compile d = .ok f ↔
      (∀ s ∈ b.source, s.Complete) ∧ (∀ c ∈ b.groupBy, c.Complete) ∧ (∀ k ∈ b.orderBy, k.column.Complete) ∧
        ∃ items conditions, List.Forall₂ (fun p g => (p.emit d).run = .ok g) b.projection items ∧
          List.Forall₂ (fun e g => e.compile d = .ok g) b.filters conditions ∧ f = b.written d items conditions := by
  rw [compile, (b.emits hd rfl rfl).run_eq_ok]
  constructor
  · rintro ⟨⟨hitems, hsource, hfilters, hgroup, horder⟩, hf⟩
    have hprojection := (forall₂_ok_iff Fragment.empty).mpr ⟨hitems, rfl⟩
    have hconditions := (forall₂_ok_iff Fragment.empty).mpr ⟨hfilters, rfl⟩
    exact ⟨hsource, hgroup, horder, _, _, hprojection, hconditions, hf⟩
  · rintro ⟨hsource, hgroup, horder, items, conditions, hprojection, hconditions, hf⟩
    obtain ⟨hitems, rfl⟩ := (forall₂_ok_iff Fragment.empty).mp hprojection
    obtain ⟨hfilters, rfl⟩ := (forall₂_ok_iff Fragment.empty).mp hconditions
    exact ⟨⟨hitems, hsource, hfilters, hgroup, horder⟩, hf⟩

end Emissions

end SqlBuilder
