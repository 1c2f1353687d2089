import SqlBuilder.Proofs.Lexical.Aligned
import SqlBuilder.Proofs.Lexical.Positions
import SqlBuilder.Proofs.Pieces.Related

namespace SqlBuilder

open Emitter

lemma Declares.eq_self {ctes : List Cte} {cs cs' : List Declaration}
    (h : Declares (fun _ f f' => f' = f) ctes cs cs') : cs' = cs := by
  induction h with
  | nil => rfl
  | cons _ _ hbody _ ih => rw [hbody, ih]

section Congruence

variable {d d' : Dialect} (h : d.identifier = d'.identifier)

include h

lemma parametric_congr : Parametric d d' id fun e e' _ => e = e' where
  silent := rfl
  andThen he hf := by rw [he, hf]
  guarded _ := rfl
  words _ := rfl
  function _ := rfl
  identifier name := by
    funext out
    rw [identifier, identifier, h]
  value _ := rfl
  raw f := by rw [f.mapValues_id]
  frame _ := rfl
  aligned _ he := by rw [he]

lemma SelectBody.compile_congr (b : SelectBody) : b.compile d = b.compile d' := by
  have hemit := (parametric_congr h).selectBody b
  rw [b.mapValues_id] at hemit
  exact congrArg run hemit

lemma assembleWith_congr (cs : List Declaration) (base : Fragment) :
    assembleWith d cs base = assembleWith d' cs base := by
  have hcs : cs.map (·.emit d) = cs.map (·.emit d') :=
    List.map_congr_left fun c _ => (parametric_congr h).declaration c c [] rfl rfl rfl
  rw [assembleWith, assembleWith, emitWith, emitWith, hcs]

lemma respected_congr : Respected d d' id (fun _ => True) fun _ f f' => f' = f where
  body b _ := by rw [b.mapValues_id, alike_eq_iff, b.compile_congr h]
  raw f := f.mapValues_id
  assembled hcs _ hbase _ := by rw [alike_eq_iff, hcs.eq_self, hbase, assembleWith_congr h]

lemma Query.compile_congr (q : Query) : q.compile d = q.compile d' := by
  have hwalk := q.alike_compile (respected_congr h) fun _ _ => trivial
  rw [q.mapValues_id, alike_eq_iff] at hwalk
  exact hwalk.symm

end Congruence

def Query.hasClause : Query → Bool
  | .composed _ _ | .select ⟨_, some _⟩ => true
  | _ => false

lemma With.aligned_of_precede {d : Dialect} (w : With) {base f : Fragment} (h : w.precede d base = .ok f) :
    f.Aligned := by
  obtain ⟨ctes⟩ := w
  obtain ⟨cs, _, h⟩ := bind_eq_ok.mp h
  obtain ⟨_, _, h⟩ := bind_eq_ok.mp h
  obtain ⟨_, _, h⟩ := bind_eq_ok.mp h
  obtain ⟨_, _, h⟩ := bind_eq_ok.mp h
  exact (aligned_eq_ok.mp h).2

lemma Query.aligned_of_hasClause {d : Dialect} {q : Query} (hq : q.hasClause = true) {f : Fragment}
    (h : q.compile d = .ok f) : f.Aligned := by
  match q, hq with
  | .composed w base, _ =>
    obtain ⟨_, _, h⟩ := bind_eq_ok.mp h
    exact w.aligned_of_precede h
  | .select ⟨body, some w⟩, _ =>
    obtain ⟨_, _, h⟩ := bind_eq_ok.mp h
    obtain ⟨_, _, h⟩ := bind_eq_ok.mp h
    exact w.aligned_of_precede h

structure Restyled (f : Fragment) (question numbered : Statement) : Prop where
  params : question.params = f.params ∧ numbered.params = f.params
  markers : Mode.code.marksBefore f.sql.toList f.sql.toList.length = f.params.length
  question : question.sql = f.sql
  numbered : numbered.sql = String.ofList (Mode.code.numbered f.sql.toList)

lemma Fragment.alike_place (f : Fragment) : Alike (Restyled f) (f.place .question) (f.place .numbered) := by
  have hcheck : (f.place .question).map (fun _ => ()) = (f.place .numbered).map fun _ => () := by
    rw [← f.checkAligned_eq_map, ← f.checkAligned_eq_map]
  refine alike_of_map_eq hcheck fun s s' hs hs' _ => ?_
  obtain ⟨haligned, rfl⟩ := place_eq_ok.mp hs
  obtain ⟨_, rfl⟩ := place_eq_ok.mp hs'
  refine ⟨⟨rfl, rfl⟩, ?_, ?_, ?_⟩
  · rw [← Mode.markers_eq_marksBefore, haligned.markers]
  · rw [Mode.placeMarkers_question, String.ofList_toList]
  · rw [Mode.placeMarkers_numbered]

theorem Query.alike_restyled (q : Query) (d : Dialect) :
    let question : Dialect := { d with placeholders := .question }
    let numbered : Dialect := { d with placeholders := .numbered }
    q.compile question = q.compile numbered ∧
      Alike (fun s s' => ∃ f, q.compile question = .ok f ∧ Restyled f s s')
        (q.statement question) (q.statement numbered) ∧
      (q.hasClause = true → ∀ f, q.compile question = .ok f →
        (∃ s, q.statement question = .ok s) ∧ ∃ s, q.statement numbered = .ok s) := by
  intro question numbered
  have hidentifier : question.identifier = numbered.identifier := rfl
  have hcompile : q.compile question = q.compile numbered := q.compile_congr hidentifier
  refine ⟨hcompile, ?_, fun hq f hf => ?_⟩
  · rw [Query.statement, Query.statement, ← hcompile]
    cases hf : q.compile question with
    | error err => exact rfl
    | ok f => exact f.alike_place.imp fun s s' h => ⟨f, rfl, h⟩
  · have haligned : f.Aligned := aligned_of_hasClause hq hf
    have hplace : ∀ style, ∃ s, f.place style = .ok s := fun style => ⟨_, Fragment.place_eq_ok.mpr ⟨haligned, rfl⟩⟩
    obtain ⟨s, hs⟩ := hplace .question
    obtain ⟨s', hs'⟩ := hplace .numbered
    exact ⟨⟨s, bind_eq_ok.mpr ⟨f, hf, hs⟩⟩, ⟨s', bind_eq_ok.mpr ⟨f, hcompile ▸ hf, hs'⟩⟩⟩

end SqlBuilder
