import Mathlib.Algebra.GroupWithZero.Nat
import SqlBuilder.Proofs.Lexical.SelfContained

namespace SqlBuilder

namespace Mode

lemma Separates.append {cs ds : List Char} (hc : Separates cs) (hd : Separates ds) : Separates (cs ++ ds) := by
  intro m hm
  obtain ⟨hcode, hmarkers⟩ := hc m hm
  obtain ⟨hcode', hmarkers'⟩ := hd .code rfl
  exact ⟨by rw [after_append, hcode, hcode'], by rw [markers_append, hcode, hmarkers, hmarkers']⟩

end Mode

namespace Fragment

def Closed (f : Fragment) : Prop :=
  (Mode.code.after f.sql.toList).isCode = true

def markers (f : Fragment) : ℕ :=
  Mode.code.markers f.sql.toList

instance (f : Fragment) : Decidable f.Closed :=
  inferInstanceAs (Decidable (_ = _))

lemma markers_append (f g : Fragment) :
    (f ++ g).markers = f.markers + (Mode.code.after f.sql.toList).markers g.sql.toList := by
  rw [markers, sql_append, String.toList_append, Mode.markers_append]
  rfl

lemma separates_around {s t : String} (hs : Mode.Separates s.toList) {f : Fragment} (hf : f.SelfContained)
    (hp : f.params = []) (ht : Mode.Separates t.toList) : Mode.Separates (s ++ (f.sql ++ t)).toList := by
  intro m hm
  obtain ⟨hcode, hmarkers⟩ := hs m hm
  obtain ⟨hcode', hmarkers'⟩ := ht _ hf.1
  rw [String.toList_append, String.toList_append]
  constructor
  · rw [Mode.after_append, Mode.after_append, hcode, hcode']
  · rw [Mode.markers_append, Mode.markers_append, hcode, hmarkers, hf.2, hmarkers', hp]
    rfl

def weave : List (String × Fragment) → Fragment
  | [] => empty
  | (s, f) :: rest => ofText s ++ (f ++ weave rest)

lemma weave_append (xs ys : List (String × Fragment)) : weave (xs ++ ys) = weave xs ++ weave ys := by
  induction xs with
  | nil => rw [List.nil_append, weave, empty_append]
  | cons x xs ih =>
    obtain ⟨s, f⟩ := x
    rw [List.cons_append, weave, weave, ih, append_assoc, append_assoc]

lemma params_weave (xs : List (String × Fragment)) : (weave xs).params = xs.flatMap (·.2.params) := by
  induction xs with
  | nil => rfl
  | cons x xs ih =>
    obtain ⟨s, f⟩ := x
    rw [List.flatMap_cons, ← ih]
    rfl

section Weave

variable {xs : List (String × Fragment)} (h : ∀ x ∈ xs, Mode.Separates x.1.toList ∧ x.2.Closed)

include h

lemma reads_weave {m : Mode} (hm : m.isCode = true) :
    (m.after (weave xs).sql.toList).isCode = true ∧
      m.markers (weave xs).sql.toList = (xs.map (·.2.markers)).sum := by
  induction xs generalizing m with
  | nil => exact ⟨hm, rfl⟩
  | cons x xs ih =>
    obtain ⟨s, f⟩ := x
    rw [List.forall_mem_cons] at h
    obtain ⟨⟨hs, hf⟩, hrest⟩ := h
    obtain ⟨hcode, hmarkers⟩ := hs m hm
    obtain ⟨hend, hcount⟩ := ih hrest hf
    rw [weave, sql_append, sql_append, String.toList_append, String.toList_append]
    constructor
    · rwa [Mode.after_append, Mode.after_append, ofText, hcode]
    · rw [Mode.markers_append, Mode.markers_append, ofText, hcode, hmarkers, hcount, List.map_cons, List.sum_cons,
        Nat.zero_add]
      rfl

lemma reads_weave_text {s : String} (hs : Mode.Separates s.toList) :
    Mode.code.after (weave xs ++ ofText s).sql.toList = .code ∧
      (weave xs ++ ofText s).markers = (xs.map (·.2.markers)).sum := by
  obtain ⟨hend, hcount⟩ := reads_weave h (m := .code) rfl
  obtain ⟨hcode, hmarkers⟩ := hs _ hend
  constructor
  · rw [sql_append, String.toList_append, Mode.after_append]
    exact hcode
  · rw [Fragment.markers_append, Fragment.markers, hcount]
    exact congrArg _ hmarkers

lemma reads_weave_last {s : String} (hs : Mode.Separates s.toList) (f : Fragment) :
    Mode.code.after (weave (xs ++ [(s, f)])).sql.toList = Mode.code.after f.sql.toList ∧
      (weave (xs ++ [(s, f)])).markers = (xs.map (·.2.markers)).sum + f.markers := by
  obtain ⟨hcode, hcount⟩ := reads_weave_text h hs
  have hlast : weave (xs ++ [(s, f)]) = weave xs ++ ofText s ++ f := by
    rw [weave_append, weave, weave, append_empty, append_assoc]
  rw [hlast, markers_append, hcount, sql_append, String.toList_append, Mode.after_append, hcode]
  exact ⟨rfl, rfl⟩

end Weave

end Fragment

end SqlBuilder
