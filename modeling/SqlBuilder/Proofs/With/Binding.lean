import Mathlib.Algebra.Order.BigOperators.Group.List
import Mathlib.Algebra.Order.Group.Nat
import SqlBuilder.Proofs.With.Assembled

/-!
Which values fill the markers of a part once it stands in the text of a `WITH` query. The values of all parts are
counted together, so a value too many in one part makes up for one that is missing in another.
-/

namespace SqlBuilder

open Declaration Fragment

namespace Fragment

/-- Behind these texts and values a part has its own values for its own markers. -/
structure Fills (before part : Fragment) : Prop where
  code : Mode.code.after before.sql.toList = .code
  markers_before : before.markers = before.params.length
  markers : part.markers = part.params.length

/-- Every part stands in the fragment, behind the values of the parts in front of it, and has its own values. -/
def BindsWithin (f : Fragment) (parts : List Fragment) : Prop :=
  ∀ front part rest, parts = front ++ part :: rest →
    ∃ before after, f = before ++ (part ++ after) ∧ before.params = front.flatMap params ∧ Fills before part

lemma BindsWithin.markers_eq {f : Fragment} {parts : List Fragment} (h : f.BindsWithin parts) :
    ∀ p ∈ parts, p.markers = p.params.length := by
  intro p hp
  obtain ⟨front, rest, hsplit⟩ := List.append_of_mem hp
  obtain ⟨_, _, _, _, hfills⟩ := h front p rest hsplit
  exact hfills.markers

/-- No part has too few values while another has too many. -/
def OneSided (parts : List Fragment) : Prop :=
  (∀ p ∈ parts, p.params.length ≤ p.markers) ∨ ∀ p ∈ parts, p.markers ≤ p.params.length

instance (parts : List Fragment) : Decidable (OneSided parts) :=
  inferInstanceAs (Decidable (_ ∨ _))

lemma bindsWithin_weave {xs : List (String × Fragment)} (hs : ∀ x ∈ xs, Mode.Separates x.1.toList)
    (hclosed : ∀ x ∈ xs.dropLast, x.2.Closed) (hown : ∀ x ∈ xs, x.2.markers = x.2.params.length) :
    (weave xs).BindsWithin (xs.map Prod.snd) := by
  intro front part rest hsplit
  obtain ⟨front, tail, rfl, rfl, htail⟩ := List.map_eq_append_iff.mp hsplit
  obtain ⟨⟨s, part⟩, rest, rfl, rfl, rfl⟩ := List.map_eq_cons_iff.mp htail
  rw [List.dropLast_append_cons, List.forall_mem_append] at hclosed
  rw [List.forall_mem_append, List.forall_mem_cons] at hs hown
  have hfront : ∀ x ∈ front, Mode.Separates x.1.toList ∧ x.2.Closed := fun x hx => ⟨hs.1 x hx, hclosed.1 x hx⟩
  obtain ⟨hcode, hmarkers⟩ := reads_weave_text hfront hs.2.1
  have hparams : (weave front ++ ofText s).params = (front.map Prod.snd).flatMap params := by
    rw [params_append, params_weave, List.flatMap_map]
    exact List.append_nil _
  refine ⟨weave front ++ ofText s, weave rest, ?_, hparams, hcode, ?_, hown.2.1⟩
  · rw [weave_append, weave, append_assoc]
  · rw [hmarkers, hparams, List.length_flatMap, List.map_map]
    exact congrArg List.sum (List.map_congr_left hown.1)

end Fragment

lemma eq_of_sum_map_eq {α : Type} {f g : α → ℕ} {xs : List α} (hle : ∀ x ∈ xs, f x ≤ g x)
    (hsum : (xs.map f).sum = (xs.map g).sum) : ∀ x ∈ xs, f x = g x := by
  intro x hx
  by_contra hne
  exact absurd hsum (List.sum_lt_sum f g hle ⟨x, hx, (hle x hx).lt_of_ne hne⟩).ne

lemma Fragment.forall_mem_markers_eq_iff {parts : List Fragment} :
    (∀ p ∈ parts, p.markers = p.params.length) ↔
      OneSided parts ∧ (parts.map (·.markers)).sum = (parts.map (·.params.length)).sum := by
  constructor
  · intro h
    exact ⟨.inl fun p hp => (h p hp).ge, congrArg List.sum (List.map_congr_left h)⟩
  · rintro ⟨hmissing | hextra, hsum⟩
    · exact fun p hp => (eq_of_sum_map_eq hmissing hsum.symm p hp).symm
    · exact eq_of_sum_map_eq hextra hsum

section Binding

variable {d : Dialect} {cs : List Declaration} {base f : Fragment}

lemma markers_of_assembleWith (hf : assembleWith d cs base = .ok f) :
    f.markers = ((parts cs base).map (·.params.length)).sum := by
  obtain ⟨hne, _, _, hemit, haligned⟩ := assembleWith_eq_ok.mp hf
  have hparams : f.params = (parts cs base).flatMap (·.params) := by
    rw [eq_weave_of_emitWith hne hemit, params_placed]
  calc f.markers = f.params.length := haligned.markers
    _ = ((parts cs base).map (·.params.length)).sum := by rw [hparams, List.length_flatMap]

lemma sum_markers_of_assembleWith (hf : assembleWith d cs base = .ok f)
    (hcs : ∀ c ∈ cs, c.Spelled d ∧ c.body.Closed) : ((parts cs base).map (·.markers)).sum = f.markers := by
  obtain ⟨hne, _, _, hemit, _⟩ := assembleWith_eq_ok.mp hf
  rw [eq_weave_of_emitWith hne hemit, (reads_placed hcs base).2]

lemma bindsWithin_of_forall_mem_markers_eq (hf : assembleWith d cs base = .ok f)
    (hcs : ∀ c ∈ cs, c.Spelled d ∧ c.body.Closed) (hown : ∀ p ∈ parts cs base, p.markers = p.params.length) :
    f.BindsWithin (parts cs base) := by
  obtain ⟨hne, _, _, hemit, _⟩ := assembleWith_eq_ok.mp hf
  have hlayout := forall_mem_layout hcs
  rw [← map_snd_placed d, List.forall_mem_map] at hown
  rw [eq_weave_of_emitWith hne hemit, ← map_snd_placed d]
  apply bindsWithin_weave ?separates ?closed hown
  case separates =>
    rw [placed, List.forall_mem_append, List.forall_mem_singleton]
    exact ⟨fun x hx => (hlayout x hx).1, separates_last⟩
  case closed =>
    rw [placed, List.dropLast_concat]
    exact fun x hx => (hlayout x hx).2

/-- Every part has as many values as markers exactly when no part has too few values while another has too many, and the
markers of the parts add up to those of the whole text. They do where no quote and no comment runs from one part into
the next, and then each part has its own values at its own markers. -/
theorem bindsWithin_of_assembleWith_iff (hf : assembleWith d cs base = .ok f) :
    ((∀ p ∈ parts cs base, p.markers = p.params.length) ↔
        OneSided (parts cs base) ∧ ((parts cs base).map (·.markers)).sum = f.markers) ∧
      ((∀ c ∈ cs, c.Spelled d ∧ c.body.Closed) → (f.BindsWithin (parts cs base) ↔ OneSided (parts cs base))) := by
  have hcounts : (∀ p ∈ parts cs base, p.markers = p.params.length) ↔
      OneSided (parts cs base) ∧ ((parts cs base).map (·.markers)).sum = f.markers := by
    rw [markers_of_assembleWith hf]
    exact forall_mem_markers_eq_iff
  refine ⟨hcounts, fun hcs => ⟨fun h => ?_, fun h => ?_⟩⟩
  · exact (hcounts.mp h.markers_eq).1
  · exact bindsWithin_of_forall_mem_markers_eq hf hcs (hcounts.mpr ⟨h, sum_markers_of_assembleWith hf hcs⟩)

theorem bindsWithin_of_assembleWith_iff_commented_base :
    ∃ cs base f, assembleWith .generic cs base = .ok f ∧ (∀ p ∈ parts cs base, p.markers = p.params.length) ∧
      (∀ c ∈ cs, c.Spelled .generic ∧ c.body.Closed) ∧ f.BindsWithin (parts cs base) := by
  have hf : assembleWith .generic
      [⟨"a", ["n?"], ⟨"SELECT '?', ?", [.int 1]⟩⟩, ⟨"b", [], ⟨"SELECT ?", [.int 2]⟩⟩] ⟨"SELECT ? -- ?", [.int 3]⟩ =
      .ok ⟨"WITH a (\"n?\") AS (SELECT '?', ?), b AS (SELECT ?) SELECT ? -- ?", [.int 1, .int 2, .int 3]⟩ := rfl
  have hcs : ∀ c ∈ [⟨"a", ["n?"], ⟨"SELECT '?', ?", [.int 1]⟩⟩, ⟨"b", [], ⟨"SELECT ?", [.int 2]⟩⟩],
      Spelled .generic c ∧ c.body.Closed := by
    rw [List.forall_mem_cons, List.forall_mem_singleton]
    exact ⟨⟨spelled_of_no_backslash rfl (by decide), by decide⟩, ⟨spelled_of_no_backslash rfl (by decide), by decide⟩⟩
  obtain ⟨hcounts, hbinds⟩ := bindsWithin_of_assembleWith_iff hf
  have hown := hcounts.mpr ⟨by decide, rfl⟩
  exact ⟨_, _, _, hf, hown, hcs, (hbinds hcs).mpr (hcounts.mp hown).1⟩

/-- The value of the base fills the marker of the body. -/
theorem assembleWith_binds_across_parts :
    ∃ cs base f, assembleWith .generic cs base = .ok f ∧ ¬ ∀ p ∈ parts cs base, p.markers = p.params.length := by
  refine ⟨[⟨"a", [], ⟨"SELECT ?", []⟩⟩], ⟨"SELECT 1", [.int 7]⟩, ⟨"WITH a AS (SELECT ?) SELECT 1", [.int 7]⟩, rfl, ?_⟩
  decide

end Binding

end SqlBuilder
