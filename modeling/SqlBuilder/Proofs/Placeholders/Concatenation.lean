import Mathlib.Data.List.Basic
import SqlBuilder.Proofs.Lexical.Aligned
import SqlBuilder.Proofs.Lexical.Junction
import SqlBuilder.Proofs.Lexical.Positions

namespace SqlBuilder

namespace Mode

lemma next_remembers (m : Mode) (c : Char) : (m.next c = dash → c = '-') ∧ (m.next c = slash → c = '/') := by
  have hcode : (ofCode c = dash → c = '-') ∧ (ofCode c = slash → c = '/') := by grind [ofCode]
  cases m <;> grind [next]

lemma fresh_after {cs ds : List Char} (hcode : (code.after cs).isCode = true)
    (hdash : ¬ (cs.getLast? = some '-' ∧ ds.head? = some '-'))
    (hslash : ¬ (cs.getLast? = some '/' ∧ ds.head? = some '*')) : (code.after cs).Fresh ds := by
  rcases List.eq_nil_or_concat' cs with rfl | ⟨front, c, rfl⟩
  · exact fresh_code ds
  · have hmode : code.after (front ++ [c]) = (code.after front).next c := after_append code front [c]
    rw [List.getLast?_concat, Option.some_inj] at hdash hslash
    rw [hmode] at hcode ⊢
    obtain ⟨hlast, hlast'⟩ := next_remembers (code.after front) c
    exact ⟨hcode, fun h hhead => hdash ⟨hlast h, hhead⟩, fun h hhead => hslash ⟨hlast' h, hhead⟩⟩

end Mode

lemma placeMarkers_append_of_fresh (style : PlaceholderStyle) {a b : String}
    (h : (Mode.code.after a.toList).Fresh b.toList) :
    placeMarkers style (a ++ b) = (placeMarkers style b).map fun r =>
      (String.ofList (Mode.code.placeMarkers style 1 a.toList ++
          Mode.code.placeMarkers style (Mode.code.markers a.toList + 1) b.toList),
        Mode.code.markers a.toList + r.2) := by
  rw [placeMarkers_eq_map, placeMarkers_eq_map, String.toList_append, Mode.after_append, h.close_eq,
    Mode.placeMarkers_append, h.placeMarkers_eq, Mode.markers_append, h.markers_eq, Nat.add_comm 1]
  cases (Mode.code.after b.toList).close <;> rfl

/-- A comment that opens with one character of each text is left out, since it takes in what follows. -/
theorem placeMarkers_across_junction {a b : String} (hcode : (Mode.code.after a.toList).isCode = true)
    (hdash : ¬ (a.toList.getLast? = some '-' ∧ b.toList.head? = some '-'))
    (hslash : ¬ (a.toList.getLast? = some '/' ∧ b.toList.head? = some '*')) :
    ∃ n t, (placeMarkers .question a = .ok (a, n) ∧ placeMarkers .numbered a = .ok (t, n)) ∧
      placeMarkers .question (a ++ b) = (placeMarkers .question b).map (fun r => (a ++ b, n + r.2)) ∧
      placeMarkers .numbered (a ++ b) = (placeMarkers .numbered b).map fun r =>
        (t ++ String.ofList (Mode.code.numberedFrom (n + 1) b.toList), n + r.2) := by
  have hclose : (Mode.code.after a.toList).close = .ok () := Mode.close_eq_ok.mpr (.inl hcode)
  have hfresh := Mode.fresh_after hcode hdash hslash
  refine ⟨Mode.code.markers a.toList, String.ofList (Mode.code.placeMarkers .numbered 1 a.toList), ⟨?_, ?_⟩, ?_, ?_⟩
  · rw [placeMarkers_eq_map, hclose, Mode.placeMarkers_question, String.ofList_toList]
    rfl
  · rw [placeMarkers_eq_map, hclose]
    rfl
  · rw [placeMarkers_append_of_fresh .question hfresh]
    simp only [Mode.placeMarkers_question, String.ofList_append, String.ofList_toList]
  · rw [placeMarkers_append_of_fresh .numbered hfresh]
    simp only [Mode.placeMarkers_numberedFrom, String.ofList_append]

theorem placeMarkers_across_junction_after_dash :
    (Mode.code.after "a = ? AND '?' <> b -".toList).isCode = true ∧
      placeMarkers .numbered "a = ? AND '?' <> b -" = .ok ("a = $1 AND '?' <> b -", 1) ∧
      placeMarkers .question ("a = ? AND '?' <> b -" ++ "> ? -- ?") = .ok ("a = ? AND '?' <> b -> ? -- ?", 2) ∧
      placeMarkers .numbered ("a = ? AND '?' <> b -" ++ "> ? -- ?") = .ok ("a = $1 AND '?' <> b -> $2 -- ?", 2) := by
  have hcode : (Mode.code.after "a = ? AND '?' <> b -".toList).isCode = true := by decide
  have hfirst : placeMarkers .numbered "a = ? AND '?' <> b -" = .ok ("a = $1 AND '?' <> b -", 1) := rfl
  obtain ⟨n, t, ⟨_, ha⟩, hquestion, hnumbered⟩ :=
    placeMarkers_across_junction (b := "> ? -- ?") hcode (by decide) (by decide)
  obtain ⟨rfl, rfl⟩ := Prod.mk.inj (Except.ok.inj (ha.symm.trans hfirst))
  exact ⟨hcode, ha, hquestion, hnumbered⟩

-- alone, the second text has a marker
example : placeMarkers .question ("a -" ++ "- ?") = .ok ("a -- ?", 0) := rfl

end SqlBuilder
