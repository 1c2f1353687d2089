import SqlBuilder.Proofs.Lexical.Aligned
import SqlBuilder.Proofs.Lexical.Inert
import SqlBuilder.Proofs.Lexical.Positions

/-!
Numbered placeholders read back from a finished text. A placeholder goes on to the last digit behind its `$`, so a digit
that stands right behind a marker becomes part of the number.
-/

namespace SqlBuilder

namespace Mode

def references (m : Mode) : List Char → List (List Char)
  | [] => []
  | c :: cs =>
    if c = '$' ∧ m.isCode = true then ('$' :: cs.takeWhile Char.isDigit) :: (m.next c).references cs
    else (m.next c).references cs

def MarkersApart (m : Mode) (cs : List Char) : Prop :=
  ∀ i, m.marksAt cs i = true → ∀ c, cs[i + 1]? = some c → c.isDigit = false

lemma markersApart_cons {m : Mode} {c : Char} {cs : List Char} :
    m.MarkersApart (c :: cs) ↔
      (m.isMarker c = true → ∀ d, cs.head? = some d → d.isDigit = false) ∧ (m.next c).MarkersApart cs := by
  rw [MarkersApart, MarkersApart, ← Nat.and_forall_add_one]
  simp only [marksAt_zero, marksAt_succ, List.getElem?_cons_succ, List.head?_eq_getElem?]

lemma takeWhile_digits_eq_nil {cs : List Char} :
    cs.takeWhile Char.isDigit = [] ↔ ∀ d, cs.head? = some d → d.isDigit = false := by
  cases cs with
  | nil => simp
  | cons c cs => simp [List.takeWhile_cons]

lemma references_append {m : Mode} {cs : List Char} (h : '$' ∉ cs) (ds : List Char) :
    m.references (cs ++ ds) = (m.after cs).references ds := by
  induction cs generalizing m with
  | nil => rfl
  | cons c cs ih =>
    rw [List.mem_cons, not_or] at h
    rw [List.cons_append, references, if_neg (fun hc => h.1 hc.1.symm), ih h.2, after_cons]

lemma takeWhile_placeMarkers (m : Mode) (k : ℕ) (cs : List Char) :
    (m.placeMarkers .numbered k cs).takeWhile Char.isDigit = cs.takeWhile Char.isDigit := by
  induction cs generalizing m with
  | nil => rfl
  | cons c cs ih =>
    by_cases hmarker : m.isMarker c = true
    · -- both stop at once, at the `$` and at the marker
      obtain rfl : c = '?' := (eq_of_isMarker hmarker).1
      rw [placeMarkers, if_pos hmarker]
      rfl
    · rw [placeMarkers, if_neg hmarker, List.takeWhile_cons, List.takeWhile_cons, ih]

lemma references_number {m : Mode} (hm : m.isCode = true) (k : ℕ) (cs : List Char) :
    m.references ('$' :: (Nat.toDigits 10 k ++ cs)) =
      ('$' :: (Nat.toDigits 10 k ++ cs.takeWhile Char.isDigit)) :: code.references cs := by
  have hdigits : ∀ c ∈ Nat.toDigits 10 k, c.isDigit = true := fun c hc =>
    Nat.isDigit_of_mem_toDigits (by decide) (by decide) hc
  have hnone : '$' ∉ Nat.toDigits 10 k := fun hmem => absurd (hdigits _ hmem) (by decide)
  have hdollar : m.next '$' = code := next_of_isInert hm rfl
  rw [references, if_pos ⟨rfl, hm⟩, List.takeWhile_append_of_pos hdigits, hdollar, references_append hnone,
    after_inert (isInert_toDigits k)]

lemma references_placeMarkers_iff {m : Mode} {cs : List Char} (h : '$' ∉ cs) (k : ℕ) :
    m.references (m.placeMarkers .numbered k cs) =
        (List.range' k (m.markers cs)).map (fun i => '$' :: Nat.toDigits 10 i) ↔
      m.MarkersApart cs := by
  induction cs generalizing m k with
  | nil => exact iff_of_true rfl nofun
  | cons c cs ih =>
    rw [List.mem_cons, not_or] at h
    rw [markersApart_cons]
    by_cases hmarker : m.isMarker c = true
    · obtain ⟨rfl, hcode⟩ := eq_of_isMarker hmarker
      have hnext : m.next '?' = code := next_marker hcode
      have hplace : m.placeMarkers .numbered k ('?' :: cs) =
          '$' :: (Nat.toDigits 10 k ++ (m.next '?').placeMarkers .numbered (k + 1) cs) := if_pos hmarker
      have hcount : m.markers ('?' :: cs) = (m.next '?').markers cs + 1 := by
        rw [markers, if_pos hmarker, Nat.add_comm]
      have hnumber : '$' :: (Nat.toDigits 10 k ++ cs.takeWhile Char.isDigit) = '$' :: Nat.toDigits 10 k ↔
          ∀ d, cs.head? = some d → d.isDigit = false := by
        rw [List.cons_inj_right, List.append_right_eq_self, takeWhile_digits_eq_nil]
      rw [hplace, hcount, hnext, references_number hcode, takeWhile_placeMarkers, List.range'_succ, List.map_cons,
        List.cons_eq_cons, hnumber, ih h.2, forall_prop_of_true hmarker]
    · have hplace : m.placeMarkers .numbered k (c :: cs) = c :: (m.next c).placeMarkers .numbered k cs := if_neg hmarker
      have hcount : m.markers (c :: cs) = (m.next c).markers cs := by
        rw [markers, if_neg hmarker, Nat.zero_add]
      rw [hplace, hcount, references, if_neg fun hc => h.1 hc.1.symm, ih h.2, forall_prop_of_false hmarker, true_and]

end Mode

namespace Fragment

theorem references_finish_iff {d : Dialect} (hd : d.placeholders = .numbered) {f : Fragment} {s : Statement}
    (hs : f.finish d = .ok s) (h : '$' ∉ f.sql.toList) :
    Mode.code.references s.sql.toList =
        (List.range' 1 s.params.length).map (fun k => '$' :: Nat.toDigits 10 k) ↔
      Mode.code.MarkersApart f.sql.toList := by
  rw [finish, hd] at hs
  obtain ⟨haligned, rfl⟩ := place_eq_ok.mp hs
  rw [String.toList_ofList, ← haligned.markers]
  exact Mode.references_placeMarkers_iff h 1

theorem references_finish_iff_digit_in_quotes :
    ∃ (f : Fragment) (s : Statement), Dialect.postgres.placeholders = .numbered ∧ f.finish .postgres = .ok s ∧
      '$' ∉ f.sql.toList ∧
      (Mode.code.references s.sql.toList =
          (List.range' 1 s.params.length).map (fun k => '$' :: Nat.toDigits 10 k) ↔
        Mode.code.MarkersApart f.sql.toList) := by
  have hs : finish .postgres ⟨"SELECT '?1', a - ? FROM t WHERE b IN (?, ?) -- ?0", [.int 1, .int 2, .int 3]⟩ =
      .ok ⟨"SELECT '?1', a - $1 FROM t WHERE b IN ($2, $3) -- ?0", [.int 1, .int 2, .int 3]⟩ := rfl
  have hdollar : '$' ∉ "SELECT '?1', a - ? FROM t WHERE b IN (?, ?) -- ?0".toList := by decide
  exact ⟨_, _, rfl, hs, hdollar, references_finish_iff rfl hs hdollar⟩

/-- The single value of the statement is written as the tenth. -/
theorem references_finish_digit_behind :
    ∃ (f : Fragment) (s : Statement), f.finish .postgres = .ok s ∧ '$' ∉ f.sql.toList ∧
      Mode.code.references s.sql.toList ≠
        (List.range' 1 s.params.length).map (fun k => '$' :: Nat.toDigits 10 k) :=
  ⟨⟨"SELECT ?0", [.int 7]⟩, ⟨"SELECT $10", [.int 7]⟩, rfl, by decide, by decide⟩

end Fragment

end SqlBuilder
