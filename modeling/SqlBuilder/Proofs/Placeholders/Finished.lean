import SqlBuilder.Proofs.Lexical.Aligned
import SqlBuilder.Proofs.Lexical.Grammar.Reading
import SqlBuilder.Proofs.Lexical.Inert

/-!
Texts with numbered placeholders are finished. No marker is left in them, so they are rewritten to themselves, and their
quotes and comments are those of the text before.
-/

namespace SqlBuilder

namespace Mode

lemma after_numbered {m : Mode} (hm : m.isCode = true) (k : ℕ) : m.after (PlaceholderStyle.numbered.text k) = code := by
  have hdollar : m.next '$' = code := next_of_isInert hm rfl
  rw [PlaceholderStyle.text, after_cons, hdollar, after_inert (isInert_toDigits k)]

lemma markers_numbered (m : Mode) (k : ℕ) : m.markers (PlaceholderStyle.numbered.text k) = 0 :=
  markers_inert (List.forall_mem_cons.mpr ⟨rfl, isInert_toDigits k⟩) m

lemma reads_numbered (m : Mode) (k : ℕ) (cs : List Char) :
    m.after (m.placeMarkers .numbered k cs) = m.after cs ∧ m.markers (m.placeMarkers .numbered k cs) = 0 := by
  induction cs generalizing m k with
  | nil => exact ⟨rfl, rfl⟩
  | cons c cs ih =>
    by_cases hmarker : m.isMarker c = true
    · obtain ⟨rfl, hcode⟩ := eq_of_isMarker hmarker
      obtain ⟨hafter, hmarkers⟩ := ih code (k + 1)
      rw [placeMarkers, if_pos hmarker, next_marker hcode, after_append, markers_append, after_numbered hcode,
        markers_numbered, after_cons, next_marker hcode, hafter, hmarkers]
      exact ⟨rfl, rfl⟩
    · obtain ⟨hafter, hmarkers⟩ := ih (m.next c) k
      rw [placeMarkers, if_neg hmarker, after_cons, after_cons, markers, if_neg hmarker, hafter, hmarkers]
      exact ⟨rfl, rfl⟩

end Mode

namespace Lexeme

def numbered (first : ℕ) (ps : List Lexeme) : List Lexeme :=
  (ps.mapIdx fun i p =>
    if p = char '?' then ('$' :: Nat.toDigits 10 (first + (ps.take i).count (char '?'))).map char else [p]).flatten

lemma numbered_cons (k : ℕ) (p : Lexeme) (ps : List Lexeme) :
    numbered k (p :: ps) = (if p = char '?' then ('$' :: Nat.toDigits 10 k).map char else [p]) ++
      numbered (k + [p].count (char '?')) ps :=
  flatten_mapIdx_cons (fun j q => if q = char '?' then ('$' :: Nat.toDigits 10 j).map char else [q]) k p ps

lemma flatMap_text_char (cs : List Char) : (cs.map char).flatMap text = cs := by
  induction cs with
  | nil => rfl
  | cons c cs ih => rw [List.map_cons, List.flatMap_cons, ih, text, List.singleton_append]

lemma written_eq_flatMap (k : ℕ) (ps : List Lexeme) : written .numbered k ps = (numbered k ps).flatMap text := by
  induction ps generalizing k with
  | nil => rfl
  | cons p ps ih =>
    rw [written_cons, numbered_cons, List.flatMap_append, ih]
    split
    · rw [flatMap_text_char]
      rfl
    · rw [List.flatMap_singleton]

lemma fits_inert {c : Char} (hc : Mode.isInert c = true) (rest : List Char) : (char c).Fits rest := by
  rintro e ⟨behind, hopen⟩
  cases e with
  | quotes q hq =>
    obtain rfl : q = c := (List.cons.inj hopen).1
    exact absurd (Mode.isQuote_of_isInert hc) (by rw [Identifier.isQuote_of_mem hq]; decide)
  | lineComment => exact Mode.ne_of_isInert hc rfl (List.cons.inj hopen).1.symm
  | blockComment => exact Mode.ne_of_isInert hc rfl (List.cons.inj hopen).1.symm

/-- Of what follows a piece only the first character matters, and a `$` completes no opening. -/
lemma Fits.of_head {p : Lexeme} {rest rest' : List Char} (h : p.Fits rest) (hnil : rest = [] → rest' = [])
    (hhead : ∀ d, d ≠ '$' → rest'.head? = some d → rest.head? = some d) : p.Fits rest' := by
  cases p with
  | char c =>
    rintro e ⟨behind, hopen⟩
    cases e with
    | quotes q hq => exact h (.quotes q hq) ⟨rest, by rw [← (List.cons.inj hopen).1]; rfl⟩
    | lineComment =>
      obtain ⟨rfl, rfl⟩ := List.cons.inj hopen
      obtain ⟨ds, rfl⟩ := List.head?_eq_some_iff.mp (hhead '-' (by decide) rfl)
      exact h .lineComment ⟨ds, rfl⟩
    | blockComment =>
      obtain ⟨rfl, rfl⟩ := List.cons.inj hopen
      obtain ⟨ds, rfl⟩ := List.head?_eq_some_iff.mp (hhead '*' (by decide) rfl)
      exact h .blockComment ⟨ds, rfl⟩
  | closed e inner => exact h
  | unclosed e inner => exact ⟨h.1, hnil h.2⟩

end Lexeme

open Lexeme

lemma Cut.append_inert {cs : List Char} (hcs : ∀ c ∈ cs, Mode.isInert c = true) {s : List Char} {ps : List Lexeme}
    (h : Cut s ps) : Cut (cs ++ s) (cs.map char ++ ps) := by
  induction cs with
  | nil => exact h
  | cons c cs ih =>
    rw [List.forall_mem_cons] at hcs
    exact .cons (p := char c) (fits_inert hcs.1 _) (ih hcs.2)

lemma Cut.head?_numbered {s : List Char} {ps : List Lexeme} (h : Cut s ps) (k : ℕ) {d : Char} (hd : d ≠ '$')
    (hhead : ((numbered k ps).flatMap text).head? = some d) : s.head? = some d := by
  cases h with
  | nil => cases hhead
  | @cons p rest ps hfits hrest =>
    rw [numbered_cons, List.flatMap_append] at hhead
    split at hhead
    · rw [flatMap_text_char] at hhead
      exact absurd (Option.some.inj hhead).symm hd
    · rwa [List.flatMap_singleton, List.head?_append_of_ne_nil _ p.text_ne_nil,
        ← List.head?_append_of_ne_nil _ p.text_ne_nil] at hhead

lemma Cut.numbered {s : List Char} {ps : List Lexeme} (h : Cut s ps) (k : ℕ) :
    Cut ((numbered k ps).flatMap text) (numbered k ps) := by
  induction h generalizing k with
  | nil => exact .nil
  | @cons p rest ps hfits hrest ih =>
    rw [numbered_cons, List.flatMap_append]
    split
    · rw [flatMap_text_char]
      exact (ih _).append_inert (List.forall_mem_cons.mpr ⟨rfl, Mode.isInert_toDigits k⟩)
    · -- the text behind the piece begins as before, or with the `$` of a marker
      rw [List.flatMap_singleton]
      refine .cons (hfits.of_head ?_ fun d hd hhead => hrest.head?_numbered _ hd hhead) (ih _)
      rintro rfl
      obtain rfl := hrest.eq_nil
      rfl

theorem placeMarkers_again {s t : String} {n : ℕ} (h : placeMarkers .numbered s = .ok (t, n)) :
    (∀ style, placeMarkers style t = .ok (t, 0)) ∧
      ∃ ps, (∀ qs, Cut s.toList qs ↔ qs = ps) ∧ ∀ qs, Cut t.toList qs ↔ qs = Lexeme.numbered 1 ps := by
  rw [placeMarkers_eq_map] at h
  obtain ⟨_, hclose, ht⟩ := map_eq_ok.mp h
  obtain ⟨rfl, rfl⟩ := Prod.mk.inj ht
  obtain ⟨hafter, hmarkers⟩ := Mode.reads_numbered .code 1 s.toList
  refine ⟨fun style => placeMarkers_of_no_markers style ?_ ?_, ?_⟩
  · rw [String.toList_ofList, hafter]
    exact hclose
  · rw [String.toList_ofList]
    exact hmarkers
  · obtain ⟨ps, hps⟩ := exists_cut s.toList
    have hcut : Cut (Mode.code.placeMarkers .numbered 1 s.toList) (Lexeme.numbered 1 ps) := by
      rw [hps.reads.2.2, written_eq_flatMap]
      exact hps.numbered 1
    rw [String.toList_ofList]
    exact ⟨ps, fun qs => ⟨fun hqs => hqs.unique hps, fun heq => heq ▸ hps⟩,
      fun qs => ⟨fun hqs => hqs.unique hcut, fun heq => heq ▸ hcut⟩⟩

theorem placeMarkers_again_beside_openings :
    placeMarkers .numbered "a -? /?* '?' -- ?" = .ok ("a -$1 /$2* '?' -- ?", 2) ∧
      (∀ style, placeMarkers style "a -$1 /$2* '?' -- ?" = .ok ("a -$1 /$2* '?' -- ?", 0)) ∧
      ∃ ps, (∀ qs, Cut "a -? /?* '?' -- ?".toList qs ↔ qs = ps) ∧
        ∀ qs, Cut "a -$1 /$2* '?' -- ?".toList qs ↔ qs = Lexeme.numbered 1 ps := by
  have h : placeMarkers .numbered "a -? /?* '?' -- ?" = .ok ("a -$1 /$2* '?' -- ?", 2) := rfl
  exact ⟨h, placeMarkers_again h⟩

end SqlBuilder
