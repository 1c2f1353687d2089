import SqlBuilder.Proofs.Identifier.Containment
import SqlBuilder.Proofs.Lexical.Grammar

namespace SqlBuilder

namespace Enclosure

def mode : Enclosure → Mode
  | quotes q _ => .quoted q
  | lineComment => .lineComment
  | blockComment => .blockComment

def Within (e : Enclosure) (m : Mode) : Prop :=
  m = e.mode ∨ (e = blockComment ∧ m = .star)

lemma reads_opening (e : Enclosure) : Mode.code.after e.opening = e.mode ∧ Mode.code.markers e.opening = 0 := by
  cases e with
  | quotes q h =>
    have hq : Mode.isQuote q = true := Identifier.isQuote_of_mem h
    have hne : q ≠ '?' := Identifier.ne_of_isQuote hq rfl
    exact ⟨Identifier.next_code_quote hq, by simp [opening, Mode.markers, Mode.isMarker, hne]⟩
  | lineComment => exact ⟨by decide, by decide⟩
  | blockComment => exact ⟨by decide, by decide⟩

lemma reads_still {m : Mode} (hm : m.isCode = false) {cs : List Char} (h : ∀ c ∈ cs, m.next c = m) :
    m.after cs = m ∧ m.markers cs = 0 := by
  induction cs with
  | nil => exact ⟨rfl, rfl⟩
  | cons c cs ih =>
    rw [List.forall_mem_cons] at h
    simpa [Mode.markers, Mode.isMarker, hm, h.1] using ih h.2

/-- A `*` that was read last may still begin the closing. -/
lemma reads_blockComment (cs : List Char) :
    (¬ ['*', '/'] <:+: cs → blockComment.Within (Mode.blockComment.after cs) ∧ Mode.blockComment.markers cs = 0) ∧
      (¬ ['*', '/'] <:+: '*' :: cs → blockComment.Within (Mode.star.after cs) ∧ Mode.star.markers cs = 0) := by
  induction cs with
  | nil => exact ⟨fun _ => ⟨.inl rfl, rfl⟩, fun _ => ⟨.inr ⟨rfl, rfl⟩, rfl⟩⟩
  | cons c cs ih =>
    have hmarkers : ∀ m : Mode, m.isCode = false → m.markers (c :: cs) = (m.next c).markers cs := by
      intro m hm
      simp [Mode.markers, Mode.isMarker, hm]
    have hbehind : ∀ d, ¬ ['*', '/'] <:+: d :: cs → ¬ ['*', '/'] <:+: cs := fun d h =>
      fun hcs => h (List.infix_cons_iff.mpr (.inr hcs))
    by_cases hstar : c = '*'
    · subst hstar
      refine ⟨fun h => ?_, fun h => ?_⟩
      · rw [Mode.after_cons, hmarkers _ rfl]
        exact ih.2 h
      · rw [Mode.after_cons, hmarkers _ rfl]
        exact ih.2 fun hcs => h (List.infix_cons_iff.mpr (.inr hcs))
    · have hblock : Mode.blockComment.next c = .blockComment := if_neg hstar
      refine ⟨fun h => ?_, fun h => ?_⟩
      · rw [Mode.after_cons, hmarkers _ rfl, hblock]
        exact ih.1 (hbehind c h)
      · have hslash : c ≠ '/' := by
          rintro rfl
          exact h ⟨[], cs, rfl⟩
        have hnext : Mode.star.next c = .blockComment := by simp [Mode.next, hslash, hstar]
        rw [Mode.after_cons, hmarkers _ rfl, hnext]
        exact ih.1 (hbehind c fun hcs => h (List.infix_cons_iff.mpr (.inr hcs)))

lemma reads_inner (e : Enclosure) {inner : List Char} (h : ¬ e.closing <:+: inner) :
    e.Within (e.mode.after inner) ∧ e.mode.markers inner = 0 := by
  cases e with
  | quotes q hq =>
    have hnone : q ∉ inner := mt (List.singleton_infix_iff q inner).mpr h
    have hstill : ∀ c ∈ inner, (Mode.quoted q).next c = .quoted q := fun c hc =>
      if_neg (ne_of_mem_of_not_mem hc hnone)
    exact (reads_still rfl hstill).imp_left .inl
  | lineComment =>
    have hnone : '\n' ∉ inner := mt (List.singleton_infix_iff '\n' inner).mpr h
    have hstill : ∀ c ∈ inner, Mode.lineComment.next c = .lineComment := fun c hc =>
      if_neg (ne_of_mem_of_not_mem hc hnone)
    exact (reads_still rfl hstill).imp_left .inl
  | blockComment => exact (reads_blockComment inner).1 h

lemma Within.reads_closing {e : Enclosure} {m : Mode} (h : e.Within m) :
    m.after e.closing = .code ∧ m.markers e.closing = 0 := by
  rcases h with rfl | ⟨rfl, rfl⟩
  · cases e with
    | quotes q hq => exact ⟨if_pos rfl, by simp [mode, closing, Mode.markers, Mode.isMarker, Mode.isCode]⟩
    | lineComment => exact ⟨by decide, by decide⟩
    | blockComment => exact ⟨by decide, by decide⟩
  · exact ⟨by decide, by decide⟩

end Enclosure

namespace Lexeme

lemma reads_char {c : Char} {rest : List Char} (h : (char c).Fits rest) : (Mode.code.next c).Fresh rest := by
  have hquote : Mode.isQuote c = false := by
    by_contra hq
    have hmem : c ∈ ['"', '\'', '\x60'] := by
      simp only [Mode.isQuote, Bool.not_eq_false, Bool.or_eq_true, decide_eq_true_eq] at hq
      rcases hq with (rfl | rfl) | rfl <;> decide
    exact h (.quotes c hmem) ⟨rest, rfl⟩
  have hnext : Mode.code.next c = if c = '-' then .dash else if c = '/' then .slash else .code := by
    simp [Mode.next, Mode.ofCode, hquote]
  have hopens : ∀ (e : Enclosure) (d : Char), e.opening = [c, d] → rest.head? ≠ some d := by
    intro e d he hhead
    obtain ⟨behind, rfl⟩ := List.head?_eq_some_iff.mp hhead
    exact h e ⟨behind, by rw [he]; rfl⟩
  rw [hnext]
  split
  · next hc => exact ⟨rfl, fun _ => hopens .lineComment '-' (by rw [hc]; rfl), by simp⟩
  · split
    · next hc => exact ⟨rfl, by simp, fun _ => hopens .blockComment '*' (by rw [hc]; rfl)⟩
    · exact Mode.fresh_code rest

lemma reads_closed {e : Enclosure} {inner rest : List Char} (h : (closed e inner).Fits rest) :
    Mode.code.after (closed e inner).text = .code ∧ Mode.code.markers (closed e inner).text = 0 := by
  have hinner : ¬ e.closing <:+: inner := by
    intro hi
    rw [Fits, List.dropLast_append_of_ne_nil e.closing_ne_nil] at h
    exact h (hi.trans (List.prefix_append _ _).isInfix)
  obtain ⟨hopen, hopenMarkers⟩ := e.reads_opening
  obtain ⟨hwithin, hmarkers⟩ := e.reads_inner hinner
  obtain ⟨hclose, hcloseMarkers⟩ := hwithin.reads_closing
  constructor
  · rw [text, Mode.after_append, Mode.after_append, hopen, hclose]
  · rw [text, Mode.markers_append, Mode.markers_append, hopen, hopenMarkers, hmarkers, hcloseMarkers]

lemma reads_unclosed {e : Enclosure} {inner rest : List Char} (h : (unclosed e inner).Fits rest) :
    (Mode.code.after (unclosed e inner).text).close = (unclosed e inner).finish ∧
      Mode.code.markers (unclosed e inner).text = 0 := by
  obtain ⟨hopen, hopenMarkers⟩ := e.reads_opening
  obtain ⟨hwithin, hmarkers⟩ := e.reads_inner h.1
  constructor
  · rw [text, Mode.after_append, hopen]
    rcases hwithin with hmode | ⟨rfl, hmode⟩
    · rw [hmode]
      cases e <;> rfl
    · rw [hmode]
      rfl
  · rw [text, Mode.markers_append, hopen, hopenMarkers, hmarkers]

lemma ending_cons {p : Lexeme} (h : p.finish = .ok ()) (ps : List Lexeme) : ending (p :: ps) = ending ps := by
  cases ps with
  | nil => exact h
  | cons q ps => rw [ending, ending, List.getLast?_cons_cons]

lemma flatten_mapIdx_cons {α : Type} (write : ℕ → Lexeme → List α) (k : ℕ) (p : Lexeme) (ps : List Lexeme) :
    ((p :: ps).mapIdx fun i q => write (k + ((p :: ps).take i).count (char '?')) q).flatten =
      write k p ++
        (ps.mapIdx fun i q => write (k + [p].count (char '?') + (ps.take i).count (char '?')) q).flatten := by
  have hcount : ∀ i, ((p :: ps).take (i + 1)).count (char '?') =
      [p].count (char '?') + (ps.take i).count (char '?') := by
    intro i
    rw [List.take_succ_cons, ← List.singleton_append, List.count_append]
  simp only [List.mapIdx_cons, List.flatten_cons, hcount, Nat.add_assoc]
  rfl

lemma written_nil (style : PlaceholderStyle) (k : ℕ) : written style k [] = [] := by
  cases style <;> rfl

lemma written_cons (style : PlaceholderStyle) (k : ℕ) (p : Lexeme) (ps : List Lexeme) :
    written style k (p :: ps) = (if p = char '?' then style.text k else p.text) ++
      written style (k + [p].count (char '?')) ps := by
  cases style with
  | question =>
    have hkept : (if p = char '?' then PlaceholderStyle.question.text k else p.text) = p.text := by
      split
      · next hp => rw [hp]; rfl
      · rfl
    rw [hkept, written, written, List.flatMap_cons]
  | numbered => exact flatten_mapIdx_cons (fun j q => if q = char '?' then '$' :: Nat.toDigits 10 j else q.text) k p ps

end Lexeme

open Lexeme

lemma Cut.reads {s : List Char} {ps : List Lexeme} (h : Cut s ps) :
    (Mode.code.after s).close = ending ps ∧ Mode.code.markers s = ps.count (char '?') ∧
      ∀ style k, Mode.code.placeMarkers style k s = written style k ps := by
  induction h with
  | nil => exact ⟨rfl, rfl, fun style k => (written_nil style k).symm⟩
  | @cons p rest ps hfits hcut ih =>
    obtain ⟨hclose, hmarkers, hplace⟩ := ih
    cases p with
    | char c =>
      have hfresh := reads_char hfits
      have hmarker : Mode.code.isMarker c = decide (c = '?') := Bool.and_true _
      refine ⟨?_, ?_, fun style k => ?_⟩
      · rw [ending_cons rfl, ← hclose, ← hfresh.close_eq]
        rfl
      · rw [List.count_cons, ← hmarkers, ← hfresh.markers_eq, Nat.add_comm]
        simp [text, Mode.markers, hmarker]
      · rw [written_cons, ← hplace]
        by_cases hc : c = '?'
        · subst hc
          simp [text, Mode.placeMarkers, hmarker, hfresh.placeMarkers_eq]
        · simp [text, Mode.placeMarkers, hmarker, hc, hfresh.placeMarkers_eq]
    | closed e inner =>
      obtain ⟨hmode, hnone⟩ := reads_closed hfits
      refine ⟨?_, ?_, fun style k => ?_⟩
      · rw [ending_cons rfl, ← hclose, Mode.after_append, hmode]
      · rw [Mode.markers_append, hmode, hnone, hmarkers, List.count_cons]
        simp
      · rw [written_cons, ← hplace, Mode.placeMarkers_append, Mode.placeMarkers_of_markers_eq_zero style k hnone, hmode,
          hnone]
        simp
    | unclosed e inner =>
      obtain ⟨hend, hnone⟩ := reads_unclosed hfits
      obtain rfl := hfits.2
      obtain rfl := hcut.eq_nil
      rw [List.append_nil]
      refine ⟨hend, by simpa using hnone, fun style k => ?_⟩
      rw [Mode.placeMarkers_of_markers_eq_zero style k hnone, written_cons, written_nil]
      simp

theorem placeMarkers_eq_outcome (s : String) :
    ∃ ps, (∀ qs, Cut s.toList qs ↔ qs = ps) ∧ ∀ style, placeMarkers style s = outcome style ps := by
  obtain ⟨ps, hps⟩ := exists_cut s.toList
  obtain ⟨hclose, hmarkers, hplace⟩ := hps.reads
  refine ⟨ps, fun qs => ⟨fun hqs => hqs.unique hps, fun heq => heq ▸ hps⟩, fun style => ?_⟩
  rw [placeMarkers, outcome, hclose, hmarkers, hplace]
  cases ending ps <;> rfl

example :
    outcome .numbered [.char '?', .closed (.quotes '\'' (by decide)) ['?'], .char '?'] = .ok ("$1'?'$2", 2) :=
  rfl

end SqlBuilder
