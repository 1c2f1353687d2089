import SqlBuilder.Identifier
import SqlBuilder.Proofs.Identifier.Escaping
import SqlBuilder.Proofs.Lexical.Inert

namespace SqlBuilder

namespace Identifier

/-- Closed, without markers, and, when quoted, left for code only between the two halves of a doubled quote. -/
structure Contained (q : Char) (t : List Char) : Prop where
  closed : (Mode.code.after t).isCode = true
  no_markers : Mode.code.markers t = 0
  inside : t.head? = some q → ∀ before c rest, before ≠ [] → t = before ++ c :: rest →
    Mode.code.after before = .quoted q ∨
      (Mode.code.after before = .code ∧ before.getLast? = some q ∧ c = q)

lemma Reads.markers_eq_zero {q : Char} (hq : Mode.isQuote q = true) {m : Mode} {cs : List Char} (h : Reads q m cs) :
    m.markers cs = 0 := by
  have hne : q ≠ '?' := ne_of_isQuote hq rfl
  induction cs generalizing m with
  | nil => rfl
  | cons c cs ih =>
    obtain ⟨hc, hcs⟩ := h
    have hm : m.isMarker c = false := by
      rcases hc with rfl | ⟨rfl, rfl⟩
      · simp [Mode.isMarker, Mode.isCode]
      · simp [Mode.isMarker, hne]
    simp [Mode.markers, hm, ih hcs]

lemma getLast?_of_after_eq_code {q : Char} (hq : Mode.isQuote q = true) {before : List Char} (hn : before ≠ [])
    (h : ∀ init c, before = init ++ [c] → Mode.code.after init = .quoted q ∨ (Mode.code.after init = .code ∧ c = q))
    (hc : Mode.code.after before = .code) : before.getLast? = some q := by
  obtain ⟨init, c, rfl⟩ : ∃ init c, before = init ++ [c] := ⟨_, _, (List.dropLast_concat_getLast hn).symm⟩
  rw [Mode.after_append] at hc
  rcases h init c rfl with hm | ⟨hm, rfl⟩
  · rw [hm] at hc
    by_cases he : c = q
    · simp [he]
    · simp [Mode.next, he] at hc
  · rw [hm, Mode.after_cons, next_code_quote hq] at hc
    simp at hc

lemma contained_enclosed_iff {q : Char} (hq : Mode.isQuote q = true) (cs : List Char) :
    Contained q (q :: cs) ↔ Reads q (.quoted q) cs := by
  have hstart : Mode.code.next q = .quoted q := next_code_quote hq
  rw [reads_iff]
  constructor
  · intro h
    refine ⟨by simpa [hstart] using h.closed, fun before c rest he => ?_⟩
    have hi := h.inside rfl (q :: before) c rest (by simp) (by simp [he])
    rw [Mode.after_cons, hstart] at hi
    exact hi.imp_right fun hc => ⟨hc.1, hc.2.2⟩
  · rintro ⟨hend, hcs⟩
    have hin : ∀ before c rest, q :: cs = before ++ c :: rest →
        Mode.code.after before = .quoted q ∨ (Mode.code.after before = .code ∧ c = q) := by
      intro before c rest he
      cases before with
      | nil =>
        obtain ⟨rfl, rfl⟩ := List.cons.inj he
        exact Or.inr ⟨rfl, rfl⟩
      | cons b before =>
        obtain ⟨rfl, rfl⟩ := List.cons.inj he
        simpa [hstart] using hcs before c rest rfl
    refine ⟨by simpa [hstart] using hend, ?_, fun _ before c rest hn he => ?_⟩
    · have hne : q ≠ '?' := ne_of_isQuote hq rfl
      simp [Mode.markers, Mode.isMarker, hne, hstart, (reads_iff.mpr ⟨hend, hcs⟩).markers_eq_zero hq]
    · refine (hin before c rest he).imp_right fun hc => ⟨hc.1, ?_, hc.2⟩
      exact getLast?_of_after_eq_code hq hn (fun init d hd => hin init d (c :: rest) (by simp [he, hd])) hc.1

lemma contained_enclose_iff {q : Char} (hq : Mode.isQuote q = true) (name : List Char) :
    Contained q (enclose q name) ↔ EvenlyEscaped q name := by
  rw [enclose, List.cons_append, contained_enclosed_iff hq]
  exact (reads_body hq name).1 .plain (by simp)

lemma isBareRest_of_isPlain {name : List Char} (h : isPlain name = true) : ∀ c ∈ name, isBareRest c = true := by
  cases name with
  | nil => simp
  | cons c cs =>
    simp only [isPlain, Bool.and_eq_true, List.all_eq_true] at h
    simpa [isBareRest, h.1] using h.2

lemma not_mem_of_isBare {name : String} (hn : isBare name = true) {c : Char} (hc : isBareRest c = false) :
    c ∉ name.toList := by
  intro hmem
  have hrest := isBareRest_of_isPlain (Bool.and_eq_true_iff.mp hn).1 c hmem
  rw [hc] at hrest
  cases hrest

lemma quote_not_mem_of_isBare {q : Char} (hq : Mode.isQuote q = true) {name : String} (hn : isBare name = true) :
    q ∉ name.toList := by
  refine not_mem_of_isBare hn (Bool.not_eq_true _ ▸ fun hrest => ?_)
  have hinert : Mode.isInert q = true := Mode.isInert_of_class rfl hrest
  simp [Mode.isQuote_of_isInert hinert] at hq

lemma contained_bare {q : Char} (hq : Mode.isQuote q = true) {name : String} (h : isBare name = true) :
    Contained q name.toList ∧ '\\' ∉ name.toList := by
  have hr := isBareRest_of_isPlain (Bool.and_eq_true_iff.mp h).1
  have hi : ∀ c ∈ name.toList, Mode.isInert c = true := fun c hc =>
    Mode.isInert_of_class rfl (hr c hc)
  refine ⟨⟨by rw [Mode.after_inert hi]; rfl, Mode.markers_inert hi _, fun hh => ?_⟩, not_mem_of_isBare h (by decide)⟩
  exact (quote_not_mem_of_isBare hq h (List.mem_of_mem_head? hh)).elim

lemma isQuote_of_mem {q : Char} (hq : q ∈ ['"', '\'', '\x60']) : Mode.isQuote q = true := by
  simpa [Mode.isQuote, or_assoc, or_left_comm] using hq

lemma quote_of_isQuote {q : Char} (hq : Mode.isQuote q = true) (name : String) :
    quote q name = .ok (String.ofList (enclose q name.toList)) := by
  have h : q = '\'' ∨ q = '"' ∨ q = '\x60' := by simpa [Mode.isQuote, or_assoc] using hq
  rcases h with rfl | rfl | rfl <;> rfl

end Identifier

open Identifier

lemma Dialect.identifier_eq {d : Dialect} (hd : Mode.isQuote d.quote = true) (name : String) :
    (isBare name = true ∧ d.identifier name = .ok name) ∨
      d.identifier name = .ok (String.ofList (enclose d.quote name.toList)) := by
  by_cases h : d.quoting = .whenNeeded ∧ isBare name = true
  · exact Or.inl ⟨h.2, by rw [identifier, if_pos h]⟩
  · exact Or.inr (by rw [identifier, if_neg h, quote_of_isQuote hd])

lemma Dialect.identifier_contained {d : Dialect} (hd : Mode.isQuote d.quote = true) {name : String}
    (hn : '\\' ∉ name.toList) : ∃ t, d.identifier name = .ok t ∧ Contained d.quote t.toList := by
  rcases d.identifier_eq hd name with ⟨hb, h⟩ | h
  · exact ⟨name, h, (contained_bare hd hb).1⟩
  · refine ⟨_, h, ?_⟩
    rw [String.toList_ofList, contained_enclose_iff hd]
    exact evenlyEscaped_of_no_backslash hn

theorem identifier_contained_iff {d : Dialect} (hd : d.quote ∈ ['"', '\'', '\x60']) (name : String) :
    ∃ t, d.identifier name = .ok t ∧ (Contained d.quote t.toList ↔ EvenlyEscaped d.quote name.toList) := by
  have hq : Mode.isQuote d.quote = true := isQuote_of_mem hd
  rcases d.identifier_eq hq name with ⟨hb, h⟩ | h
  · obtain ⟨hc, hs⟩ := contained_bare hq hb
    exact ⟨name, h, iff_of_true hc (evenlyEscaped_of_no_backslash hs)⟩
  · exact ⟨_, h, by rw [String.toList_ofList, contained_enclose_iff hq]⟩

theorem identifier_contained_iff_quote_pair :
    '"' ∈ ['"', '\'', '\x60'] ∧
      ∃ t, Dialect.generic.identifier "\\\"\"" = .ok t ∧
        (Contained '"' t.toList ↔ EvenlyEscaped '"' "\\\"\"".toList) :=
  ⟨by decide, identifier_contained_iff (d := .generic) (by decide) _⟩

/-- The name consists of a backslash and a quote: the quote is not doubled and leaves the scan in the quotes. -/
theorem identifier_not_contained_after_backslash :
    ∃ t, Dialect.generic.identifier "\\\"" = .ok t ∧ ¬ Contained '"' t.toList := by
  refine ⟨"\"\\\"\"", rfl, fun h => ?_⟩
  exact absurd h.closed (by decide)

end SqlBuilder
