import Mathlib.Data.Nat.Notation
import Mathlib.Tactic.Lemma
import SqlBuilder.Lexical.Marker

namespace SqlBuilder.Mode

def isInert (c : Char) : Bool :=
  !List.contains ['\'', '"', '\x60', '?', '-', '/', '*', '(', ')'] c

lemma isInert_of_class {p : Char → Bool} (hp : ['\'', '"', '\x60', '?', '-', '/', '*', '(', ')'].any p = false)
    {c : Char} (hc : p c = true) : isInert c = true := by
  rw [List.any_eq_false] at hp
  simp only [isInert, Bool.not_eq_true', List.contains_eq_mem, decide_eq_false_iff_not]
  exact fun hm => hp c hm hc

lemma ne_of_isInert {c d : Char} (hc : isInert c = true) (hd : isInert d = false) : c ≠ d := by
  rintro rfl
  simp_all

lemma isQuote_of_isInert {c : Char} (hc : isInert c = true) : isQuote c = false := by
  have hs : c ≠ '\'' := ne_of_isInert hc rfl
  have hd : c ≠ '"' := ne_of_isInert hc rfl
  have hb : c ≠ '\x60' := ne_of_isInert hc rfl
  simp [isQuote, hs, hd, hb]

lemma next_eq_code {m : Mode} (hm : m.isCode = true) {c : Char} (hq : isQuote c = false) (hd : c ≠ '-')
    (hs : c ≠ '/') (ht : c ≠ '*') : m.next c = code := by
  have ho : ofCode c = code := by simp [ofCode, hq, hd, hs]
  cases m <;> simp_all [isCode, next]

lemma next_of_isInert {m : Mode} (hm : m.isCode = true) {c : Char} (hc : isInert c = true) : m.next c = code := by
  refine next_eq_code hm (isQuote_of_isInert hc) ?_ ?_ ?_ <;> exact ne_of_isInert hc rfl

lemma eq_of_isMarker {m : Mode} {c : Char} (h : m.isMarker c = true) : c = '?' ∧ m.isCode = true := by
  simpa [isMarker] using h

lemma next_marker {m : Mode} (hm : m.isCode = true) : m.next '?' = code :=
  next_eq_code hm rfl (by decide) (by decide) (by decide)

section Inert

variable {cs : List Char} (h : ∀ c ∈ cs, isInert c = true)
include h

lemma after_inert : code.after cs = code := by
  induction cs with
  | nil => rfl
  | cons c cs ih =>
    rw [List.forall_mem_cons] at h
    rw [after_cons, next_of_isInert rfl h.1, ih h.2]

lemma after_inert_of_isCode {m : Mode} (hm : m.isCode = true) (hn : cs ≠ []) : m.after cs = code := by
  obtain ⟨c, cs, rfl⟩ := List.exists_cons_of_ne_nil hn
  rw [List.forall_mem_cons] at h
  rw [after_cons, next_of_isInert hm h.1, after_inert h.2]

lemma markers_inert (m : Mode) : m.markers cs = 0 := by
  induction cs generalizing m with
  | nil => rfl
  | cons c cs ih =>
    rw [List.forall_mem_cons] at h
    have hc : c ≠ '?' := ne_of_isInert h.1 rfl
    simp [markers, isMarker, hc, ih h.2]

end Inert

lemma isInert_toDigits (n : ℕ) : ∀ c ∈ Nat.toDigits 10 n, isInert c = true := by
  intro c hc
  have hd : c.isDigit = true := Nat.isDigit_of_mem_toDigits (by decide) (by decide) hc
  exact isInert_of_class rfl hd

end SqlBuilder.Mode
