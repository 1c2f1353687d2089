import Mathlib.Data.Nat.Notation
import Mathlib.Tactic.Lemma
import SqlBuilder.Lexical.Marker
import SqlBuilder.Statement

namespace SqlBuilder.Mode

/-- In code, and no opening of a comment is completed by the text that follows. -/
structure Fresh (m : Mode) (cs : List Char) : Prop where
  inCode : m.isCode = true
  dash : m = .dash → cs.head? ≠ some '-'
  slash : m = .slash → cs.head? ≠ some '*'

lemma fresh_code (cs : List Char) : code.Fresh cs :=
  ⟨rfl, nofun, nofun⟩

lemma Fresh.next_eq {m : Mode} {c : Char} {cs : List Char} (h : m.Fresh (c :: cs)) : m.next c = code.next c := by
  obtain ⟨hcode, hdash, hslash⟩ := h
  cases m with
  | code => rfl
  | dash => simp_all [next]
  | slash => simp_all [next]
  | _ => cases hcode

section Fresh

variable {m : Mode} {cs : List Char} (h : m.Fresh cs)

include h

lemma Fresh.isMarker_eq (c : Char) : m.isMarker c = code.isMarker c := by
  rw [isMarker, isMarker, h.inCode]
  rfl

lemma Fresh.markers_eq : m.markers cs = code.markers cs := by
  cases cs with
  | nil => rfl
  | cons c cs => rw [markers, markers, h.isMarker_eq, h.next_eq]

lemma Fresh.placeMarkers_eq (style : PlaceholderStyle) (k : ℕ) :
    m.placeMarkers style k cs = code.placeMarkers style k cs := by
  cases cs with
  | nil => rfl
  | cons c cs => rw [placeMarkers, placeMarkers, h.isMarker_eq, h.next_eq]

lemma Fresh.close_eq : (m.after cs).close = (code.after cs).close := by
  cases cs with
  | nil =>
    have hcode := h.inCode
    cases m <;> first | rfl | cases hcode
  | cons c cs => rw [after_cons, after_cons, h.next_eq]

end Fresh

end SqlBuilder.Mode
