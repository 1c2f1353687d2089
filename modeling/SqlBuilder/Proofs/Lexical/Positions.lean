import Mathlib.Data.Nat.Notation
import Mathlib.Tactic.Lemma
import SqlBuilder.Lexical.Marker

namespace SqlBuilder.Mode

def marksAt (m : Mode) (cs : List Char) (i : ℕ) : Bool :=
  cs[i]? = some '?' && (m.after (cs.take i)).isCode

def marksBefore (m : Mode) (cs : List Char) (i : ℕ) : ℕ :=
  (List.range i).countP (m.marksAt cs)

def numbered (m : Mode) (cs : List Char) : List Char :=
  (cs.mapIdx fun i c => if m.marksAt cs i then '$' :: Nat.toDigits 10 (m.marksBefore cs i + 1) else [c]).flatten

def numberedFrom (first : ℕ) (m : Mode) (cs : List Char) : List Char :=
  (cs.mapIdx fun i c => if m.marksAt cs i then '$' :: Nat.toDigits 10 (first + m.marksBefore cs i) else [c]).flatten

variable (m : Mode) (c : Char) (cs : List Char)

lemma marksAt_zero : m.marksAt (c :: cs) 0 = m.isMarker c := by
  simp [marksAt, isMarker]

lemma marksAt_succ (i : ℕ) : m.marksAt (c :: cs) (i + 1) = (m.next c).marksAt cs i := by
  simp [marksAt]

lemma marksBefore_succ (i : ℕ) :
    m.marksBefore (c :: cs) (i + 1) = (if m.isMarker c then 1 else 0) + (m.next c).marksBefore cs i := by
  have hrest : m.marksAt (c :: cs) ∘ Nat.succ = (m.next c).marksAt cs := funext (m.marksAt_succ c cs)
  rw [marksBefore, List.range_succ_eq_map, List.countP_cons, List.countP_map, hrest, marksAt_zero, Nat.add_comm]
  rfl

lemma markers_eq_marksBefore : m.markers cs = m.marksBefore cs cs.length := by
  induction cs generalizing m with
  | nil => rfl
  | cons c cs ih => rw [markers, ih, List.length_cons, marksBefore_succ]

lemma placeMarkers_eq_flatten (style : PlaceholderStyle) (k : ℕ) :
    m.placeMarkers style k cs =
      (cs.mapIdx fun i c => if m.marksAt cs i then style.text (k + m.marksBefore cs i) else [c]).flatten := by
  induction cs generalizing m k with
  | nil => rfl
  | cons c cs ih =>
    have hzero : m.marksBefore (c :: cs) 0 = 0 := rfl
    rw [List.mapIdx_cons, List.flatten_cons, marksAt_zero, hzero, placeMarkers]
    simp only [marksAt_succ, marksBefore_succ]
    by_cases h : m.isMarker c = true
    · simp only [h, if_true, Nat.add_zero, ih, Nat.add_assoc]
    · simp only [h, Bool.false_eq_true, if_false, Nat.zero_add, ih, List.singleton_append]

lemma placeMarkers_numberedFrom (first : ℕ) : m.placeMarkers .numbered first cs = m.numberedFrom first cs :=
  m.placeMarkers_eq_flatten cs .numbered first

lemma placeMarkers_numbered : m.placeMarkers .numbered 1 cs = m.numbered cs := by
  simp only [placeMarkers_eq_flatten, PlaceholderStyle.text, numbered, Nat.add_comm]

example : code.numbered "a = ? AND b = '?' OR c = ? -- ?".toList = "a = $1 AND b = '?' OR c = $2 -- ?".toList := by
  decide

end SqlBuilder.Mode
