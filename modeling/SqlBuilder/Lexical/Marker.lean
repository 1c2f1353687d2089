import SqlBuilder.Dialect
import SqlBuilder.Lexical.Mode

/-!
Placeholder markers: the `?` outside quotes and comments. Counting and rewriting both start from a mode, so that they
continue over the concatenation of texts.
-/

namespace SqlBuilder

namespace Mode

def isMarker (m : Mode) (c : Char) : Bool :=
  c = '?' && m.isCode

def markers (m : Mode) : List Char → Nat
  | [] => 0
  | c :: cs => (if m.isMarker c then 1 else 0) + (m.next c).markers cs

end Mode

def PlaceholderStyle.text : PlaceholderStyle → Nat → List Char
  | .question, _ => ['?']
  | .numbered, k => '$' :: Nat.toDigits 10 k

def Mode.placeMarkers (style : PlaceholderStyle) (m : Mode) (k : Nat) : List Char → List Char
  | [] => []
  | c :: cs =>
    if m.isMarker c then style.text k ++ (m.next c).placeMarkers style (k + 1) cs
    else c :: (m.next c).placeMarkers style k cs

namespace Mode

theorem markers_append (m : Mode) (cs ds : List Char) :
    m.markers (cs ++ ds) = m.markers cs + (m.after cs).markers ds := by
  induction cs generalizing m with
  | nil => simp [markers]
  | cons c cs ih => simp [markers, ih, Nat.add_assoc]

theorem placeMarkers_append (style : PlaceholderStyle) (m : Mode) (k : Nat) (cs ds : List Char) :
    m.placeMarkers style k (cs ++ ds) =
      m.placeMarkers style k cs ++ (m.after cs).placeMarkers style (k + m.markers cs) ds := by
  induction cs generalizing m k with
  | nil => simp [placeMarkers, markers]
  | cons c cs ih =>
    by_cases h : m.isMarker c = true
    · simp [placeMarkers, markers, h, ih, Nat.add_assoc]
    · simp [placeMarkers, markers, h, ih]

theorem placeMarkers_question (m : Mode) (k : Nat) (cs : List Char) : m.placeMarkers .question k cs = cs := by
  induction cs generalizing m k with
  | nil => rfl
  | cons c cs ih =>
    by_cases h : m.isMarker c = true
    · have hc : c = '?' := by simp_all [isMarker]
      simp [placeMarkers, ih, PlaceholderStyle.text, hc]
    · simp [placeMarkers, h, ih]

theorem placeMarkers_of_markers_eq_zero (style : PlaceholderStyle) {m : Mode} (k : Nat) {cs : List Char}
    (h : m.markers cs = 0) : m.placeMarkers style k cs = cs := by
  induction cs generalizing m with
  | nil => rfl
  | cons c cs ih =>
    by_cases hm : m.isMarker c = true
    · simp [markers, hm] at h
    · simp only [markers, hm, Bool.false_eq_true, if_false, Nat.zero_add] at h
      simp [placeMarkers, hm, ih h]

end Mode

end SqlBuilder
