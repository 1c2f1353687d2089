import SqlBuilder.Expr.Emit
import SqlBuilder.Proofs.Outcome

namespace SqlBuilder

lemma Mode.close_eq_ok {m : Mode} : m.close = .ok () ↔ m.isCode = true ∨ m = .lineComment := by
  cases m <;> simp [close, isCode]

lemma placeMarkers_eq_map (style : PlaceholderStyle) (s : String) :
    placeMarkers style s = (Mode.code.after s.toList).close.map fun _ =>
      (String.ofList (Mode.code.placeMarkers style 1 s.toList), Mode.code.markers s.toList) := by
  rw [placeMarkers]
  cases (Mode.code.after s.toList).close <;> rfl

lemma placeMarkers_of_no_markers (style : PlaceholderStyle) {s : String}
    (hclose : (Mode.code.after s.toList).close = .ok ()) (hmarkers : Mode.code.markers s.toList = 0) :
    placeMarkers style s = .ok (s, 0) := by
  rw [placeMarkers_eq_map, hclose, Mode.placeMarkers_of_markers_eq_zero style 1 hmarkers, hmarkers,
    String.ofList_toList]
  rfl

namespace Fragment

structure Aligned (f : Fragment) : Prop where
  closed : (Mode.code.after f.sql.toList).close = .ok ()
  markers : Mode.code.markers f.sql.toList = f.params.length

lemma place_eq (style : PlaceholderStyle) (f : Fragment) :
    f.place style = (Mode.code.after f.sql.toList).close >>= fun _ =>
      if Mode.code.markers f.sql.toList = f.params.length then
        .ok ⟨String.ofList (Mode.code.placeMarkers style 1 f.sql.toList), f.params⟩
      else .error (.parameterMismatch (Mode.code.markers f.sql.toList) f.params.length) := by
  rw [place, SqlBuilder.placeMarkers]
  cases (Mode.code.after f.sql.toList).close <;> rfl

lemma place_eq_ok {style : PlaceholderStyle} {f : Fragment} {s : Statement} :
    f.place style = .ok s ↔
      f.Aligned ∧ s = ⟨String.ofList (Mode.code.placeMarkers style 1 f.sql.toList), f.params⟩ := by
  rw [place_eq, bind_eq_ok]
  constructor
  · rintro ⟨_, hclose, h⟩
    split at h
    · next hmarkers => exact ⟨⟨hclose, hmarkers⟩, (Except.ok.inj h).symm⟩
    · cases h
  · rintro ⟨⟨hclose, hmarkers⟩, rfl⟩
    exact ⟨(), hclose, if_pos hmarkers⟩

lemma checkAligned_eq_map (style : PlaceholderStyle) (f : Fragment) :
    f.checkAligned = (f.place style).map fun _ => () := by
  rw [checkAligned, place_eq, place_eq]
  cases (Mode.code.after f.sql.toList).close with
  | error err => rfl
  | ok _ =>
    by_cases h : Mode.code.markers f.sql.toList = f.params.length
    · simp only [h, if_true]
      rfl
    · simp only [h, if_false]
      rfl

lemma checkAligned_eq_ok {f : Fragment} : f.checkAligned = .ok () ↔ f.Aligned := by
  rw [checkAligned_eq_map .question, map_eq_ok]
  constructor
  · rintro ⟨s, hs, _⟩
    exact (place_eq_ok.mp hs).1
  · intro h
    exact ⟨_, place_eq_ok.mpr ⟨h, rfl⟩, rfl⟩

end Fragment

lemma aligned_eq_ok {r : Except BuildError Fragment} {f : Fragment} :
    aligned r = .ok f ↔ r = .ok f ∧ f.Aligned := by
  constructor
  · intro h
    obtain ⟨g, hg, h⟩ := bind_eq_ok.mp h
    obtain ⟨_, hcheck, h⟩ := bind_eq_ok.mp h
    obtain rfl := Except.ok.inj h
    exact ⟨hg, Fragment.checkAligned_eq_ok.mp hcheck⟩
  · rintro ⟨rfl, h⟩
    exact bind_eq_ok.mpr ⟨f, rfl, bind_eq_ok.mpr ⟨(), Fragment.checkAligned_eq_ok.mpr h, rfl⟩⟩

end SqlBuilder
