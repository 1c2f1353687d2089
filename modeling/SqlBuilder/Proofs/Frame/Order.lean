import SqlBuilder.Proofs.Frame.Position

/-!
The order of the bounds as it is specified, kind by kind. The check compares positions instead, where the offset zero
falls together with the current row; the two differ in the bounds that meet there, and in no others.
-/

namespace SqlBuilder

def BoundKind.rank : BoundKind → ℕ
  | unboundedPreceding => 0
  | preceding => 1
  | currentRow => 2
  | following => 3
  | unboundedFollowing => 4

/-- The kind decides first; of two bounds that precede, the one with the larger offset is the earlier one, and of two
that follow, the one with the smaller offset. -/
def Bound.Earlier (a b : Bound) : Prop :=
  a.kind.rank < b.kind.rank ∨ (∃ m n, a = preceding m ∧ b = preceding n ∧ n < m) ∨
    ∃ m n, a = following m ∧ b = following n ∧ m < n

namespace Frame

structure Conforms (f : Frame) : Prop where
  start : f.start.WellFormed
  stop : ∀ b ∈ f.stop, b.WellFormed
  startKind : f.start.kind ≠ .unboundedFollowing
  stopKind : ∀ b ∈ f.stop, b.kind ≠ .unboundedPreceding
  order : ¬ f.lastBound.Earlier f.start

/-- A start and an end in the wrong order that both have the position of the current row. -/
def crossed : List (Bound × Bound) :=
  [(.currentRow, .preceding 0), (.following 0, .currentRow), (.following 0, .preceding 0)]

lemma mem_crossed {a b : Bound} : (a, b) ∈ crossed ↔
    (a = .currentRow ∧ b = .preceding 0) ∨ (a = .following 0 ∧ b = .currentRow) ∨
      (a = .following 0 ∧ b = .preceding 0) := by
  simp [crossed]

lemma rank_lt_of_crossed {a b : Bound} (h : (a, b) ∈ crossed) : b.kind.rank < a.kind.rank := by
  rcases mem_crossed.mp h with ⟨rfl, rfl⟩ | ⟨rfl, rfl⟩ | ⟨rfl, rfl⟩ <;> decide

end Frame

open SqlBuilder.Frame

namespace Bound

lemma place_le_currentRow {b : Bound} (h : b.WellFormed) (hrank : b.kind.rank ≤ 2) : b.place ≤ currentRow.place := by
  cases h with
  | unboundedPreceding => exact bot_le
  | preceding hn => simpa using Int64.le_iff_toInt_le.mp hn
  | currentRow => exact le_rfl
  | following | unboundedFollowing => simp [BoundKind.rank] at hrank

lemma currentRow_le_place {b : Bound} (h : b.WellFormed) (hrank : 2 ≤ b.kind.rank) : currentRow.place ≤ b.place := by
  cases h with
  | unboundedPreceding | preceding => simp [BoundKind.rank] at hrank
  | currentRow => exact le_rfl
  | following hn => simpa using Int64.le_iff_toInt_le.mp hn
  | unboundedFollowing => exact le_top

lemma place_eq_currentRow {b : Bound} (h : b.WellFormed) :
    b.place = currentRow.place ↔ b ∈ [preceding 0, currentRow, following 0] := by
  have hzero : ∀ n : Int64, n.toInt = 0 ↔ n = 0 := fun n => by rw [← Int64.toInt_inj, Int64.toInt_zero]
  have hcoe : ∀ i : ℤ, WithBotTop.coe i = WithBotTop.coe 0 ↔ i = 0 := fun i => WithBotTop.coe_injective.eq_iff
  cases h with
  | unboundedPreceding => exact iff_of_false (WithBotTop.coe_ne_bot 0).symm (by decide)
  | unboundedFollowing => exact iff_of_false (WithBotTop.coe_ne_top 0).symm (by decide)
  | _ => simp [preceding, currentRow, following, place, hzero, hcoe]

lemma place_le_of_rank_lt {a b : Bound} (ha : a.WellFormed) (hb : b.WellFormed) (h : a.kind.rank < b.kind.rank) :
    a.place ≤ b.place := by
  cases ha with
  | unboundedPreceding => exact bot_le
  | preceding hn =>
    have hlow := place_le_currentRow (.preceding hn) (by simp [BoundKind.rank])
    exact hlow.trans (currentRow_le_place hb h)
  | currentRow => exact currentRow_le_place hb h.le
  | following | unboundedFollowing =>
    cases hb with
    | unboundedFollowing => exact le_top
    | _ => simp [BoundKind.rank] at h

lemma not_earlier_of_rank_lt {a b : Bound} (h : a.kind.rank < b.kind.rank) : ¬ b.Earlier a := by
  rintro (hk | ⟨m, n, rfl, rfl, -⟩ | ⟨m, n, rfl, rfl, -⟩)
  · exact hk.not_gt h
  · exact lt_irrefl _ h
  · exact lt_irrefl _ h

lemma place_le_iff_of_rank_eq {a b : Bound} (ha : a.WellFormed) (hb : b.WellFormed) (h : a.kind.rank = b.kind.rank) :
    a.place ≤ b.place ↔ ¬ b.Earlier a := by
  have hle : ∀ {m n : Int64}, m ≤ n ↔ m.toInt ≤ n.toInt := Int64.le_iff_toInt_le
  cases ha <;> cases hb <;> simp [BoundKind.rank] at h
  all_goals simp [Earlier, preceding, currentRow, following, unboundedPreceding, unboundedFollowing, place, hle]

lemma place_le_iff_of_rank_gt {a b : Bound} (ha : a.WellFormed) (hb : b.WellFormed)
    (hstart : a.kind ≠ .unboundedFollowing) (hlast : b.kind ≠ .unboundedPreceding)
    (h : b.kind.rank < a.kind.rank) : a.place ≤ b.place ↔ (a, b) ∈ crossed := by
  constructor
  · intro hle
    have hlow : b.kind.rank ≤ 2 := by
      have htop : a.kind.rank ≤ 3 := by cases hk : a.kind <;> simp_all [BoundKind.rank]
      omega
    have hhigh : 2 ≤ a.kind.rank := by
      have hbot : 1 ≤ b.kind.rank := by cases hk : b.kind <;> simp_all [BoundKind.rank]
      omega
    have hfirst := currentRow_le_place ha hhigh
    have hsecond := place_le_currentRow hb hlow
    have hstart0 := (place_eq_currentRow ha).mp ((hle.trans hsecond).antisymm hfirst)
    have hlast0 := (place_eq_currentRow hb).mp (hsecond.antisymm (hfirst.trans hle))
    simp only [List.mem_cons, List.not_mem_nil, or_false] at hstart0 hlast0
    rcases hstart0 with rfl | rfl | rfl <;> rcases hlast0 with rfl | rfl | rfl <;>
      simp [crossed, BoundKind.rank] at h ⊢
  · intro hmem
    rcases mem_crossed.mp hmem with ⟨rfl, rfl⟩ | ⟨rfl, rfl⟩ | ⟨rfl, rfl⟩ <;> exact le_rfl

lemma place_le_iff {a b : Bound} (ha : a.WellFormed) (hb : b.WellFormed) (hstart : a.kind ≠ .unboundedFollowing)
    (hlast : b.kind ≠ .unboundedPreceding) : a.place ≤ b.place ↔ ¬ b.Earlier a ∨ (a, b) ∈ crossed := by
  rcases lt_trichotomy a.kind.rank b.kind.rank with h | h | h
  · exact iff_of_true (place_le_of_rank_lt ha hb h) (Or.inl (not_earlier_of_rank_lt h))
  · rw [place_le_iff_of_rank_eq ha hb h, or_iff_left_of_imp]
    exact fun hmem => ((rank_lt_of_crossed hmem).ne' h).elim
  · rw [place_le_iff_of_rank_gt ha hb hstart hlast h, or_iff_right]
    exact not_not_intro (Or.inl h)

end Bound

namespace Frame

lemma conforms_iff {f : Frame} : f.Conforms ↔ f.checkBounds = .ok () ∧ ¬ f.lastBound.Earlier f.start := by
  have hstop : (∀ b ∈ f.stop, b.WellFormed) ↔ f.lastBound.WellFormed :=
    forall_mem_stop (P := Bound.WellFormed) .currentRow f
  have hkind : (∀ b ∈ f.stop, b.kind ≠ .unboundedPreceding) ↔ f.lastBound.kind ≠ .unboundedPreceding :=
    forall_mem_stop (P := fun b => b.kind ≠ .unboundedPreceding) (by decide) f
  rw [checkBounds_eq_ok, ← hstop, ← hkind]
  constructor
  · intro h
    exact ⟨⟨h.start, h.stop, h.startKind, h.stopKind⟩, h.order⟩
  · rintro ⟨⟨hstart, hlast, hfirstKind, hlastKind⟩, horder⟩
    exact ⟨hstart, hlast, hfirstKind, hlastKind, horder⟩

lemma checkBounds_of_crossed {f : Frame} (h : (f.start, f.lastBound) ∈ crossed) : f.checkBounds = .ok () := by
  rw [checkBounds]
  rcases mem_crossed.mp h with ⟨hstart, hlast⟩ | ⟨hstart, hlast⟩ | ⟨hstart, hlast⟩ <;> rw [hstart, hlast] <;> rfl

theorem validate_iff_conforms_or_crossed (f : Frame) :
    (f.validate = .ok () ↔ f.Conforms ∨ (f.start, f.lastBound) ∈ crossed) ∧
      ((f.validate = .ok () ↔ f.Conforms) ↔ (f.start, f.lastBound) ∉ crossed) := by
  have hpasses : f.validate = .ok () ↔ f.Conforms ∨ (f.start, f.lastBound) ∈ crossed := by
    rw [validate_eq_ok, conforms_iff]
    constructor
    · rintro ⟨hbounds, hplace⟩
      obtain ⟨hstart, hlast, hfirstKind, hlastKind⟩ := checkBounds_eq_ok.mp hbounds
      rcases (Bound.place_le_iff hstart hlast hfirstKind hlastKind).mp hplace with horder | hmem
      · exact Or.inl ⟨hbounds, horder⟩
      · exact Or.inr hmem
    · intro h
      have hbounds : f.checkBounds = .ok () := h.elim (·.1) checkBounds_of_crossed
      obtain ⟨hstart, hlast, hfirstKind, hlastKind⟩ := checkBounds_eq_ok.mp hbounds
      exact ⟨hbounds, (Bound.place_le_iff hstart hlast hfirstKind hlastKind).mpr (h.imp_left (·.2))⟩
  have hexclusive : (f.start, f.lastBound) ∈ crossed → ¬ f.Conforms := fun hmem hconforms =>
    hconforms.order (Or.inl (rank_lt_of_crossed hmem))
  refine ⟨hpasses, ?_⟩
  rw [hpasses]
  tauto

theorem not_conforms_following_zero :
    (rows (.following 0)).validate = .ok () ∧ ¬ (rows (.following 0)).Conforms := by
  refine ⟨rfl, fun h => h.order (Or.inl ?_)⟩
  decide

end Frame

end SqlBuilder
