import Mathlib.Data.Int.ConditionallyCompleteOrder
import Mathlib.Order.ConditionallyCompleteLattice.Basic
import Mathlib.Order.WithBotTop
import Mathlib.Tactic.Tauto
import SqlBuilder.Frame
import SqlBuilder.Proofs.Outcome

/-!
The arithmetic behind the order of the bounds. Positions are 64-bit numbers with the two ends of their range standing
for the unbounded ends of a partition. The negation of an offset is the only operation that may leave the range, and
the checks in front of it keep it inside.
-/

namespace SqlBuilder

/-- The negation on a machine that has no result where the exact one is out of range. -/
def neg? (n : Int64) : Option Int64 :=
  if Int64.minValue.toInt ≤ -n.toInt ∧ -n.toInt ≤ Int64.maxValue.toInt then some (-n) else none

lemma neg?_eq_none {n : Int64} : neg? n = none ↔ n = Int64.minValue := by
  have hlow := Int64.minValue_le_toInt n
  have hhigh := Int64.toInt_le n
  rw [neg?, ← Int64.toInt_inj]
  simp only [Int64.toInt_minValue, Int64.toInt_maxValue, ite_eq_right_iff, reduceCtorEq, imp_false] at *
  omega

lemma neg?_of_nonneg {n : Int64} (hn : 0 ≤ n) : neg? n = some (-n) := by
  have hne : n ≠ Int64.minValue := by
    rintro rfl
    exact absurd hn (by decide)
  have hsome := mt neg?_eq_none.mp hne
  grind [neg?]

lemma toInt_neg_of_nonneg {n : Int64} (hn : 0 ≤ n) : (-n).toInt = -n.toInt := by
  have hpos := Int64.le_iff_toInt_le.mp hn
  have hhigh := Int64.toInt_le n
  rw [Int64.toInt_neg]
  simp only [Int64.toInt_zero, Int64.toInt_maxValue] at *
  exact Int.bmod_eq_of_le (by omega) (by omega)

namespace Bound

@[simp] lemma kind_unboundedPreceding : unboundedPreceding.kind = .unboundedPreceding := rfl

@[simp] lemma kind_preceding (n : Int64) : (preceding n).kind = .preceding := rfl

@[simp] lemma kind_currentRow : currentRow.kind = .currentRow := rfl

@[simp] lemma kind_following (n : Int64) : (following n).kind = .following := rfl

@[simp] lemma kind_unboundedFollowing : unboundedFollowing.kind = .unboundedFollowing := rfl

inductive WellFormed : Bound → Prop
  | unboundedPreceding : WellFormed .unboundedPreceding
  | preceding {n : Int64} (hn : 0 ≤ n) : WellFormed (.preceding n)
  | currentRow : WellFormed .currentRow
  | following {n : Int64} (hn : 0 ≤ n) : WellFormed (.following n)
  | unboundedFollowing : WellFormed .unboundedFollowing

lemma validate_eq_ok {b : Bound} : b.validate = .ok () ↔ b.WellFormed := by
  constructor
  · intro h
    obtain ⟨kind, offset⟩ := b
    cases kind <;> cases offset <;> simp [validate, BoundKind.takesOffset, require_eq_ok] at h
    · exact .unboundedPreceding
    · exact .preceding h
    · exact .currentRow
    · exact .following h
    · exact .unboundedFollowing
  · intro h
    cases h with
    | unboundedPreceding | currentRow | unboundedFollowing => rfl
    | preceding hn | following hn => exact require_eq_ok.mpr (decide_eq_true hn)

def position? (b : Bound) : Option Int64 :=
  match b.kind with
  | .unboundedPreceding => some Int64.minValue
  | .preceding => neg? (b.offset.getD 0)
  | .currentRow => some 0
  | .following => some (b.offset.getD 0)
  | .unboundedFollowing => some Int64.maxValue

lemma WellFormed.position?_eq {b : Bound} (h : b.WellFormed) : b.position? = some b.position := by
  cases h with
  | preceding hn => exact neg?_of_nonneg hn
  | _ => rfl

/-- The place of a bound among the integers and two infinities, the current row being at zero. -/
def place (b : Bound) : EInt :=
  match b.kind with
  | .unboundedPreceding => ⊥
  | .preceding => WithBotTop.coe (-(b.offset.getD 0).toInt)
  | .currentRow => WithBotTop.coe 0
  | .following => WithBotTop.coe (b.offset.getD 0).toInt
  | .unboundedFollowing => ⊤

@[simp] lemma place_unboundedPreceding : unboundedPreceding.place = ⊥ := rfl

@[simp] lemma place_preceding (n : Int64) : (preceding n).place = WithBotTop.coe (-n.toInt) := rfl

@[simp] lemma place_currentRow : currentRow.place = WithBotTop.coe 0 := rfl

@[simp] lemma place_following (n : Int64) : (following n).place = WithBotTop.coe n.toInt := rfl

@[simp] lemma place_unboundedFollowing : unboundedFollowing.place = ⊤ := rfl

/-- The number that stands for a place: each infinity is represented by the last number on its side. -/
def word (x : EInt) : ℤ :=
  WithBotTop.rec (motive := fun _ => ℤ) Int64.minValue.toInt id Int64.maxValue.toInt x

def Fits (x : EInt) : Prop :=
  ∀ n : ℤ, x = WithBotTop.coe n → Int64.minValue.toInt < n ∧ n ≤ Int64.maxValue.toInt

/-- The upper infinity shares its number with the largest offset, so it must not stand on the left. -/
lemma word_le_word_iff {x y : EInt} (hx : Fits x) (hy : Fits y) (htop : x ≠ ⊤) : word x ≤ word y ↔ x ≤ y := by
  induction x using WithBotTop.rec with
  | bot =>
    refine iff_of_true ?_ bot_le
    induction y using WithBotTop.rec with
    | bot => exact le_rfl
    | coe n => exact (hy n rfl).1.le
    | top => exact Int64.minValue_le_toInt Int64.maxValue
  | coe m =>
    obtain ⟨hlow, hhigh⟩ := hx m rfl
    induction y using WithBotTop.rec with
    | bot => exact iff_of_false hlow.not_ge (WithBot.not_coe_le_bot _)
    | coe n => exact WithBotTop.coe_le_coe.symm
    | top => exact iff_of_true hhigh le_top
  | top => exact (htop rfl).elim

lemma WellFormed.fits {b : Bound} (h : b.WellFormed) : Fits b.place := by
  have hrange : ∀ n : Int64, 0 ≤ n → 0 ≤ n.toInt ∧ n.toInt ≤ Int64.maxValue.toInt := fun n hn =>
    ⟨Int64.le_iff_toInt_le.mp hn, Int64.toInt_le n⟩
  intro k hk
  cases h with
  | unboundedPreceding | unboundedFollowing => cases hk
  | currentRow =>
    obtain rfl := WithBotTop.coe_injective hk
    decide
  | @preceding n hn =>
    obtain rfl : -n.toInt = k := WithBotTop.coe_injective hk
    have hn' := hrange n hn
    simp only [Int64.toInt_minValue, Int64.toInt_maxValue] at *
    omega
  | @following n hn =>
    obtain rfl : n.toInt = k := WithBotTop.coe_injective hk
    have hn' := hrange n hn
    simp only [Int64.toInt_minValue, Int64.toInt_maxValue] at *
    omega

lemma WellFormed.toInt_position {b : Bound} (h : b.WellFormed) : b.position.toInt = word b.place := by
  cases h with
  | preceding hn => exact toInt_neg_of_nonneg hn
  | _ => rfl

lemma WellFormed.position_le_iff {a b : Bound} (ha : a.WellFormed) (hb : b.WellFormed)
    (hstart : a.kind ≠ .unboundedFollowing) : a.position ≤ b.position ↔ a.place ≤ b.place := by
  have htop : a.place ≠ ⊤ := by
    cases ha with
    | unboundedFollowing => exact (hstart rfl).elim
    | _ => simp
  rw [Int64.le_iff_toInt_le, ha.toInt_position, hb.toInt_position, word_le_word_iff ha.fits hb.fits htop]

end Bound

namespace Frame

def checkBounds (f : Frame) : Except BuildError Unit := do
  f.start.validate
  f.lastBound.validate
  require (f.start.kind ≠ .unboundedFollowing) .startsUnboundedFollowing
  require (f.lastBound.kind ≠ .unboundedPreceding) .endsUnboundedPreceding

/-- The same run on a machine that stops at an overflow, and then has no answer. -/
def validate? (f : Frame) : Option (Except BuildError Unit) :=
  match f.checkBounds with
  | .error err => some (.error err)
  | .ok () => do
    let start ← f.start.position?
    let last ← f.lastBound.position?
    return require (start ≤ last) .startsAfterEnd

lemma validate_eq (f : Frame) :
    f.validate = f.checkBounds >>= fun _ => require (f.start.position ≤ f.lastBound.position) .startsAfterEnd := by
  simp only [validate, checkBounds, bind_assoc]

lemma forall_mem_stop {P : Bound → Prop} (h : P .currentRow) (f : Frame) : (∀ b ∈ f.stop, P b) ↔ P f.lastBound := by
  obtain ⟨unit, start, stop⟩ := f
  cases stop <;> simp [lastBound, h]

lemma checkBounds_eq_ok {f : Frame} :
    f.checkBounds = .ok () ↔ f.start.WellFormed ∧ f.lastBound.WellFormed ∧
      f.start.kind ≠ .unboundedFollowing ∧ f.lastBound.kind ≠ .unboundedPreceding := by
  simp [checkBounds, bind_unit_eq_ok, require_eq_ok, Bound.validate_eq_ok]

lemma validate_eq_ok {f : Frame} :
    f.validate = .ok () ↔ f.checkBounds = .ok () ∧ f.start.place ≤ f.lastBound.place := by
  rw [validate_eq, bind_unit_eq_ok, require_eq_ok, decide_eq_true_eq]
  apply and_congr_right
  intro h
  obtain ⟨hstart, hlast, hkind, -⟩ := checkBounds_eq_ok.mp h
  exact hstart.position_le_iff hlast hkind

theorem validate_by_place (f : Frame) :
    f.validate? = some f.validate ∧
      (f.validate = .ok () ↔
        f.start.validate = .ok () ∧ (∀ b ∈ f.stop, b.validate = .ok ()) ∧ f.start.kind ≠ .unboundedFollowing ∧
          (∀ b ∈ f.stop, b.kind ≠ .unboundedPreceding) ∧ f.start.place ≤ f.lastBound.place) := by
  constructor
  · rw [validate?, validate_eq]
    cases h : f.checkBounds with
    | error err => rfl
    | ok =>
      obtain ⟨hstart, hlast, -, -⟩ := checkBounds_eq_ok.mp h
      rw [hstart.position?_eq, hlast.position?_eq]
      rfl
  · have hvalid : (∀ b ∈ f.stop, b.validate = .ok ()) ↔ f.lastBound.validate = .ok () :=
      forall_mem_stop (P := fun b => b.validate = .ok ()) rfl f
    have hkind : (∀ b ∈ f.stop, b.kind ≠ .unboundedPreceding) ↔ f.lastBound.kind ≠ .unboundedPreceding :=
      forall_mem_stop (P := fun b => b.kind ≠ .unboundedPreceding) (by decide) f
    rw [validate_eq_ok, checkBounds_eq_ok, hvalid, hkind, Bound.validate_eq_ok, Bound.validate_eq_ok]
    tauto

example : (rowsBetween (.following Int64.maxValue) .unboundedFollowing).validate = .ok () := rfl

end Frame

end SqlBuilder
