import SqlBuilder.Proofs.Outcome
import SqlBuilder.Window

namespace SqlBuilder

def OnlyFaults {α : Type} (r : Except BuildError α) : Prop :=
  ∀ err, r = .error err → err.isConfiguration = true

section OnlyFaults

variable {α β : Type}

lemma onlyFaults_ok (a : α) : OnlyFaults (.ok a) := by
  intro err h
  cases h

lemma onlyFaults_error {err : BuildError} (h : err.isConfiguration = true) : OnlyFaults (α := α) (.error err) := by
  intro err' h'
  obtain rfl := Except.error.inj h'
  exact h

lemma onlyFaults_require (condition : Bool) (fault : Fault) : OnlyFaults (require condition fault) := by
  cases condition with
  | true => exact onlyFaults_ok ()
  | false => exact onlyFaults_error rfl

lemma OnlyFaults.bind {x : Except BuildError α} {k : α → Except BuildError β} (hx : OnlyFaults x)
    (hk : ∀ a, x = .ok a → OnlyFaults (k a)) : OnlyFaults (x >>= k) := by
  intro err h
  rcases bind_eq_error.mp h with h | ⟨a, ha, h⟩
  · exact hx err h
  · exact hk a ha err h

lemma OnlyFaults.map {x : Except BuildError α} (f : α → β) (hx : OnlyFaults x) : OnlyFaults (x.map f) :=
  fun err h => hx err (map_eq_error.mp h)

end OnlyFaults

lemma Bound.onlyFaults_validate (b : Bound) : OnlyFaults b.validate := by
  rw [validate]
  split
  · exact onlyFaults_error rfl
  · exact onlyFaults_require _ _
  · exact onlyFaults_error rfl
  · exact onlyFaults_ok ()

lemma Frame.onlyFaults_validate (f : Frame) : OnlyFaults f.validate :=
  f.start.onlyFaults_validate.bind fun _ _ => f.lastBound.onlyFaults_validate.bind fun _ _ =>
    (onlyFaults_require _ _).bind fun _ _ => (onlyFaults_require _ _).bind fun _ _ => onlyFaults_require _ _

lemma Window.onlyFaults_checkOrdering (f : Frame) (orderBy : List SortKey) : OnlyFaults (checkOrdering f orderBy) := by
  rw [checkOrdering]
  split
  · exact onlyFaults_ok ()
  · exact onlyFaults_require _ _
  · exact onlyFaults_require _ _

end SqlBuilder
