import Mathlib.Tactic.Lemma
import SqlBuilder.Emitter

namespace SqlBuilder

section Steps

variable {ε α β : Type}

lemma bind_eq_ok {x : Except ε α} {k : α → Except ε β} {b : β} :
    x >>= k = .ok b ↔ ∃ a, x = .ok a ∧ k a = .ok b := by
  cases x <;> simp [bind, Except.bind]

lemma bind_unit_eq_ok {x : Except ε Unit} {k : Unit → Except ε β} {b : β} :
    x >>= k = .ok b ↔ x = .ok () ∧ k () = .ok b := by
  cases x <;> simp [bind, Except.bind]

lemma bind_eq_error {x : Except ε α} {k : α → Except ε β} {err : ε} :
    x >>= k = .error err ↔ x = .error err ∨ ∃ a, x = .ok a ∧ k a = .error err := by
  cases x <;> simp [bind, Except.bind]

lemma map_eq_ok {f : α → β} {x : Except ε α} {b : β} : x.map f = .ok b ↔ ∃ a, x = .ok a ∧ f a = b := by
  cases x <;> simp [Except.map]

lemma map_eq_error {f : α → β} {x : Except ε α} {err : ε} : x.map f = .error err ↔ x = .error err := by
  cases x <;> simp [Except.map]

lemma require_eq_ok {condition : Bool} {fault : Fault} : require condition fault = .ok () ↔ condition = true := by
  cases condition <;> simp

lemma bind_map {α' β' : Type} {x : Except ε α} {x' : Except ε α'} {k : α → Except ε β} {k' : α' → Except ε β'}
    {f : α → α'} {g : β → β'} (hx : x' = x.map f) (hk : ∀ a, k' (f a) = (k a).map g) :
    x' >>= k' = (x >>= k).map g := by
  subst hx
  cases x with
  | error err => rfl
  | ok a => exact hk a

lemma bind_same {β' : Type} {x : Except ε α} {k : α → Except ε β} {k' : α → Except ε β'} {g : β → β'}
    (hk : ∀ a, k' a = (k a).map g) : x >>= k' = (x >>= k).map g := by
  cases x with
  | error err => rfl
  | ok a => exact hk a

def Alike (S : α → β → Prop) : Except ε α → Except ε β → Prop
  | .ok a, .ok b => S a b
  | .error err, .error err' => err = err'
  | _, _ => False

lemma alike_of_map_eq {S : α → α → Prop} {x x' : Except ε α} {g : α → β} (h : x.map g = x'.map g)
    (hS : ∀ a a', x = .ok a → x' = .ok a' → g a = g a' → S a a') : Alike S x x' := by
  cases x with
  | error err =>
    cases x' with
    | error err' => exact Except.error.inj h
    | ok a' => cases h
  | ok a =>
    cases x' with
    | error err' => cases h
    | ok a' => exact hS a a' rfl rfl (Except.ok.inj h)

lemma Alike.imp {S T : α → β → Prop} {x : Except ε α} {y : Except ε β} (h : Alike S x y)
    (hST : ∀ a b, S a b → T a b) : Alike T x y := by
  match x, y, h with
  | .ok a, .ok b, h => exact hST a b h
  | .error _, .error _, h => exact h

lemma Alike.map {α' β' : Type} {S : α → α' → Prop} {T : β → β' → Prop} {x : Except ε α} {x' : Except ε α'}
    (h : Alike S x x') {f : α → β} {f' : α' → β'} (hf : ∀ a a', S a a' → T (f a) (f' a')) :
    Alike T (x.map f) (x'.map f') := by
  match x, x', h with
  | .ok a, .ok a', h => exact hf a a' h
  | .error _, .error _, h => exact h

lemma Alike.bind {α' β' : Type} {S : α → α' → Prop} {T : β → β' → Prop} {x : Except ε α} {x' : Except ε α'}
    {k : α → Except ε β} {k' : α' → Except ε β'} (hx : Alike S x x')
    (hk : ∀ a a', S a a' → Alike T (k a) (k' a')) : Alike T (x >>= k) (x' >>= k') := by
  match x, x', hx with
  | .ok a, .ok a', h => exact hk a a' h
  | .error _, .error _, h => exact h

lemma Alike.bind_same {β' : Type} {T : β → β' → Prop} (x : Except ε α) {k : α → Except ε β} {k' : α → Except ε β'}
    (hk : ∀ a, Alike T (k a) (k' a)) : Alike T (x >>= k) (x >>= k') := by
  cases x with
  | error err => exact rfl
  | ok a => exact hk a

lemma alike_map_iff {f : α → β} {x : Except ε α} {y : Except ε β} : Alike (fun a b => b = f a) x y ↔ y = x.map f := by
  cases x <;> cases y <;> simp [Alike, Except.map, eq_comm]

lemma alike_eq_iff {x y : Except ε α} : Alike (fun a b => b = a) x y ↔ y = x := by
  cases x <;> cases y <;> simp [Alike, eq_comm]

end Steps

end SqlBuilder
