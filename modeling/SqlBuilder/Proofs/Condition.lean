import Mathlib.Tactic.Lemma
import SqlBuilder.Expr.Step

/-!
Conditions built from comparisons by `AND`, `OR` and `NOT`, and what their text says. Only a disjunction is put in
parentheses, so a `NOT` in the text reaches no further than the first of the conjuncts behind it.
-/

namespace SqlBuilder

structure Comparison where
  column : String
  bare : Identifier.isBare column = true
  op : Operator
  compares : op ≠ .and ∧ op ≠ .or
  value : Value

lemma Comparison.eq_of {c c' : Comparison} (hcolumn : c.column = c'.column) (hop : c.op = c'.op)
    (hvalue : c.value = c'.value) : c = c' := by
  cases c
  cases c'
  cases hcolumn
  cases hop
  cases hvalue
  rfl

inductive Condition
  | comparison (c : Comparison)
  | and (left right : Condition)
  | or (left right : Condition)
  | not (operand : Condition)

namespace Condition

def expr : Condition → Expr
  | comparison c => (Expr.column (.bare c.column)).step (.combine c.op (.value c.value))
  | and left right => left.expr.step (.combine .and right.expr)
  | or left right => left.expr.step (.combine .or right.expr)
  | not operand => operand.expr.step .not

def holds (σ : Comparison → Bool) : Condition → Bool
  | comparison c => σ c
  | and left right => left.holds σ && right.holds σ
  | or left right => left.holds σ || right.holds σ
  | not operand => !operand.holds σ

def Equivalent (c c' : Condition) : Prop :=
  ∀ σ : Comparison → Bool, c.holds σ = c'.holds σ

def isConjunction : Condition → Bool
  | and _ _ => true
  | _ => false

/-- No negation is applied to a conjunction. -/
def Legible : Condition → Prop
  | comparison _ => True
  | and left right => left.Legible ∧ right.Legible
  | or left right => left.Legible ∧ right.Legible
  | not operand => operand.isConjunction = false ∧ operand.Legible

def Flat : Condition → Prop
  | comparison _ => True
  | and first rest => first.isConjunction = false ∧ first.Flat ∧ rest.Flat
  | or left right => left.Flat ∧ right.Flat
  | not operand => operand.isConjunction = false ∧ operand.Flat

def conjoin : Condition → Condition → Condition
  | and first rest, c => and first (rest.conjoin c)
  | first, c => and first c

def negateFirst : Condition → Condition
  | and first rest => and (not first) rest
  | first => not first

/-- What the text of the condition says. -/
def asRead : Condition → Condition
  | comparison c => comparison c
  | and left right => left.asRead.conjoin right.asRead
  | or left right => or left.asRead right.asRead
  | not operand => operand.asRead.negateFirst

lemma holds_conjoin (σ : Comparison → Bool) (c c' : Condition) :
    (c.conjoin c').holds σ = (c.holds σ && c'.holds σ) := by
  induction c with
  | and first rest _ ih => rw [conjoin, holds, ih, holds, Bool.and_assoc]
  | _ => rfl

lemma isConjunction_conjoin (c c' : Condition) : (c.conjoin c').isConjunction = true := by
  cases c <;> rfl

lemma negateFirst_eq_not {c : Condition} (h : c.isConjunction = false) : c.negateFirst = not c := by
  cases c with
  | and first rest => cases h
  | _ => rfl

lemma Flat.conjoin {c c' : Condition} (h : c.Flat) (h' : c'.Flat) : (c.conjoin c').Flat := by
  induction c with
  | and first rest _ ih => exact ⟨h.1, h.2.1, ih h.2.2⟩
  | _ => exact ⟨rfl, h, h'⟩

lemma Flat.negateFirst {c : Condition} (h : c.Flat) : c.negateFirst.Flat := by
  cases c with
  | and first rest => exact ⟨rfl, ⟨h.1, h.2.1⟩, h.2.2⟩
  | _ => exact ⟨rfl, h⟩

lemma flat_asRead (c : Condition) : c.asRead.Flat := by
  induction c with
  | comparison c => trivial
  | and left right ihl ihr => exact ihl.conjoin ihr
  | or left right ihl ihr => exact ⟨ihl, ihr⟩
  | not operand ih => exact ih.negateFirst

lemma Flat.legible {c : Condition} (h : c.Flat) : c.Legible := by
  induction c with
  | comparison c => trivial
  | and first rest ihf ihr => exact ⟨ihf h.2.1, ihr h.2.2⟩
  | or left right ihl ihr => exact ⟨ihl h.1, ihr h.2⟩
  | not operand ih => exact ⟨h.1, ih h.2⟩

lemma Legible.isConjunction_asRead {c : Condition} (h : c.Legible) : c.asRead.isConjunction = c.isConjunction := by
  induction c with
  | comparison c => rfl
  | and left right => exact isConjunction_conjoin _ _
  | or left right => rfl
  | not operand ih =>
    have hoperand : operand.asRead.isConjunction = false := (ih h.2).trans h.1
    rw [asRead, negateFirst_eq_not hoperand]
    rfl

lemma Legible.equivalent_asRead {c : Condition} (h : c.Legible) : c.Equivalent c.asRead := by
  intro σ
  induction c with
  | comparison c => rfl
  | and left right ihl ihr => rw [asRead, holds_conjoin, holds, ihl h.1, ihr h.2]
  | or left right ihl ihr => rw [asRead, holds, holds, ihl h.1, ihr h.2]
  | not operand ih =>
    have hoperand : operand.asRead.isConjunction = false := h.2.isConjunction_asRead.trans h.1
    rw [asRead, negateFirst_eq_not hoperand, holds, holds, ih h.2]

end Condition

end SqlBuilder
