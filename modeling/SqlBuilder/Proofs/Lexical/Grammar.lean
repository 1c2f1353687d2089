import Mathlib.Data.List.Infix
import SqlBuilder.Proofs.Lexical.Junction

/-!
The lexical grammar of a text: quotes, comments and single characters of code, one after the other. Every text has
exactly one cut into such pieces, and the marker scanner answers as that cut does.
-/

namespace SqlBuilder

inductive Enclosure
  | quotes (q : Char) (h : q ∈ ['"', '\'', '\x60'])
  | lineComment
  | blockComment
deriving DecidableEq

namespace Enclosure

def opening : Enclosure → List Char
  | quotes q _ => [q]
  | lineComment => ['-', '-']
  | blockComment => ['/', '*']

def closing : Enclosure → List Char
  | quotes q _ => [q]
  | lineComment => ['\n']
  | blockComment => ['*', '/']

end Enclosure

inductive Lexeme
  | char (c : Char)
  | closed (e : Enclosure) (inner : List Char)
  | unclosed (e : Enclosure) (inner : List Char)
deriving DecidableEq

namespace Lexeme

def text : Lexeme → List Char
  | char c => [c]
  | closed e inner => e.opening ++ (inner ++ e.closing)
  | unclosed e inner => e.opening ++ inner

/-- A single character opens nothing together with the text behind it. An enclosure ends where its closing first stands
behind the opening, and at the end of the text where its closing does not stand at all. -/
def Fits : Lexeme → List Char → Prop
  | char c, rest => ∀ e : Enclosure, ¬ e.opening <+: c :: rest
  | closed e inner, _ => ¬ e.closing <:+: (inner ++ e.closing).dropLast
  | unclosed e inner, rest => ¬ e.closing <:+: inner ∧ rest = []

def finish : Lexeme → Except BuildError Unit
  | unclosed (.quotes q _) _ => .error (.unterminatedQuote q)
  | unclosed .blockComment _ => .error .unterminatedComment
  | _ => .ok ()

def ending (ps : List Lexeme) : Except BuildError Unit :=
  ps.getLast?.elim (.ok ()) finish

def written (style : PlaceholderStyle) (first : ℕ) (ps : List Lexeme) : List Char :=
  match style with
  | .question => ps.flatMap text
  | .numbered =>
    (ps.mapIdx fun i p =>
      if p = char '?' then '$' :: Nat.toDigits 10 (first + (ps.take i).count (char '?')) else p.text).flatten

def outcome (style : PlaceholderStyle) (ps : List Lexeme) : Except BuildError (String × ℕ) :=
  (ending ps).map fun _ => (String.ofList (written style 1 ps), ps.count (char '?'))

end Lexeme

inductive Cut : List Char → List Lexeme → Prop
  | nil : Cut [] []
  | cons {p : Lexeme} {rest : List Char} {ps : List Lexeme} : p.Fits rest → Cut rest ps → Cut (p.text ++ rest) (p :: ps)

section FirstPlace

variable {α : Type} {s : List α}

lemma exists_first_place (hs : s ≠ []) {cs : List α} (h : s <:+: cs) :
    ∃ before after, cs = before ++ (s ++ after) ∧ ¬ s <:+: (before ++ s).dropLast := by
  have hpos : 0 < s.length := List.length_pos_iff.mpr hs
  induction cs with
  | nil => exact absurd (List.infix_nil.mp h) hs
  | cons c cs ih =>
    by_cases hhead : s <+: c :: cs
    · obtain ⟨after, hafter⟩ := hhead
      refine ⟨[], after, hafter.symm, fun hinner => ?_⟩
      have hlength := hinner.length_le
      rw [List.nil_append, List.length_dropLast] at hlength
      omega
    · obtain ⟨before, after, rfl, hfirst⟩ := ih ((List.infix_cons_iff.mp h).resolve_left hhead)
      refine ⟨c :: before, after, rfl, ?_⟩
      rw [List.cons_append, List.dropLast_cons_of_ne_nil (by simp [hs]), List.infix_cons_iff]
      rintro (hstart | hinner)
      · have hwhole : (before ++ s).dropLast <+: before ++ (s ++ after) := by
          rw [← List.append_assoc]
          exact (List.dropLast_prefix _).trans (List.prefix_append _ _)
        exact hhead (hstart.trans (List.cons_prefix_cons.mpr ⟨rfl, hwhole⟩))
      · exact hfirst hinner

lemma length_le_of_first_place {before after before' after' : List α}
    (h : before ++ (s ++ after) = before' ++ (s ++ after')) (hfirst : ¬ s <:+: (before' ++ s).dropLast) :
    before'.length ≤ before.length := by
  by_contra hlt
  have hfront : before ++ s <+: before' ++ (s ++ after') := by
    rw [← h, ← List.append_assoc]
    exact List.prefix_append _ _
  have hfront' : (before' ++ s).dropLast <+: before' ++ (s ++ after') := by
    rw [← List.append_assoc]
    exact (List.dropLast_prefix _).trans (List.prefix_append _ _)
  have hlength : (before ++ s).length ≤ (before' ++ s).dropLast.length := by
    simp only [List.length_dropLast, List.length_append]
    omega
  have hinner := (List.prefix_of_prefix_length_le hfront hfront' hlength).isInfix
  exact hfirst ((List.suffix_append before s).isInfix.trans hinner)

lemma first_place_unique {before after before' after' : List α}
    (h : before ++ (s ++ after) = before' ++ (s ++ after')) (hfirst : ¬ s <:+: (before ++ s).dropLast)
    (hfirst' : ¬ s <:+: (before' ++ s).dropLast) : before = before' :=
  List.append_inj_left h
    (Nat.le_antisymm (length_le_of_first_place h.symm hfirst) (length_le_of_first_place h hfirst'))

end FirstPlace

namespace Enclosure

lemma opening_ne_nil (e : Enclosure) : e.opening ≠ [] := by
  cases e <;> simp [opening]

lemma closing_ne_nil (e : Enclosure) : e.closing ≠ [] := by
  cases e <;> simp [closing]

lemma opening_inj {e e' : Enclosure} {cs : List Char} (h : e.opening <+: cs) (h' : e'.opening <+: cs) : e = e' := by
  have hdash : '-' ∉ ['"', '\'', '\x60'] := by decide
  have hslash : '/' ∉ ['"', '\'', '\x60'] := by decide
  obtain ⟨rest, rfl⟩ := h
  cases e <;> cases e' <;> grind [opening]

end Enclosure

namespace Lexeme

def enclosure : Lexeme → Option Enclosure
  | char _ => none
  | closed e _ | unclosed e _ => some e

lemma text_ne_nil (p : Lexeme) : p.text ≠ [] := by
  cases p with
  | char c => simp [text]
  | closed e inner => simp [text, e.opening_ne_nil]
  | unclosed e inner => simp [text, e.opening_ne_nil]

lemma Fits.opening_iff {p : Lexeme} {rest : List Char} (h : p.Fits rest) (e : Enclosure) :
    e.opening <+: p.text ++ rest ↔ p.enclosure = some e := by
  cases p with
  | char c => exact iff_of_false (h e) nofun
  | closed e' inner =>
    rw [text, List.append_assoc, enclosure, Option.some_inj]
    exact ⟨Enclosure.opening_inj (List.prefix_append _ _), fun he => he ▸ List.prefix_append _ _⟩
  | unclosed e' inner =>
    rw [text, List.append_assoc, enclosure, Option.some_inj]
    exact ⟨Enclosure.opening_inj (List.prefix_append _ _), fun he => he ▸ List.prefix_append _ _⟩

lemma closed_ne_unclosed {e : Enclosure} {inner inner' rest rest' : List Char} (h : (unclosed e inner').Fits rest') :
    (closed e inner).text ++ rest ≠ (unclosed e inner').text ++ rest' := by
  obtain ⟨hnone, rfl⟩ := h
  intro heq
  have hinner : inner ++ e.closing ++ rest = inner' := by simpa [text] using heq
  exact hnone (hinner ▸ List.infix_append _ _ _)

lemma Fits.eq {p p' : Lexeme} {rest rest' : List Char} (h : p.Fits rest) (h' : p'.Fits rest')
    (heq : p.text ++ rest = p'.text ++ rest') : p = p' := by
  have hsame : p.enclosure = p'.enclosure := Option.ext fun e => by
    rw [← h.opening_iff, ← h'.opening_iff, heq]
  match p, p' with
  | char c, char c' => exact congrArg char (List.cons.inj heq).1
  | closed e inner, closed e' inner' =>
    obtain rfl := Option.some.inj hsame
    have hinner : inner ++ (e.closing ++ rest) = inner' ++ (e.closing ++ rest') := by simpa [text] using heq
    rw [first_place_unique hinner h h']
  | closed e inner, unclosed e' inner' =>
    obtain rfl := Option.some.inj hsame
    exact absurd heq (closed_ne_unclosed h')
  | unclosed e inner, closed e' inner' =>
    obtain rfl := Option.some.inj hsame
    exact absurd heq.symm (closed_ne_unclosed h)
  | unclosed e inner, unclosed e' inner' =>
    obtain rfl := Option.some.inj hsame
    obtain ⟨_, rfl⟩ := h
    obtain ⟨_, rfl⟩ := h'
    have hinner : inner = inner' := by simpa [text] using heq
    rw [hinner]
  | char _, closed _ _ | char _, unclosed _ _ | closed _ _, char _ | unclosed _ _, char _ => cases hsame

end Lexeme

lemma Cut.eq_nil {ps : List Lexeme} (h : Cut [] ps) : ps = [] := by
  generalize hs : ([] : List Char) = s at h
  cases h with
  | nil => rfl
  | cons _ _ => simp [Lexeme.text_ne_nil] at hs

lemma Cut.unique {s : List Char} {ps qs : List Lexeme} (h : Cut s ps) (h' : Cut s qs) : ps = qs := by
  induction h generalizing qs with
  | nil => exact h'.eq_nil.symm
  | @cons p rest ps hfits _ ih =>
    generalize hs : p.text ++ rest = s at h'
    cases h' with
    | nil => simp [Lexeme.text_ne_nil] at hs
    | @cons q rest' qs hfits' hrest' =>
      obtain rfl := hfits.eq hfits' hs
      obtain rfl := List.append_cancel_left hs
      rw [ih hrest']

lemma exists_cut (s : List Char) : ∃ ps, Cut s ps := by
  induction hn : s.length using Nat.strong_induction_on generalizing s with
  | _ n ih =>
    subst hn
    have hrest : ∀ {p : Lexeme} {rest : List Char}, s = p.text ++ rest → p.Fits rest → ∃ ps, Cut s ps := by
      rintro p rest rfl hfits
      have hpos : 0 < p.text.length := List.length_pos_iff.mpr p.text_ne_nil
      obtain ⟨ps, hps⟩ := ih rest.length (by rw [List.length_append]; omega) rest rfl
      exact ⟨p :: ps, .cons hfits hps⟩
    by_cases hopen : ∃ e : Enclosure, e.opening <+: s
    · obtain ⟨e, behind, rfl⟩ := hopen
      by_cases hclose : e.closing <:+: behind
      · obtain ⟨inner, rest, rfl, hfirst⟩ := exists_first_place e.closing_ne_nil hclose
        have htext : e.opening ++ (inner ++ (e.closing ++ rest)) = (Lexeme.closed e inner).text ++ rest := by
          simp [Lexeme.text]
        exact hrest htext hfirst
      · exact hrest (p := .unclosed e behind) (List.append_nil _).symm ⟨hclose, rfl⟩
    · cases s with
      | nil => exact ⟨[], .nil⟩
      | cons c rest => exact hrest (p := .char c) rfl (not_exists.mp hopen)

end SqlBuilder
