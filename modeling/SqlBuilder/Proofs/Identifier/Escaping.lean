import Mathlib.Algebra.Group.Nat.Even
import SqlBuilder.Identifier.Quoted
import SqlBuilder.Lexical.Mode

/-!
The scan of a quoted name. It stays inside the quotes exactly when every backslash of the name is followed by an even
number of quote characters.
-/

namespace SqlBuilder.Identifier

def EvenlyEscaped (q : Char) (name : List Char) : Prop :=
  ∀ rest, '\\' :: rest <:+ name → Even (rest.takeWhile (· = q)).length

lemma evenlyEscaped_nil (q : Char) : EvenlyEscaped q [] := by
  intro rest h
  simp at h

lemma evenlyEscaped_cons (q c : Char) (cs : List Char) :
    EvenlyEscaped q (c :: cs) ↔ (c = '\\' → Even (cs.takeWhile (· = q)).length) ∧ EvenlyEscaped q cs := by
  constructor
  · intro h
    refine ⟨?_, fun rest hr => h rest (hr.trans (List.suffix_cons c cs))⟩
    rintro rfl
    exact h cs List.suffix_rfl
  · rintro ⟨hc, hs⟩ rest hr
    rcases List.suffix_cons_iff.mp hr with he | hr
    · obtain ⟨rfl, rfl⟩ := List.cons.inj he
      exact hc rfl
    · exact hs rest hr

lemma evenlyEscaped_of_no_backslash {q : Char} {name : List Char} (h : '\\' ∉ name) : EvenlyEscaped q name := by
  intro rest hr
  exact (h (hr.subset (by simp))).elim

lemma next_code_quote {q : Char} (hq : Mode.isQuote q = true) : Mode.code.next q = .quoted q := by
  simp [Mode.next, Mode.ofCode, hq]

lemma ne_of_isQuote {q c : Char} (hq : Mode.isQuote q = true) (hc : Mode.isQuote c = false) : q ≠ c := by
  rintro rfl
  simp_all

/-- What the scan of the rest of a quoted name may do: read inside the quotes, or a quote in code. -/
def Reads (q : Char) : Mode → List Char → Prop
  | m, [] => m.isCode = true
  | m, c :: cs => (m = .quoted q ∨ (m = .code ∧ c = q)) ∧ Reads q (m.next c) cs

section Reads

variable {q : Char}

lemma reads_quoted_self (cs : List Char) : Reads q (.quoted q) (q :: cs) ↔ Reads q .code cs := by
  simp [Reads, Mode.next]

lemma reads_quoted_ne {c : Char} (hc : c ≠ q) (cs : List Char) :
    Reads q (.quoted q) (c :: cs) ↔ Reads q (.quoted q) cs := by
  simp [Reads, Mode.next, hc]

lemma reads_code (hq : Mode.isQuote q = true) (c : Char) (cs : List Char) :
    Reads q .code (c :: cs) ↔ c = q ∧ Reads q (.quoted q) cs := by
  simp only [Reads, reduceCtorEq, false_or, true_and]
  apply and_congr_right
  rintro rfl
  rw [next_code_quote hq]

lemma not_reads_code_singleton (hq : Mode.isQuote q = true) : ¬ Reads q .code [q] := by
  simp [Reads, next_code_quote hq, Mode.isCode]

end Reads

namespace Position

variable {q : Char}

lemma body_cons_ne (p : Position) {c : Char} (hc : c ≠ q) (cs : List Char) :
    p.body q (c :: cs) = c :: (if c = '\\' then escaped else plain).body q cs := by
  have hw : p.write q c = [c] := by cases p <;> simp [write, hc]
  have hn : p.next q c = if c = '\\' then escaped else plain := by cases p <;> simp [next, hc]
  rw [body, hw, hn, List.singleton_append]

lemma body_plain_self (cs : List Char) : plain.body q (q :: cs) = q :: q :: paired.body q cs := by
  simp [body, write, next]

lemma body_paired_self (hs : q ≠ '\\') (cs : List Char) : paired.body q (q :: cs) = plain.body q cs := by
  simp [body, write, next, hs]

lemma body_escaped_self (cs : List Char) : escaped.body q (q :: cs) = q :: escaped.body q cs := by
  simp [body, write, next]

end Position

/--
The quotes right after a backslash are copied as they are, so the scan goes out of the quotes and back with each two of
them; anywhere else a quote is written twice.
-/
lemma reads_body {q : Char} (hq : Mode.isQuote q = true) (name : List Char) :
    (∀ p : Position, p ≠ .escaped → (Reads q (.quoted q) (p.body q name ++ [q]) ↔ EvenlyEscaped q name)) ∧
      (Reads q (.quoted q) (Position.escaped.body q name ++ [q]) ↔
        Even (name.takeWhile (· = q)).length ∧ EvenlyEscaped q name) ∧
      (Reads q .code (Position.escaped.body q name ++ [q]) ↔
        ¬ Even (name.takeWhile (· = q)).length ∧ EvenlyEscaped q name) := by
  have hb : q ≠ '\\' := ne_of_isQuote hq rfl
  induction name with
  | nil =>
    have hc : Reads q (.quoted q) [q] := (reads_quoted_self []).mpr rfl
    simp [Position.body, hc, not_reads_code_singleton hq, evenlyEscaped_nil]
  | cons c cs ih =>
    obtain ⟨hp, he, ho⟩ := ih
    by_cases hc : c = q
    · subst hc
      refine ⟨fun p hpe => ?_, ?_, ?_⟩
      · rw [evenlyEscaped_cons]
        cases p with
        | plain =>
          simp [Position.body_plain_self, reads_quoted_self, reads_code hq, hp .paired (by simp), hb]
        | paired => simp [Position.body_paired_self hb, hp .plain (by simp), hb]
        | escaped => exact (hpe rfl).elim
      · simp [Position.body_escaped_self, reads_quoted_self, ho, evenlyEscaped_cons, hb, Nat.even_add_one]
      · simp [Position.body_escaped_self, reads_code hq, he, evenlyEscaped_cons, hb, Nat.even_add_one]
    · -- the run of quotes ends here, and whatever came before is forgotten
      have hrest : Reads q (.quoted q) ((if c = '\\' then Position.escaped else .plain).body q cs ++ [q]) ↔
          EvenlyEscaped q (c :: cs) := by
        rw [evenlyEscaped_cons]
        by_cases hs : c = '\\'
        · simp [hs, he]
        · simp [hs, hp .plain (by simp)]
      simp [Position.body_cons_ne _ hc, reads_quoted_ne hc, reads_code hq, hc, hrest]

lemma reads_iff {q : Char} {m : Mode} {cs : List Char} :
    Reads q m cs ↔ (m.after cs).isCode = true ∧ ∀ before c rest, cs = before ++ c :: rest →
      m.after before = .quoted q ∨ (m.after before = .code ∧ c = q) := by
  induction cs generalizing m with
  | nil => simp [Reads]
  | cons c cs ih =>
    rw [Reads, ih, Mode.after_cons]
    constructor
    · rintro ⟨hc, hend, hcs⟩
      refine ⟨hend, fun before d rest he => ?_⟩
      cases before with
      | nil =>
        obtain ⟨rfl, rfl⟩ := List.cons.inj he
        exact hc
      | cons b before =>
        obtain ⟨rfl, rfl⟩ := List.cons.inj he
        exact hcs before d rest rfl
    · rintro ⟨hend, hcs⟩
      refine ⟨hcs [] c cs rfl, hend, fun before d rest he => ?_⟩
      subst he
      exact hcs (c :: before) d rest rfl

end SqlBuilder.Identifier
