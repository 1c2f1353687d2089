import SqlBuilder.Proofs.With.Assembled

/-!
The quotes in a name. Each of them is written twice, but two that stand next to each other are taken for one that is
written twice already. An identifier therefore tells names apart only up to such pairs.
-/

namespace SqlBuilder

namespace Identifier

namespace Position

/-- The name without the quotes that are taken for the second of a pair. -/
def merge (q : Char) (p : Position) : List Char → List Char
  | [] => []
  | c :: cs => (if p = paired ∧ c = q then [] else [c]) ++ (p.next q c).merge q cs

variable {q : Char}

@[simp] lemma merge_nil (p : Position) : p.merge q [] = [] := rfl

@[simp] lemma merge_paired_self (hq : q ≠ '\\') (cs : List Char) : paired.merge q (q :: cs) = plain.merge q cs := by
  simp [merge, next, hq]

lemma merge_cons {p : Position} {c : Char} (h : ¬ (p = paired ∧ c = q)) (cs : List Char) :
    p.merge q (c :: cs) = c :: (p.next q c).merge q cs := by
  simp [merge, h]

lemma merge_sublist (p : Position) (name : List Char) : (p.merge q name).Sublist name := by
  induction name generalizing p with
  | nil => exact List.Sublist.refl []
  | cons c cs ih =>
    by_cases h : p = paired ∧ c = q
    · rw [merge, if_pos h, List.nil_append]
      exact (ih _).cons c
    · rw [merge_cons h]
      exact (ih _).cons_cons c

lemma merge_of_not_mem (p : Position) {name : List Char} (h : q ∉ name) : p.merge q name = name := by
  induction name generalizing p with
  | nil => rfl
  | cons c cs ih =>
    rw [List.mem_cons, not_or] at h
    rw [merge_cons fun hc => h.1 hc.2.symm, ih _ h.2]

lemma mem_merge {p : Position} (hp : p ≠ paired) {name : List Char} (h : q ∈ name) : q ∈ p.merge q name := by
  induction name generalizing p with
  | nil => exact h
  | cons c cs ih =>
    rw [merge_cons fun hc => hp hc.1]
    by_cases hc : c = q
    · simp [hc]
    · have hnext : p.next q c ≠ paired := by cases p <;> simp [next, hc] <;> split <;> simp
      exact List.mem_cons_of_mem c (ih hnext (List.mem_of_ne_of_mem (Ne.symm hc) h))

lemma merge_eq_self_iff {p : Position} {name : List Char} (hname : '\\' ∉ name) (hp : p ≠ escaped) :
    p.merge q name = name ↔ ¬ [q, q] <:+: name ∧ (p = paired → name.head? ≠ some q) := by
  induction name generalizing p with
  | nil => simp
  | cons c cs ih =>
    rw [List.mem_cons, not_or] at hname
    obtain ⟨hc, hcs⟩ := hname
    by_cases h : p = paired ∧ c = q
    · -- a quote is left out, so the text gets shorter
      obtain ⟨rfl, rfl⟩ := h
      refine iff_of_false (fun heq => ?_) fun hnone => hnone.2 rfl rfl
      have hlength := (merge_sublist plain (q := c) cs).length_le
      rw [merge_paired_self (Ne.symm hc)] at heq
      rw [heq, List.length_cons] at hlength
      omega
    · have hnext : p.next q c = if c = q then paired else plain := by
        cases p with
        | plain => simp [next, Ne.symm hc]
        | escaped => exact (hp rfl).elim
        | paired => simp [next, Ne.symm hc, show c ≠ q from fun heq => h ⟨rfl, heq⟩]
      have hpair : [q, q] <+: c :: cs ↔ c = q ∧ cs.head? = some q := by
        cases cs <;> simp [List.cons_prefix_cons, eq_comm]
      have hself : p.next q c ≠ escaped := by rw [hnext]; split <;> simp
      have hpaired : p.next q c = paired ↔ c = q := by rw [hnext]; split <;> simp_all
      rw [merge_cons h, List.cons_inj_right, ih hcs hself, hpaired, List.infix_cons_iff, hpair]
      simp only [List.head?_cons, ne_eq, Option.some.injEq]
      tauto

end Position

/-- The text of a name without second quotes of a pair: quotes right after a backslash are kept, all others doubled. -/
def spell (q : Char) : Bool → List Char → List Char
  | _, [] => []
  | escaped, c :: cs =>
    (if c = q ∧ escaped = false then [q, q] else [c]) ++ spell q (c = '\\' || escaped && c = q) cs

lemma body_eq_spell {q : Char} (hq : q ≠ '\\') (p : Position) (name : List Char) :
    p.body q name = spell q (p = .escaped) (p.merge q name) := by
  induction name generalizing p with
  | nil => rfl
  | cons c cs ih =>
    by_cases hc : c = q
    · subst hc
      cases p with
      | plain => simp [Position.body_plain_self, Position.merge_cons, spell, ih, Position.next, hq]
      | escaped => simp [Position.body_escaped_self, Position.merge_cons, spell, ih, Position.next, hq]
      | paired => simp [Position.body_paired_self hq, hq, ih]
    · have hnext : p.next q c = if c = '\\' then Position.escaped else .plain := by
        cases p <;> simp [Position.next, hc]
      rw [Position.body_cons_ne p hc, Position.merge_cons fun h => hc h.2, spell, ih, hnext]
      by_cases hs : c = '\\' <;> simp [hc, hs, Ne.symm hq]

lemma head?_spell (q : Char) (escaped : Bool) (name : List Char) : (spell q escaped name).head? = name.head? := by
  cases name with
  | nil => rfl
  | cons c cs =>
    rw [spell]
    split
    · rename_i h
      simp [h.1]
    · rfl

lemma spell_injective (q : Char) (escaped : Bool) : Function.Injective (spell q escaped) := by
  intro a b h
  have hhead : a.head? = b.head? := by rw [← head?_spell q escaped a, h, head?_spell]
  induction a generalizing escaped b with
  | nil => exact (List.head?_eq_none_iff.mp hhead.symm).symm
  | cons c cs ih =>
    cases b with
    | nil => cases hhead
    | cons c' cs' =>
      obtain rfl : c = c' := Option.some.inj hhead
      have htail := List.append_cancel_left h
      rw [ih _ htail (by rw [← head?_spell q _ cs, htail, head?_spell])]

lemma enclosed_spell_eq_iff {q : Char} {a b : List Char} :
    q :: spell q false a ++ [q] = q :: spell q false b ++ [q] ↔ a = b := by
  rw [List.append_cancel_right_eq, List.cons_inj_right, (spell_injective q false).eq_iff]

def double (q : Char) (name : List Char) : List Char :=
  name.flatMap fun c => if c = q then [q, q] else [c]

lemma spell_eq_double {q : Char} {name : List Char} (h : '\\' ∉ name) : spell q false name = double q name := by
  induction name with
  | nil => rfl
  | cons c cs ih =>
    rw [List.mem_cons, not_or] at h
    rw [double, List.flatMap_cons, ← double, ← ih h.2, spell]
    simp [Ne.symm h.1]

def merge (q : Char) (name : String) : List Char :=
  Position.plain.merge q name.toList

lemma merge_of_not_mem {q : Char} {name : String} (h : q ∉ name.toList) : merge q name = name.toList :=
  Position.merge_of_not_mem .plain h

lemma merge_eq_toList_iff {q : Char} {name : String} (h : '\\' ∉ name.toList) :
    merge q name = name.toList ↔ ¬ [q, q] <:+: name.toList := by
  rw [merge, Position.merge_eq_self_iff h (by simp)]
  simp

lemma enclose_eq {q : Char} (hq : q ≠ '\\') (name : String) :
    enclose q name.toList = q :: spell q false (merge q name) ++ [q] := by
  rw [enclose, body_eq_spell hq]
  rfl

lemma enclose_eq_iff {q : Char} (hq : q ≠ '\\') {a b : String} :
    enclose q a.toList = enclose q b.toList ↔ merge q a = merge q b := by
  rw [enclose_eq hq, enclose_eq hq, enclosed_spell_eq_iff]

lemma enclose_eq_double_merge {q : Char} (hq : q ≠ '\\') {name : String} (h : '\\' ∉ name.toList) :
    enclose q name.toList = q :: double q (merge q name) ++ [q] := by
  have hmerge : '\\' ∉ merge q name := fun hmem => h ((Position.merge_sublist _ _).subset hmem)
  rw [enclose_eq hq, spell_eq_double hmerge]

lemma enclose_eq_double_iff {q : Char} (hq : q ≠ '\\') {name : String} (h : '\\' ∉ name.toList) :
    enclose q name.toList = q :: double q name.toList ++ [q] ↔ ¬ [q, q] <:+: name.toList := by
  rw [enclose_eq hq, ← spell_eq_double h, enclosed_spell_eq_iff, merge_eq_toList_iff h]

end Identifier

open Identifier Declaration

section Collisions

variable {d : Dialect} (hq : Mode.isQuote d.quote = true)

include hq

lemma Dialect.identifier_of_not_bare {name : String} (h : ¬ (d.quoting = .whenNeeded ∧ isBare name = true)) :
    d.identifier name = .ok (String.ofList (enclose d.quote name.toList)) := by
  rw [identifier, if_neg h, quote_of_isQuote hq]

lemma Dialect.identifier_ne {a b : String} (ha : d.quoting = .whenNeeded ∧ isBare a = true)
    (hb : ¬ (d.quoting = .whenNeeded ∧ isBare b = true)) :
    d.identifier a ≠ d.identifier b ∧ merge d.quote a ≠ merge d.quote b := by
  have hnone : d.quote ∉ a.toList := quote_not_mem_of_isBare hq ha.2
  constructor
  · rw [identifier, if_pos ha, identifier_of_not_bare hq hb]
    intro heq
    rw [Except.ok.inj heq, String.toList_ofList] at hnone
    exact hnone List.mem_cons_self
  · intro heq
    rw [merge_of_not_mem hnone] at heq
    have hb' : d.quote ∉ b.toList := fun hmem => hnone (heq ▸ Position.mem_merge (by simp) hmem)
    rw [merge_of_not_mem hb', String.toList_inj] at heq
    exact hb (heq ▸ ha)

lemma Dialect.identifier_eq_iff (a b : String) :
    d.identifier a = d.identifier b ↔ merge d.quote a = merge d.quote b := by
  by_cases ha : d.quoting = .whenNeeded ∧ isBare a = true
  · by_cases hb : d.quoting = .whenNeeded ∧ isBare b = true
    · have hmerge : ∀ {name : String}, isBare name = true → merge d.quote name = name.toList := fun hname =>
        merge_of_not_mem (quote_not_mem_of_isBare hq hname)
      rw [identifier, identifier, if_pos ha, if_pos hb, hmerge ha.2, hmerge hb.2, String.toList_inj, Except.ok.injEq]
    · exact iff_of_false (identifier_ne hq ha hb).1 (identifier_ne hq ha hb).2
  · by_cases hb : d.quoting = .whenNeeded ∧ isBare b = true
    · exact iff_of_false (identifier_ne hq hb ha).1.symm (identifier_ne hq hb ha).2.symm
    · rw [identifier_of_not_bare hq ha, identifier_of_not_bare hq hb, Except.ok.injEq, String.ofList_inj,
        enclose_eq_iff (ne_of_isQuote hq rfl)]

end Collisions

/-- Two quotes in a row are written like one of them, and in names without such a pair each quote is doubled. Names get
different identifiers exactly when they differ with their pairs merged; the check of the declarations compares them as
they are. -/
theorem identifier_doubled_iff {d : Dialect} (hd : d.quote ∈ ['"', '\'', '\x60']) :
    (∀ name : String, ¬ (d.quoting = .whenNeeded ∧ isBare name = true) → '\\' ∉ name.toList →
      d.identifier name = .ok (String.ofList (d.quote :: double d.quote (merge d.quote name) ++ [d.quote])) ∧
        (d.identifier name = .ok (String.ofList (d.quote :: double d.quote name.toList ++ [d.quote])) ↔
          ¬ [d.quote, d.quote] <:+: name.toList)) ∧
      (∀ a b : String, d.identifier a = d.identifier b ↔ merge d.quote a = merge d.quote b) ∧
      ∀ (cs : List Declaration) (base f : Fragment), assembleWith d cs base = .ok f →
        f = assembled d cs base ∧ (cs.map (·.name)).Nodup ∧
          ((cs.map fun c => d.identifier c.name).Nodup ↔ (cs.map fun c => merge d.quote c.name).Nodup) := by
  have hq : Mode.isQuote d.quote = true := isQuote_of_mem hd
  have hslash : d.quote ≠ '\\' := ne_of_isQuote hq rfl
  refine ⟨fun name hbare hname => ?_, d.identifier_eq_iff hq, fun cs base f h => ?_⟩
  · rw [d.identifier_of_not_bare hq hbare, Except.ok.injEq, Except.ok.injEq, String.ofList_inj, String.ofList_inj]
    exact ⟨enclose_eq_double_merge hslash hname, enclose_eq_double_iff hslash hname⟩
  · obtain ⟨-, -, hvalid, hrun, -⟩ := assembleWith_eq_ok.mp h
    have hd' : d.quote ∈ ['"', '\'', '\x60', '['] := List.mem_append_left ['['] hd
    refine ⟨Except.ok.inj (hrun.symm.trans (run_emitWith hd' cs base)), (validateAll_eq_ok.mp hvalid).2, ?_⟩
    rw [List.Nodup, List.Nodup, List.pairwise_map, List.pairwise_map]
    simp only [ne_eq, d.identifier_eq_iff hq]

theorem identifier_doubled_iff_apart :
    Dialect.mysql.quote ∈ ['"', '\'', '\x60'] ∧
      Dialect.mysql.identifier "\x60a\x60b" = .ok "\x60\x60\x60a\x60\x60b\x60" ∧
      ∃ f, assembleWith .mysql
          [⟨"\x60a\x60b", [], ⟨"SELECT 1", []⟩⟩, ⟨"\x60\x60", ["n"], ⟨"SELECT ?", [.int 1]⟩⟩]
          ⟨"SELECT ?", [.int 2]⟩ = .ok f ∧
        (["\x60a\x60b", "\x60\x60"].map Dialect.mysql.identifier).Nodup := by
  have hd : Dialect.mysql.quote ∈ ['"', '\'', '\x60'] := by decide
  obtain ⟨hquoted, -, hdeclared⟩ := identifier_doubled_iff hd
  have hf : assembleWith .mysql
      [⟨"\x60a\x60b", [], ⟨"SELECT 1", []⟩⟩, ⟨"\x60\x60", ["n"], ⟨"SELECT ?", [.int 1]⟩⟩] ⟨"SELECT ?", [.int 2]⟩ =
        .ok ⟨"WITH \x60\x60\x60a\x60\x60b\x60 AS (SELECT 1), \x60\x60\x60\x60 (n) AS (SELECT ?) SELECT ?",
          [.int 1, .int 2]⟩ := rfl
  refine ⟨hd, ?_, _, hf, ?_⟩
  · exact (hquoted "\x60a\x60b" (by decide) (by decide)).2.mpr (by decide)
  · exact (hdeclared _ _ _ hf).2.2.mpr (by decide)

theorem identifier_merges_quote_pair :
    "a\"" ≠ "a\"\"" ∧ '\\' ∉ "a\"".toList ∧ '\\' ∉ "a\"\"".toList ∧
      Dialect.generic.identifier "a\"\"" ≠ .ok (String.ofList ('"' :: double '"' "a\"\"".toList ++ ['"'])) ∧
      Dialect.generic.identifier "a\"" = Dialect.generic.identifier "a\"\"" ∧
      ∃ f, assembleWith .generic [⟨"a\"", [], ⟨"SELECT 1", []⟩⟩, ⟨"a\"\"", [], ⟨"SELECT 2", []⟩⟩] ⟨"SELECT 3", []⟩ =
        .ok f := by
  have hidentifier : Dialect.generic.identifier "a\"\"" = .ok "\"a\"\"\"" := rfl
  refine ⟨by decide, by decide, by decide, ?_, rfl, ?_⟩
  · rw [hidentifier, ne_eq, Except.ok.injEq]
    decide
  · exact ⟨⟨"WITH \"a\"\"\" AS (SELECT 1), \"a\"\"\" AS (SELECT 2) SELECT 3", []⟩, rfl⟩

end SqlBuilder
