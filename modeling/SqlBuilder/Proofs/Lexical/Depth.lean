import Mathlib.Data.Int.Notation
import SqlBuilder.Proofs.Lexical.SelfContained

/-!
The depth of the parentheses in a text, those in quotes and comments apart. A written query is balanced when the texts
that come from outside are: every other parenthesis is one of a pair of the builder, or stands in the quotes of a name.
-/

namespace SqlBuilder

namespace Mode

def shift (m : Mode) (c : Char) : ℤ :=
  if m.isCode then (if c = '(' then 1 else if c = ')' then -1 else 0) else 0

def depth (m : Mode) : List Char → ℤ
  | [] => 0
  | c :: cs => m.shift c + (m.next c).depth cs

def depthAt (m : Mode) (cs : List Char) (i : ℕ) : ℤ :=
  m.depth (cs.take i)

def Balanced (m : Mode) (cs : List Char) : Prop :=
  (∀ i ≤ cs.length, 0 ≤ m.depthAt cs i) ∧ m.depth cs = 0

instance (m : Mode) (cs : List Char) : Decidable (m.Balanced cs) :=
  inferInstanceAs (Decidable (_ ∧ _))

/-- After the first of these positions, the depth is back to what it was there at the second, and not before. -/
structure FirstReturn (m : Mode) (cs : List Char) (i j : ℕ) : Prop where
  lt : i < j
  above : ∀ k, i < k → k < j → m.depthAt cs i < m.depthAt cs k
  back : m.depthAt cs j = m.depthAt cs i

variable {m : Mode} {cs ds : List Char}

lemma depth_append (m : Mode) (cs ds : List Char) : m.depth (cs ++ ds) = m.depth cs + (m.after cs).depth ds := by
  induction cs generalizing m with
  | nil => simp [depth]
  | cons c cs ih => simp [depth, ih, Int.add_assoc]

@[simp] lemma depthAt_zero (m : Mode) (cs : List Char) : m.depthAt cs 0 = 0 := rfl

lemma depthAt_length (m : Mode) (cs : List Char) : m.depthAt cs cs.length = m.depth cs := by
  rw [depthAt, List.take_length]

lemma depthAt_append_left {i : ℕ} (hi : i ≤ cs.length) : m.depthAt (cs ++ ds) i = m.depthAt cs i := by
  rw [depthAt, depthAt, List.take_append_of_le_length hi]

lemma depthAt_append_right (m : Mode) (cs ds : List Char) (i : ℕ) :
    m.depthAt (cs ++ ds) (cs.length + i) = m.depth cs + (m.after cs).depthAt ds i := by
  rw [depthAt, List.take_length_add_append, depth_append]
  rfl

lemma balanced_nil (m : Mode) : m.Balanced [] := by
  simp [Balanced, depthAt, depth]

lemma Balanced.depth_nonneg (h : m.Balanced (cs ++ ds)) : 0 ≤ m.depth cs := by
  have hprefix := h.1 cs.length (by simp)
  rwa [depthAt_append_left (Nat.le_refl _), depthAt_length] at hprefix

lemma Balanced.append (hc : m.Balanced cs) (hd : (m.after cs).Balanced ds) : m.Balanced (cs ++ ds) := by
  refine ⟨fun i hi => ?_, by rw [depth_append, hc.2, hd.2, Int.add_zero]⟩
  rw [List.length_append] at hi
  rcases Nat.le_total i cs.length with hle | hle
  · rw [depthAt_append_left hle]
    exact hc.1 i hle
  · obtain ⟨j, rfl⟩ := Nat.exists_eq_add_of_le hle
    rw [depthAt_append_right, hc.2, Int.zero_add]
    exact hd.1 j (by omega)

lemma Balanced.cons {c : Char} (hc : m.shift c = 0) (h : (m.next c).Balanced cs) : m.Balanced (c :: cs) := by
  have hsingle : m.Balanced [c] := by
    refine ⟨fun i hi => ?_, by simp [depth, hc]⟩
    cases i with
    | zero => simp [depthAt, depth]
    | succ i => simp [depthAt, depth, hc]
  exact hsingle.append h

def isParen (c : Char) : Bool :=
  c = '(' || c = ')'

lemma shift_eq_zero (m : Mode) {c : Char} (hc : isParen c = false) : m.shift c = 0 := by
  have hne : c ≠ '(' ∧ c ≠ ')' := by simpa [isParen] using hc
  simp [shift, hne.1, hne.2]

lemma balanced_of_no_parens (m : Mode) (h : ∀ c ∈ cs, isParen c = false) : m.Balanced cs := by
  induction cs generalizing m with
  | nil => exact balanced_nil m
  | cons c cs ih =>
    rw [List.forall_mem_cons] at h
    exact .cons (m.shift_eq_zero h.1) (ih (m.next c) h.2)

lemma isParen_of_class {p : Char → Bool} (hp : ['(', ')'].any p = false) {c : Char} (hc : p c = true) :
    isParen c = false := by
  have hno : p '(' = false ∧ p ')' = false := by simpa using hp
  have hopen : c ≠ '(' := by grind
  have hclose : c ≠ ')' := by grind
  simp [isParen, hopen, hclose]

lemma balanced_word (m : Mode) {s : String} (hs : isSeparator s = true) : m.Balanced s.toList :=
  m.balanced_of_no_parens fun c hc => isParen_of_class rfl ((isSeparator_iff.mp hs).2 c hc)

section Parentheses

variable (hm : m.isCode = true) (hb : code.Balanced cs) (hc : (code.after cs).isCode = true)

include hm

lemma reads_open : m.next '(' = code ∧ m.shift '(' = 1 :=
  ⟨(separates_open m hm).1, by simp [shift, hm]⟩

lemma reads_close : m.next ')' = code ∧ m.shift ')' = -1 :=
  ⟨(separates_close m hm).1, by simp [shift, hm]⟩

include hb hc

lemma firstReturn_parens : m.FirstReturn ("(".toList ++ cs ++ ")".toList) 0 (cs.length + 2) := by
  have hopen := reads_open hm
  have hclose := reads_close hc
  have hinside : ∀ i ≤ cs.length, m.depthAt ("(".toList ++ cs ++ ")".toList) (1 + i) = 1 + code.depthAt cs i := by
    intro i hi
    rw [List.append_assoc]
    refine (depthAt_append_right m "(".toList _ i).trans ?_
    simp [depth, hopen, depthAt_append_left hi]
  constructor
  · omega
  · intro k hk hlast
    obtain ⟨i, rfl⟩ : ∃ i, k = 1 + i := Nat.exists_eq_add_of_le hk
    have hi : i ≤ cs.length := by omega
    have hnonneg := hb.1 i hi
    rw [depthAt_zero, hinside i hi]
    omega
  · have hlength : cs.length + 2 = ("(".toList ++ cs ++ ")".toList).length := by simp
    rw [depthAt_zero, hlength, depthAt_length, depth_append, depth_append]
    simp [depth, hopen, hclose, hb.2]

lemma balanced_parens : m.Balanced ("(".toList ++ cs ++ ")".toList) := by
  have hreturn := firstReturn_parens hm hb hc
  have hlength : cs.length + 2 = ("(".toList ++ cs ++ ")".toList).length := by simp
  have hback := hreturn.back
  rw [depthAt_zero, hlength] at hback
  refine ⟨fun i hi => ?_, (depthAt_length m _).symm.trans hback⟩
  rcases Nat.eq_zero_or_pos i with rfl | hpos
  · exact Int.le_refl 0
  · rcases Nat.lt_or_eq_of_le hi with hlt | rfl
    · have habove := hreturn.above i hpos (by omega)
      rw [depthAt_zero] at habove
      omega
    · exact Int.le_of_eq hback.symm

end Parentheses

lemma FirstReturn.within {i j : ℕ} {before : List Char} (h : (m.after before).FirstReturn cs i j)
    (hj : j ≤ cs.length) (rest : List Char) :
    m.FirstReturn (before ++ (cs ++ rest)) (before.length + i) (before.length + j) := by
  have hdepth : ∀ k ≤ j, m.depthAt (before ++ (cs ++ rest)) (before.length + k) =
      m.depth before + (m.after before).depthAt cs k := by
    intro k hk
    rw [depthAt_append_right, depthAt_append_left (Nat.le_trans hk hj)]
  constructor
  · exact Nat.add_lt_add_left h.lt _
  · intro k hk hlast
    obtain ⟨l, rfl⟩ : ∃ l, k = before.length + l := Nat.exists_eq_add_of_le (by omega)
    have habove := h.above l (by omega) (by omega)
    rw [hdepth i (Nat.le_of_lt h.lt), hdepth l (by omega)]
    omega
  · rw [hdepth i (Nat.le_of_lt h.lt), hdepth j (Nat.le_refl j), h.back]

end Mode

namespace Identifier

lemma Reads.balanced {q : Char} (hq : Mode.isQuote q = true) {m : Mode} {cs : List Char} (h : Reads q m cs) :
    m.Balanced cs := by
  induction cs generalizing m with
  | nil => exact m.balanced_nil
  | cons c cs ih =>
    obtain ⟨hc, hcs⟩ := h
    apply Mode.Balanced.cons ?_ (ih hcs)
    rcases hc with rfl | ⟨rfl, rfl⟩
    · rfl
    · exact Mode.code.shift_eq_zero (Mode.isParen_of_class rfl hq)

end Identifier

namespace Frame

def isFrameChar (c : Char) : Bool :=
  c.isDigit || " -ABCDEFGILNOPRSTUVW".toList.contains c

lemma isFrameChar_word {s : String} (hs : s.toList.all isFrameChar = true) : ∀ c ∈ s.toList, isFrameChar c = true :=
  List.all_eq_true.mp hs

lemma isFrameChar_int (i : ℤ) : ∀ c ∈ (toString i).toList, isFrameChar c = true := by
  have hdigits : ∀ n : ℕ, ∀ c ∈ Nat.toDigits 10 n, isFrameChar c = true := by
    intro n c hc
    have hd : c.isDigit = true := Nat.isDigit_of_mem_toDigits (by decide) (by decide) hc
    rw [isFrameChar, hd, Bool.true_or]
  rw [Int.toString_eq_repr, Int.repr_eq_if]
  split
  · rw [Nat.toList_repr]
    exact hdigits _
  · rw [String.toList_append, Nat.toList_repr, List.forall_mem_append]
    exact ⟨isFrameChar_word rfl, hdigits _⟩

lemma isFrameChar_bound (b : Bound) : ∀ c ∈ b.text.toList, isFrameChar c = true := by
  have hkind : ∀ c ∈ b.kind.sql.toList, isFrameChar c = true := isFrameChar_word (by cases b.kind <;> decide)
  cases ho : b.offset with
  | none => simpa [Bound.text, ho] using hkind
  | some n =>
    simp only [Bound.text, ho, String.toList_append, List.forall_mem_append]
    exact ⟨⟨isFrameChar_int n.toInt, isFrameChar_word rfl⟩, hkind⟩

lemma isFrameChar_text (f : Frame) : ∀ c ∈ f.text.toList, isFrameChar c = true := by
  have hunit : ∀ c ∈ f.unit.sql.toList, isFrameChar c = true := isFrameChar_word (by cases f.unit <;> decide)
  cases hs : f.stop with
  | none =>
    simp only [Frame.text, hs, String.toList_append, List.forall_mem_append]
    exact ⟨⟨hunit, isFrameChar_word rfl⟩, isFrameChar_bound f.start⟩
  | some stop =>
    simp only [Frame.text, hs, String.toList_append, List.forall_mem_append]
    refine ⟨⟨⟨⟨hunit, ?_⟩, isFrameChar_bound f.start⟩, ?_⟩, isFrameChar_bound stop⟩
    · exact isFrameChar_word rfl
    · exact isFrameChar_word rfl

end Frame

lemma Dialect.spelling_eq {d : Dialect} (hd : Mode.isQuote d.quote = true) {name : String} (hn : '\\' ∉ name.toList) :
    (Identifier.isBare name = true ∧ d.spelling name = name) ∨
      ∃ cs, (d.spelling name).toList = d.quote :: cs ∧ Identifier.Reads d.quote (.quoted d.quote) cs := by
  have hspelling := d.identifier_eq_spelling hd name
  rcases d.identifier_eq hd name with ⟨hbare, h⟩ | h
  · exact Or.inl ⟨hbare, Except.ok.inj (hspelling.symm.trans h)⟩
  · refine Or.inr ⟨_, ?_, ((Identifier.reads_body hd name.toList).1 .plain (by simp)).mpr ?_⟩
    · rw [Except.ok.inj (hspelling.symm.trans h), String.toList_ofList]
      rfl
    · exact Identifier.evenlyEscaped_of_no_backslash hn

def Fragment.Balanced (f : Fragment) : Prop :=
  Mode.code.Balanced f.sql.toList

instance (f : Fragment) : Decidable f.Balanced :=
  inferInstanceAs (Decidable (Mode.code.Balanced _))

namespace Fragment

variable {f g inner : Fragment}

lemma Balanced.join {s : String} (hs : isSeparator s = true) (hf : f.Balanced) (hfirst : f.SelfContained)
    (hg : g.Balanced) : (f ++ (ofText s ++ g)).Balanced := by
  have hword := Mode.separates_word hs _ hfirst.1
  simp only [Balanced, sql_append, String.toList_append, ofText]
  refine Mode.Balanced.append hf ((Mode.balanced_word _ hs).append ?_)
  rwa [hword.1]

lemma Balanced.group (hf : f.Balanced) (hfirst : f.SelfContained) (hi : inner.Balanced)
    (hinside : inner.SelfContained) (hg : g.Balanced) :
    (f ++ (ofText "(" ++ (inner ++ (ofText ")" ++ g)))).Balanced := by
  have hopen := Mode.separates_open _ hfirst.1
  have hclose := Mode.separates_close _ hinside.1
  have hparens := Mode.balanced_parens hfirst.1 hi hinside.1
  simp only [Balanced, sql_append, String.toList_append, ofText]
  refine Mode.Balanced.append hf ?_
  rw [← List.append_assoc, ← List.append_assoc]
  refine hparens.append ?_
  rwa [Mode.after_append, Mode.after_append, hopen.1, hclose.1]

end Fragment

namespace Piece

def Balanced : Piece → Prop
  | raw f => f.Balanced
  | _ => True

instance : DecidablePred Balanced
  | .raw f => inferInstanceAs (Decidable f.Balanced)
  | .word _ | .function _ | .identifier _ | .value _ => .isTrue trivial

lemma balanced_identifier {d : Dialect} (hd : Mode.isQuote d.quote = true) {name : String}
    (hn : '\\' ∉ name.toList) : (fragment d (.identifier name)).Balanced := by
  rcases d.spelling_eq hd hn with ⟨hbare, h⟩ | ⟨cs, h, hreads⟩
  · have hplain : Identifier.isPlain name.toList = true := by
      rw [Identifier.isBare, Bool.and_eq_true] at hbare
      exact hbare.1
    rw [Fragment.Balanced, fragment, text, h]
    apply Mode.balanced_of_no_parens
    intro c hc
    exact Mode.isParen_of_class rfl (Identifier.isBareRest_of_isPlain hplain c hc)
  · have hcode : Identifier.Reads d.quote .code (d.quote :: cs) :=
      ⟨Or.inr ⟨rfl, rfl⟩, by rwa [Identifier.next_code_quote hd]⟩
    rw [Fragment.Balanced, fragment, text, h]
    exact hcode.balanced hd

end Piece

lemma Phrase.balanced {d : Dialect} (hd : Mode.isQuote d.quote = true) {ps : List Piece} (h : Phrase ps)
    (hp : ∀ p ∈ ps, p.Tidy ∧ p.Balanced) : (Piece.fragments d ps).Balanced := by
  induction h with
  | nil => exact Mode.code.balanced_nil
  | star =>
    rw [Piece.fragments_singleton]
    exact (by decide : Mode.code.Balanced "*".toList)
  | frame f =>
    rw [Piece.fragments_singleton]
    exact Mode.code.balanced_of_no_parens fun c hc => Mode.isParen_of_class rfl (f.isFrameChar_text c hc)
  | function name =>
    rw [Piece.fragments_singleton]
    have hname : ∀ c ∈ name.toList, isFunctionChar c = true := (hp (.function name) (by simp)).1
    exact Mode.code.balanced_of_no_parens fun c hc => Mode.isParen_of_class rfl (hname c hc)
  | identifier name =>
    rw [Piece.fragments_singleton]
    exact Piece.balanced_identifier hd (hp (.identifier name) (by simp)).1
  | value v =>
    rw [Piece.fragments_singleton]
    exact (by decide : Mode.code.Balanced "?".toList)
  | raw f =>
    rw [Piece.fragments_singleton]
    exact (hp (.raw f) (by simp)).2
  | join hs hps _ ihp ihq =>
    rw [Piece.fragments_join]
    have hfirst := hps.selfContained hd fun p h => (hp p (by simp [h])).1
    exact .join hs (ihp fun p h => hp p (by simp [h])) hfirst (ihq fun p h => hp p (by simp [h]))
  | group hps hinner _ ihp ihi ihq =>
    rw [Piece.fragments_group]
    have hfirst := hps.selfContained hd fun p h => (hp p (by simp [h])).1
    have hinside := hinner.selfContained hd fun p h => (hp p (by simp [Piece.group, h])).1
    exact .group (ihp fun p h => hp p (by simp [h])) hfirst (ihi fun p h => hp p (by simp [Piece.group, h])) hinside
      (ihq fun p h => hp p (by simp [h]))

end SqlBuilder
