import SqlBuilder.Proofs.Lexical.Word

/-!
The keyword `WITH` among the words of a text. A text is quiet when the keyword does not stand at depth zero; joining
quiet texts and putting any balanced text in parentheses keeps them so.
-/

namespace SqlBuilder

/-- Whether a keyword counts in upper case only, or in any case. -/
inductive Casing
  | exact
  | any
deriving DecidableEq, Repr

namespace Casing

def fold : Casing → Char → Char
  | exact => id
  | any => Char.toUpper

def isWith (casing : Casing) (word : List Char) : Bool :=
  word.map casing.fold = "WITH".toList

end Casing

def opensApart (s : String) : Bool :=
  s.toList.head?.all fun c => !isWordChar c

def closesApart (s : String) : Bool :=
  s.toList.getLast?.all fun c => !isWordChar c

lemma apart_of_opensApart (cs : List Char) {s : String} (hs : opensApart s = true) : Apart cs s.toList := by
  intro c _ d hd _
  simpa [opensApart, Option.mem_def.mp hd] using hs

lemma apart_of_closesApart {s : String} (hs : closesApart s = true) (ds : List Char) : Apart s.toList ds := by
  intro c hc d _ hword
  have hnone : isWordChar c = false := by simpa [closesApart, Option.mem_def.mp hc] using hs
  rw [hnone] at hword
  cases hword

def lacksLetter (s : String) : Bool :=
  "WITH".toList.any fun l => s.toList.all fun c => c.toUpper ≠ l

namespace Identifier

lemma toLower_toUpper_of_isBareRest {c : Char} (hc : isBareRest c = true) : c.toUpper.toLower = c := by
  have hascii : ∀ n < 128, isBareRest (Char.ofNat n) = true → (Char.ofNat n).toUpper.toLower = Char.ofNat n := by
    decide
  have hlt : c.toNat < 128 := by
    simp only [isBareRest, isBareStart, Bool.or_eq_true, decide_eq_true_eq] at hc
    rcases hc with (hlower | rfl) | hdigit
    · have hle : c.val ≤ 'z'.val := of_decide_eq_true (Bool.and_eq_true_iff.mp hlower).2
      exact Nat.lt_of_le_of_lt (UInt32.le_iff_toNat_le.mp hle) (by decide)
    · decide
    · have hle : c.val ≤ '9'.val := of_decide_eq_true (Bool.and_eq_true_iff.mp hdigit).2
      exact Nat.lt_of_le_of_lt (UInt32.le_iff_toNat_le.mp hle) (by decide)
  have hchar := hascii c.toNat hlt
  rw [Char.ofNat_toNat] at hchar
  exact hchar hc

lemma toList_eq_of_map_toUpper {name : String} (h : isBare name = true) {keyword : List Char}
    (hupper : name.toList.map Char.toUpper = keyword) : name.toList = keyword.map Char.toLower := by
  have hplain : isPlain name.toList = true := (Bool.and_eq_true_iff.mp h).1
  rw [← hupper, List.map_map, Function.comp_def,
    List.map_congr_left fun c hc => toLower_toUpper_of_isBareRest (isBareRest_of_isPlain hplain c hc), List.map_id']

lemma isWordChar_of_isBareRest {c : Char} (hc : isBareRest c = true) : isWordChar c = true := by
  simp only [isBareRest, isBareStart, Bool.or_eq_true] at hc
  rcases hc with (hlower | hunderscore) | hdigit
  · have halpha : c.isAlpha = true := Bool.or_eq_true_iff.mpr (.inr hlower)
    simp [isWordChar, Char.isAlphanum, halpha]
  · simp [isWordChar, hunderscore]
  · simp [isWordChar, Char.isAlphanum, hdigit]

end Identifier

lemma lacksLetter_toString (n : ℕ) : lacksLetter (toString n) = true := by
  rw [lacksLetter, List.any_eq_true]
  refine ⟨'H', by decide, List.all_eq_true.mpr fun c hc => ?_⟩
  rw [Nat.toString_eq_ofList_toDigits, String.toList_ofList] at hc
  have hdigit : c.isDigit = true := Nat.isDigit_of_mem_toDigits (by decide) (by decide) hc
  have hlower : c.toUpper.toLower = c :=
    Identifier.toLower_toUpper_of_isBareRest (by rw [Identifier.isBareRest, hdigit, Bool.or_true])
  rw [decide_eq_true_eq]
  intro hupper
  rw [← hlower, hupper] at hdigit
  exact absurd hdigit (by decide)

namespace Casing

variable (casing : Casing)

lemma isWith_of_lacksLetter {s : String} (hs : lacksLetter s = true) {word : List Char}
    (hword : ∀ c ∈ word, c ∈ s.toList) : casing.isWith word = false := by
  obtain ⟨l, hl, hlacks⟩ := List.any_eq_true.mp hs
  rw [isWith, decide_eq_false_iff_not]
  intro heq
  rw [← heq] at hl
  obtain ⟨c, hc, rfl⟩ := List.mem_map.mp hl
  have hne : c.toUpper ≠ casing.fold c := by simpa using List.all_eq_true.mp hlacks c (hword c hc)
  cases casing with
  | any => exact hne rfl
  | exact =>
    have hupper : "WITH".toList.all (fun l => l.toUpper = l) = true := by decide
    exact hne (by simpa [fold] using List.all_eq_true.mp hupper c (heq ▸ hl))

lemma isWith_of_isBare {name : String} (h : Identifier.isBare name = true) : casing.isWith name.toList = false := by
  rw [isWith, decide_eq_false_iff_not]
  intro heq
  cases casing with
  | exact =>
    obtain rfl : name = "WITH" := String.toList_inj.mp (by simpa [fold] using heq)
    exact absurd h (by decide)
  | any =>
    have hlower : name.toList = "with".toList := Identifier.toList_eq_of_map_toUpper h heq
    obtain rfl : name = "with" := String.toList_inj.mp hlower
    exact absurd h (by decide)

end Casing

namespace Fragment

def withs (casing : Casing) (f : Fragment) : ℕ :=
  f.words.countP fun x => x.1 = 0 && casing.isWith x.2

def Quiet (casing : Casing) (f : Fragment) : Prop :=
  ∀ x ∈ f.words, x.1 = 0 → casing.isWith x.2 = false

variable {casing : Casing} {f g inner : Fragment}

lemma Quiet.withs (h : f.Quiet casing) : f.withs casing = 0 := by
  rw [Fragment.withs, List.countP_eq_zero]
  intro x hx
  simpa using h x hx

lemma withs_join {s : String} (hs : isSeparator s = true) (hf : f.Balanced) (hfirst : f.SelfContained)
    (hbefore : Apart f.sql.toList s.toList) (hafter : Apart s.toList g.sql.toList) :
    (f ++ (ofText s ++ g)).withs casing = f.withs casing + ((ofText s).withs casing + g.withs casing) := by
  rw [Fragment.withs, words_join hs hf hfirst hbefore hafter, List.countP_append, List.countP_append]
  rfl

lemma quiet_of_words_eq_nil (h : f.words = []) : f.Quiet casing := by
  intro x hx
  rw [h] at hx
  cases hx

lemma quiet_word (h : ∀ c ∈ f.sql.toList, isWordChar c = true) (hword : casing.isWith f.sql.toList = false) :
    f.Quiet casing := by
  intro x hx _
  rw [words, Mode.words_of_forall_isWordChar rfl h] at hx
  rw [Mode.mem_finished hx]
  exact hword

lemma Quiet.join {s : String} (hs : isSeparator s = true) (hlacks : lacksLetter s = true) (hf : f.Balanced)
    (hfirst : f.SelfContained) (hbefore : Apart f.sql.toList s.toList) (hafter : Apart s.toList g.sql.toList)
    (hfq : f.Quiet casing) (hgq : g.Quiet casing) : (f ++ (ofText s ++ g)).Quiet casing := by
  rw [Quiet, words_join hs hf hfirst hbefore hafter, List.forall_mem_append, List.forall_mem_append]
  refine ⟨hfq, fun x hx _ => ?_, hgq⟩
  exact casing.isWith_of_lacksLetter hlacks (Mode.mem_of_mem_words hx)

lemma Quiet.group (hf : f.Balanced) (hfirst : f.SelfContained) (hi : inner.Balanced) (hinside : inner.SelfContained)
    (hfq : f.Quiet casing) (hgq : g.Quiet casing) :
    (f ++ (ofText "(" ++ (inner ++ (ofText ")" ++ g)))).Quiet casing := by
  rw [Quiet, words_group hf hfirst hi hinside, List.forall_mem_append, List.forall_mem_append]
  refine ⟨hfq, fun x hx hzero => ?_, hgq⟩
  obtain ⟨y, hy, rfl⟩ := List.mem_map.mp hx
  have hdepth : 0 ≤ y.1 := Mode.le_depth_of_mem_words hi.1 hy
  have hsum : 1 + y.1 = 0 := hzero
  omega

end Fragment

namespace Piece

lemma words_identifier {d : Dialect} (hd : Mode.isQuote d.quote = true) {name : String} (hn : '\\' ∉ name.toList) :
    (fragment d (.identifier name)).words = [] ∨
      (Identifier.isBare name = true ∧ (fragment d (.identifier name)).words = Mode.finished name.toList) := by
  rw [Fragment.words, fragment, text]
  rcases d.spelling_eq hd hn with ⟨hbare, h⟩ | ⟨cs, h, hreads⟩
  · have hchars := Identifier.isBareRest_of_isPlain (Bool.and_eq_true_iff.mp hbare).1
    refine .inr ⟨hbare, ?_⟩
    rw [h]
    exact Mode.words_of_forall_isWordChar rfl fun c hc => Identifier.isWordChar_of_isBareRest (hchars c hc)
  · have hcode : Identifier.Reads d.quote .code (d.quote :: cs) :=
      ⟨Or.inr ⟨rfl, rfl⟩, by rwa [Identifier.next_code_quote hd]⟩
    rw [h]
    exact .inl (hcode.words_eq_nil hd)

lemma apart_before (d : Dialect) {ps : List Piece} {s : String} (h : ps = [] ∨ opensApart s = true) :
    Apart (fragments d ps).sql.toList s.toList := by
  rcases h with rfl | h
  · have hempty : (fragments d []).sql.toList = [] := rfl
    simp [hempty, Apart]
  · exact apart_of_opensApart _ h

lemma apart_after (d : Dialect) {qs : List Piece} {s : String} (h : qs = [] ∨ closesApart s = true) :
    Apart s.toList (fragments d qs).sql.toList := by
  rcases h with rfl | h
  · have hempty : (fragments d []).sql.toList = [] := rfl
    simp [hempty, Apart]
  · exact apart_of_closesApart h _

/-- The name of a function is one word other than `WITH`, and a text written elsewhere does not contain that word. -/
def WithFree (casing : Casing) : Piece → Prop
  | function name => (∀ c ∈ name.toList, isWordChar c = true) ∧ casing.isWith name.toList = false
  | raw f => ∀ x ∈ f.words, casing.isWith x.2 = false
  | _ => True

instance (casing : Casing) : DecidablePred (WithFree casing)
  | .function _ => inferInstanceAs (Decidable (_ ∧ _))
  | .raw f => inferInstanceAs (Decidable (∀ x ∈ f.words, casing.isWith x.2 = false))
  | .word _ | .identifier _ | .value _ => .isTrue trivial

end Piece

end SqlBuilder
