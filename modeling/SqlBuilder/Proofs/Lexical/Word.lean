import SqlBuilder.Proofs.Lexical.Depth

namespace SqlBuilder

def isWordChar (c : Char) : Bool :=
  c.isAlphanum || c = '_' || 127 < c.toNat

/-- No word goes on from the first text into the second. -/
def Apart (cs ds : List Char) : Prop :=
  ∀ c ∈ cs.getLast?, ∀ d ∈ ds.head?, isWordChar c = true → isWordChar d = false

lemma apart_cons {cs ds : List Char} {d : Char} (hd : isWordChar d = false) : Apart cs (d :: ds) := by
  intro c _ d' hd' _
  rwa [← Option.some.inj hd']

lemma Apart.append_right {cs ds : List Char} (h : Apart cs ds) (hd : ds ≠ []) (es : List Char) :
    Apart cs (ds ++ es) := by
  obtain ⟨d, ds, rfl⟩ := List.exists_cons_of_ne_nil hd
  exact h

namespace Mode

def finished (word : List Char) : List (ℤ × List Char) :=
  if word.isEmpty then [] else [(0, word)]

def raised (n : ℤ) (words : List (ℤ × List Char)) : List (ℤ × List Char) :=
  words.map fun x => (n + x.1, x.2)

/-- The words of the text with their depths, the first of them continuing the given word. -/
def words (m : Mode) (word : List Char) : List Char → List (ℤ × List Char)
  | [] => finished word
  | c :: cs =>
    if m.isCode && isWordChar c then (m.next c).words (word ++ [c]) cs
    else finished word ++ raised (m.shift c) ((m.next c).words [] cs)

variable {m : Mode} {word cs ds : List Char}

lemma raised_zero (words : List (ℤ × List Char)) : raised 0 words = words := by
  simp [raised]

lemma raised_append (n : ℤ) (words words' : List (ℤ × List Char)) :
    raised n (words ++ words') = raised n words ++ raised n words' :=
  List.map_append

lemma raised_raised (n k : ℤ) (words : List (ℤ × List Char)) :
    raised n (raised k words) = raised (n + k) words := by
  simp [raised, Int.add_assoc]

lemma isInert_of_isWordChar {c : Char} (hc : isWordChar c = true) : isInert c = true :=
  isInert_of_class rfl hc

lemma words_cons_of_isWordChar (hm : m.isCode = true) {c : Char} (hc : isWordChar c = true) :
    m.words word (c :: cs) = code.words (word ++ [c]) cs := by
  rw [words, hm, hc, next_of_isInert hm (isInert_of_isWordChar hc)]
  rfl

lemma words_cons_of_not_isWordChar {c : Char} (hc : (m.isCode && isWordChar c) = false) :
    m.words word (c :: cs) = finished word ++ raised (m.shift c) ((m.next c).words [] cs) := by
  rw [words, hc]
  rfl

lemma words_eq_finished_append (h : ∀ d ∈ ds.head?, isWordChar d = false) :
    m.words word ds = finished word ++ m.words [] ds := by
  cases ds with
  | nil => simp [words, finished]
  | cons d ds =>
    have hd : (m.isCode && isWordChar d) = false := by simp [h d rfl]
    rw [words_cons_of_not_isWordChar hd, words_cons_of_not_isWordChar hd]
    rfl

lemma words_append_of_apart (hword : ∀ c ∈ word, isWordChar c = true) (h : Apart (word ++ cs) ds) :
    m.words word (cs ++ ds) = m.words word cs ++ raised (m.depth cs) ((m.after cs).words [] ds) := by
  induction cs generalizing m word with
  | nil =>
    rw [List.nil_append, words, depth, raised_zero]
    cases hlast : word.getLast? with
    | none => simp [List.getLast?_eq_none_iff.mp hlast, finished]
    | some c =>
      have hc : isWordChar c = true := hword c (List.mem_of_getLast? hlast)
      apply words_eq_finished_append
      exact fun d hd => h c (by simpa using hlast) d hd hc
  | cons c cs ih =>
    by_cases hc : (m.isCode && isWordChar c) = true
    · obtain ⟨hm, hc⟩ := Bool.and_eq_true_iff.mp hc
      have hshift : m.shift c = 0 := m.shift_eq_zero (isParen_of_class rfl hc)
      have hnext : m.next c = code := next_of_isInert hm (isInert_of_isWordChar hc)
      have hword' : ∀ c' ∈ word ++ [c], isWordChar c' = true := by
        rw [List.forall_mem_append, List.forall_mem_singleton]
        exact ⟨hword, hc⟩
      rw [List.cons_append, words_cons_of_isWordChar hm hc, words_cons_of_isWordChar hm hc, depth, hshift, Int.zero_add,
        after_cons, hnext]
      exact ih hword' (by simpa using h)
    · -- the word ends at this character, so the rest starts without one and its end is unchanged
      have hc : (m.isCode && isWordChar c) = false := by simpa using hc
      have happart : Apart ([] ++ cs) ds := by
        intro a ha
        apply h a
        cases cs with
        | nil => simp at ha
        | cons c' cs => simpa using ha
      rw [List.cons_append, words_cons_of_not_isWordChar hc, words_cons_of_not_isWordChar hc, ih (by simp) happart,
        raised_append, raised_raised, depth, after_cons, List.append_assoc]

lemma words_append (h : Apart cs ds) :
    m.words [] (cs ++ ds) = m.words [] cs ++ raised (m.depth cs) ((m.after cs).words [] ds) :=
  words_append_of_apart (by simp) h

lemma words_of_forall_isWordChar (hm : m.isCode = true) (h : ∀ c ∈ cs, isWordChar c = true) :
    m.words word cs = finished (word ++ cs) := by
  induction cs generalizing m word with
  | nil => simp [words]
  | cons c cs ih =>
    rw [List.forall_mem_cons] at h
    rw [words_cons_of_isWordChar hm h.1, ih rfl h.2, List.append_assoc, List.singleton_append]

lemma words_of_isCode (hm : m.isCode = true) (h : ∀ c ∈ cs, isInert c = true) :
    m.words word cs = code.words word cs := by
  cases cs with
  | nil => rfl
  | cons c cs =>
    have hc : isInert c = true := h c (List.mem_cons_self ..)
    have hparen : isParen c = false := isParen_of_class rfl hc
    have hcode : code.isCode = true := rfl
    rw [words, words, hm, hcode, next_of_isInert hm hc, next_of_isInert hcode hc, m.shift_eq_zero hparen,
      code.shift_eq_zero hparen]

lemma words_open (hm : m.isCode = true) (ds : List Char) :
    m.words [] ("(".toList ++ ds) = raised 1 (code.words [] ds) := by
  have hword : isWordChar '(' = false := by decide
  simp [words, finished, hword, reads_open hm]

lemma words_close (hm : m.isCode = true) (ds : List Char) :
    m.words [] (")".toList ++ ds) = raised (-1) (code.words [] ds) := by
  have hword : isWordChar ')' = false := by decide
  simp [words, finished, hword, reads_close hm]

lemma mem_finished {x : ℤ × List Char} (hx : x ∈ finished word) : x = (0, word) := by
  rw [finished] at hx
  split at hx
  · simp at hx
  · exact List.mem_singleton.mp hx

lemma mem_of_mem_words {x : ℤ × List Char} (hx : x ∈ m.words word cs) : ∀ c ∈ x.2, c ∈ word ++ cs := by
  induction cs generalizing m word x with
  | nil =>
    rw [mem_finished hx]
    simp
  | cons c cs ih =>
    rw [words] at hx
    split at hx
    · simpa using ih hx
    · rcases List.mem_append.mp hx with hx | hx
      · rw [mem_finished hx]
        exact fun a ha => List.mem_append_left _ ha
      · obtain ⟨y, hy, rfl⟩ := List.mem_map.mp hx
        intro a ha
        have hrest : a ∈ cs := ih hy a ha
        simp [hrest]

lemma le_depth_of_mem_words {n : ℤ} (h : ∀ i ≤ cs.length, n ≤ m.depthAt cs i) {x : ℤ × List Char}
    (hx : x ∈ m.words word cs) : n ≤ x.1 := by
  have hstart : n ≤ 0 := h 0 (Nat.zero_le _)
  induction cs generalizing m word n x with
  | nil => rwa [mem_finished hx]
  | cons c cs ih =>
    have hrest : ∀ i ≤ cs.length, n - m.shift c ≤ (m.next c).depthAt cs i := by
      intro i hi
      have hdepth : m.depthAt (c :: cs) (i + 1) = m.shift c + (m.next c).depthAt cs i := rfl
      have hle := h (i + 1) (Nat.succ_le_succ hi)
      omega
    have hzero : n - m.shift c ≤ 0 := hrest 0 (Nat.zero_le _)
    by_cases hc : (m.isCode && isWordChar c) = true
    · have hshift : m.shift c = 0 := m.shift_eq_zero (isParen_of_class rfl (Bool.and_eq_true_iff.mp hc).2)
      rw [words, if_pos hc] at hx
      have hle := ih hrest hx hzero
      omega
    · rw [words, if_neg hc] at hx
      rcases List.mem_append.mp hx with hx | hx
      · rwa [mem_finished hx]
      · obtain ⟨y, hy, rfl⟩ := List.mem_map.mp hx
        have hle := ih hrest hy hzero
        change n ≤ m.shift c + y.1
        omega

end Mode

lemma Identifier.Reads.words_eq_nil {q : Char} (hq : Mode.isQuote q = true) {m : Mode} {cs : List Char}
    (h : Reads q m cs) : m.words [] cs = [] := by
  induction cs generalizing m with
  | nil => rfl
  | cons c cs ih =>
    obtain ⟨hc, hcs⟩ := h
    have hword : (m.isCode && isWordChar c) = false := by
      rcases hc with rfl | ⟨rfl, rfl⟩
      · rfl
      · rw [← Bool.not_eq_true, Bool.and_eq_true]
        rintro ⟨_, hw⟩
        rw [Mode.isQuote_of_isInert (Mode.isInert_of_isWordChar hw)] at hq
        cases hq
    rw [Mode.words_cons_of_not_isWordChar hword, ih hcs]
    rfl

namespace Fragment

def words (f : Fragment) : List (ℤ × List Char) :=
  Mode.code.words [] f.sql.toList

variable {f g inner : Fragment}

lemma words_join {s : String} (hs : isSeparator s = true) (hf : f.Balanced) (hfirst : f.SelfContained)
    (hbefore : Apart f.sql.toList s.toList) (hafter : Apart s.toList g.sql.toList) :
    (f ++ (ofText s ++ g)).words = f.words ++ ((ofText s).words ++ g.words) := by
  obtain ⟨hne, hinert⟩ := isSeparator_iff.mp hs
  have hdepth : (Mode.code.after f.sql.toList).depth s.toList = 0 := (Mode.balanced_word _ hs).2
  have hcode : (Mode.code.after f.sql.toList).after s.toList = .code := (Mode.separates_word hs _ hfirst.1).1
  simp only [words, sql_append, String.toList_append, ofText]
  rw [Mode.words_append (hbefore.append_right hne _), hf.2, Mode.raised_zero, Mode.words_append hafter, hdepth,
    Mode.raised_zero, hcode, Mode.words_of_isCode hfirst.1 hinert]

lemma words_group (hf : f.Balanced) (hfirst : f.SelfContained) (hi : inner.Balanced) (hinside : inner.SelfContained) :
    (f ++ (ofText "(" ++ (inner ++ (ofText ")" ++ g)))).words =
      f.words ++ (Mode.raised 1 inner.words ++ g.words) := by
  have happart : ∀ cs ds : List Char, Apart cs ("(".toList ++ ds) ∧ Apart cs (")".toList ++ ds) := fun cs ds =>
    ⟨apart_cons (by decide), apart_cons (by decide)⟩
  simp only [words, sql_append, String.toList_append, ofText]
  rw [Mode.words_append (happart _ _).1, hf.2, Mode.raised_zero, Mode.words_open hfirst.1,
    Mode.words_append (happart _ _).2, hi.2, Mode.raised_zero, Mode.words_close hinside.1, Mode.raised_append,
    Mode.raised_raised, Int.add_right_neg, Mode.raised_zero]

end Fragment

end SqlBuilder
