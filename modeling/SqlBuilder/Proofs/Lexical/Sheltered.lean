import SqlBuilder.Proofs.Lexical.Comment
import SqlBuilder.Proofs.Pieces.Spaced

namespace SqlBuilder

def isOr (word : List Char) : Bool :=
  word.map Char.toUpper = "OR".toList

namespace Fragment

def Sheltered (f : Fragment) : Prop :=
  ∀ x ∈ f.words, isOr x.2 = true → 1 ≤ x.1

instance (f : Fragment) : Decidable f.Sheltered :=
  inferInstanceAs (Decidable (∀ x ∈ f.words, isOr x.2 = true → 1 ≤ x.1))

variable {f g inner : Fragment}

lemma sheltered_of_words_eq_nil (h : f.words = []) : f.Sheltered := by
  intro x hx
  rw [h] at hx
  cases hx

lemma sheltered_of_words_eq_finished {word : List Char} (h : f.words = Mode.finished word) (hword : isOr word = false) :
    f.Sheltered := by
  intro x hx hor
  rw [h] at hx
  rw [Mode.mem_finished hx, hword] at hor
  cases hor

lemma Sheltered.join {s : String} (hs : isSeparator s = true) (hword : (ofText s).Sheltered) (hbalanced : f.Balanced)
    (hfirst : f.SelfContained) (hbefore : Apart f.sql.toList s.toList) (hafter : Apart s.toList g.sql.toList)
    (hf : f.Sheltered) (hg : g.Sheltered) : (f ++ (ofText s ++ g)).Sheltered := by
  rw [Sheltered, words_join hs hbalanced hfirst hbefore hafter, List.forall_mem_append, List.forall_mem_append]
  exact ⟨hf, hword, hg⟩

lemma Sheltered.group (hbalanced : f.Balanced) (hfirst : f.SelfContained) (hi : inner.Balanced)
    (hinside : inner.SelfContained) (hf : f.Sheltered) (hg : g.Sheltered) :
    (f ++ (ofText "(" ++ (inner ++ (ofText ")" ++ g)))).Sheltered := by
  rw [Sheltered, words_group hbalanced hfirst hi hinside, List.forall_mem_append, List.forall_mem_append]
  refine ⟨hf, fun x hx _ => ?_, hg⟩
  obtain ⟨y, hy, rfl⟩ := List.mem_map.mp hx
  have hdepth : 0 ≤ y.1 := Mode.le_depth_of_mem_words hi.1 hy
  change 1 ≤ 1 + y.1
  omega

end Fragment

lemma isOr_of_isBare {name : String} (h : Identifier.isBare name = true) : isOr name.toList = false := by
  rw [isOr, decide_eq_false_iff_not]
  intro hupper
  have hlower : name.toList = "or".toList := Identifier.toList_eq_of_map_toUpper h hupper
  obtain rfl : name = "or" := String.toList_inj.mp hlower
  exact absurd h (by decide)

/-- Plain pieces with the keyword in parentheses only, whatever the dialect spells names like. -/
structure Guarded (d : Dialect) (ps : List Piece) : Prop where
  phrase : Phrase ps
  plain : ∀ p ∈ ps, p.Plain
  sheltered : (Piece.fragments d ps).Sheltered

def isGuardedWording (ss : List String) : Bool :=
  !ss.isEmpty && ss.all isSeparator && decide (Fragment.ofText (String.join ss)).Sheltered

lemma isGuardedWording_iff {ss : List String} :
    isGuardedWording ss = true ↔
      ss ≠ [] ∧ (∀ s ∈ ss, isSeparator s = true) ∧ (Fragment.ofText (String.join ss)).Sheltered := by
  simp [isGuardedWording, and_assoc]

namespace Guarded

variable {d : Dialect} {ps qs inner : List Piece}

lemma nil : Guarded d [] :=
  ⟨.nil, by simp, Fragment.sheltered_of_words_eq_nil rfl⟩

lemma star : Guarded d [.word "*"] := by
  refine ⟨.star, by simp [Piece.Plain], ?_⟩
  have hstar : (Fragment.ofText "*").Sheltered := by decide
  rwa [Piece.fragments_singleton]

lemma value (v : Value) : Guarded d [.value v] := by
  refine ⟨.value v, by simp [Piece.Plain], ?_⟩
  have hwords : Mode.code.words [] "?".toList = [] := by decide
  rw [Piece.fragments_singleton]
  exact Fragment.sheltered_of_words_eq_nil hwords

lemma function {name : String} (h : ∀ c ∈ name.toList, isWordChar c = true) (hor : isOr name.toList = false) :
    Guarded d [.function name] := by
  refine ⟨.function name, by simpa [Piece.Plain] using h, ?_⟩
  rw [Piece.fragments_singleton]
  exact Fragment.sheltered_of_words_eq_finished (Mode.words_of_forall_isWordChar rfl h) hor

section Contained

variable (hd : Mode.isQuote d.quote = true)

include hd

lemma identifier {name : String} (h : '\\' ∉ name.toList) : Guarded d [.identifier name] := by
  refine ⟨.identifier name, by simpa [Piece.Plain] using h, ?_⟩
  rw [Piece.fragments_singleton]
  rcases Piece.words_identifier hd h with hwords | ⟨hbare, hwords⟩
  · exact Fragment.sheltered_of_words_eq_nil hwords
  · exact Fragment.sheltered_of_words_eq_finished hwords (isOr_of_isBare hbare)

lemma selfContained (h : Guarded d ps) : (Piece.fragments d ps).SelfContained :=
  h.phrase.selfContained hd fun p hp => (h.plain p hp).tidy.1

lemma balanced (h : Guarded d ps) : (Piece.fragments d ps).Balanced :=
  h.phrase.balanced hd fun p hp => (h.plain p hp).tidy

lemma join {ss : List String} (hss : isGuardedWording ss = true) (hopen : ps = [] ∨ opensApart (String.join ss) = true)
    (hclose : qs = [] ∨ closesApart (String.join ss) = true) (hps : Guarded d ps) (hqs : Guarded d qs) :
    Guarded d (ps ++ (ss.map .word ++ qs)) := by
  obtain ⟨hne, hseparators, hwords⟩ := isGuardedWording_iff.mp hss
  constructor
  · exact .between hne hseparators hps.phrase hqs.phrase
  · rw [List.forall_mem_append, List.forall_mem_append, List.forall_mem_map]
    exact ⟨hps.plain, fun _ _ => trivial, hqs.plain⟩
  · rw [Piece.fragments_append, Piece.fragments_append, Piece.fragments_words]
    exact .join (isSeparator_join hne hseparators) hwords (hps.balanced hd) (hps.selfContained hd)
      (Piece.apart_before d hopen) (Piece.apart_after d hclose) hps.sheltered hqs.sheltered

lemma between (ss : List String)
    (hss : (isGuardedWording ss && opensApart (String.join ss) && closesApart (String.join ss)) = true)
    (hps : Guarded d ps) (hqs : Guarded d qs) : Guarded d (ps ++ (ss.map .word ++ qs)) := by
  simp only [Bool.and_eq_true] at hss
  exact join hd hss.1.1 (.inr hss.1.2) (.inr hss.2) hps hqs

lemma lead {s : String} (hs : (isGuardedWording [s] && closesApart s) = true) (h : Guarded d ps) :
    Guarded d (.word s :: ps) := by
  have hjoin : String.join [s] = s := by simp
  rw [Bool.and_eq_true] at hs
  exact join hd hs.1 (.inl rfl) (.inr (hjoin ▸ hs.2)) nil h

lemma trail {s : String} (hs : (isGuardedWording [s] && opensApart s) = true) (h : Guarded d ps) :
    Guarded d (ps ++ [.word s]) := by
  have hjoin : String.join [s] = s := by simp
  rw [Bool.and_eq_true] at hs
  exact join hd hs.1 (.inr (hjoin ▸ hs.2)) (.inl rfl) h nil

lemma word {s : String} (hs : isGuardedWording [s] = true) : Guarded d [.word s] :=
  join hd hs (.inl rfl) (.inl rfl) nil nil

lemma group (hps : Guarded d ps) (hinner : Phrase inner) (hplain : ∀ p ∈ inner, p.Plain) (hqs : Guarded d qs) :
    Guarded d (ps ++ Piece.group inner ++ qs) := by
  constructor
  · exact .group hps.phrase hinner hqs.phrase
  · rw [List.forall_mem_append, List.forall_mem_append, Piece.group, List.forall_mem_append, List.forall_mem_cons,
      List.forall_mem_singleton]
    exact ⟨⟨hps.plain, ⟨trivial, hplain⟩, trivial⟩, hqs.plain⟩
  · rw [Piece.fragments_group]
    have hinside := hinner.selfContained hd fun p hp => (hplain p hp).tidy.1
    have hbalanced := hinner.balanced hd fun p hp => (hplain p hp).tidy
    exact .group (hps.balanced hd) (hps.selfContained hd) hbalanced hinside hps.sheltered hqs.sheltered

lemma call (hps : Guarded d ps) (hinner : Phrase inner) (hplain : ∀ p ∈ inner, p.Plain) :
    Guarded d (ps ++ Piece.group inner) := by
  simpa using group hd hps hinner hplain nil

lemma parens (hinner : Phrase inner) (hplain : ∀ p ∈ inner, p.Plain) : Guarded d (Piece.group inner) :=
  call hd nil hinner hplain

lemma joined {s : String} (hs : (isGuardedWording [s] && opensApart s && closesApart s) = true)
    {items : List (List Piece)} (h : ∀ ps ∈ items, Guarded d ps) : Guarded d (Piece.joined s items) := by
  have hjoin : String.join [s] = s := by simp
  exact Piece.joined_rec nil (fun _ _ => between hd [s] (hjoin.symm ▸ hs)) h

end Contained

end Guarded

end SqlBuilder
