import SqlBuilder.Proofs.Identifier.Containment
import SqlBuilder.Proofs.Lexical.Aligned
import SqlBuilder.Proofs.Pieces.Phrase
import SqlBuilder.Proofs.Pieces.Written

/-!
Self-contained fragments: read from code they end in code and have one value for each marker. A written query is
self-contained when the pieces that come from outside are.
-/

namespace SqlBuilder

def Fragment.SelfContained (f : Fragment) : Prop :=
  (Mode.code.after f.sql.toList).isCode = true ∧ Mode.code.markers f.sql.toList = f.params.length

instance (f : Fragment) : Decidable f.SelfContained :=
  inferInstanceAs (Decidable (_ ∧ _))

/-- Letters and digits of any script, `_` and `.`; no character outside ASCII means anything to the scanner. -/
def isFunctionChar (c : Char) : Bool :=
  c.isAlphanum || c = '_' || c = '.' || 127 < c.toNat

/-- What is asked of a piece that the caller supplies. -/
def Piece.Tidy : Piece → Prop
  | function name => ∀ c ∈ name.toList, isFunctionChar c = true
  | identifier name => '\\' ∉ name.toList
  | raw f => f.SelfContained
  | word _ | value _ => True

instance : DecidablePred Piece.Tidy
  | .function name => inferInstanceAs (Decidable (∀ c ∈ name.toList, isFunctionChar c = true))
  | .identifier name => inferInstanceAs (Decidable ('\\' ∉ name.toList))
  | .raw f => inferInstanceAs (Decidable f.SelfContained)
  | .word _ | .value _ => .isTrue trivial

namespace Mode

/-- From anywhere in code, the text leads to plain code and has no markers. -/
def Separates (cs : List Char) : Prop :=
  ∀ m : Mode, m.isCode = true → m.after cs = code ∧ m.markers cs = 0

lemma separates_word {s : String} (hs : isSeparator s = true) : Separates s.toList := by
  intro m hm
  obtain ⟨hn, hi⟩ := isSeparator_iff.mp hs
  exact ⟨after_inert_of_isCode hi hm hn, markers_inert hi m⟩

lemma separates_singleton {c : Char} (hq : isQuote c = false) (hd : c ≠ '-') (hs : c ≠ '/') (ht : c ≠ '*')
    (hm : c ≠ '?') : Separates [c] := by
  intro m hc
  rw [after_cons, next_eq_code hc hq hd hs ht]
  exact ⟨rfl, by simp [markers, isMarker, hm]⟩

lemma separates_open : Separates "(".toList :=
  separates_singleton rfl (by decide) (by decide) (by decide) (by decide)

lemma separates_close : Separates ")".toList :=
  separates_singleton rfl (by decide) (by decide) (by decide) (by decide)

def Settled (cs : List Char) : Prop :=
  code.after cs = code ∧ code.markers cs = 0

instance (cs : List Char) : Decidable (Settled cs) :=
  inferInstanceAs (Decidable (_ ∧ _))

lemma Settled.append {cs ds : List Char} (hc : Settled cs) (hd : Settled ds) : Settled (cs ++ ds) := by
  refine ⟨?_, ?_⟩
  · rw [after_append, hc.1, hd.1]
  · rw [markers_append, hc.1, hc.2, hd.2]

lemma settled_inert {cs : List Char} (h : ∀ c ∈ cs, isInert c = true) : Settled cs :=
  ⟨after_inert h, markers_inert h code⟩

lemma settled_word {s : String} (hs : s.toList.all isInert = true) : Settled s.toList :=
  settled_inert (List.all_eq_true.mp hs)

lemma settled_int (i : ℤ) : Settled (toString i).toList := by
  rw [Int.toString_eq_repr, Int.repr_eq_if]
  split
  · rw [Nat.toList_repr]
    exact settled_inert (isInert_toDigits _)
  · -- the sign alone opens no comment, since a digit follows
    rw [String.toList_append, Nat.toList_repr]
    have hdigits := isInert_toDigits (-i).toNat
    have hsign : code.after "-".toList = dash ∧ code.markers "-".toList = 0 := by decide
    refine ⟨?_, ?_⟩
    · rw [after_append, hsign.1, after_inert_of_isCode hdigits rfl Nat.toDigits_ne_nil]
    · rw [markers_append, hsign.1, hsign.2, markers_inert hdigits]

lemma settled_bound (b : Bound) : Settled b.text.toList := by
  have hkind : Settled b.kind.sql.toList := settled_word (by cases b.kind <;> decide)
  have hspace : Settled " ".toList := settled_word rfl
  cases ho : b.offset with
  | none => simpa [Bound.text, ho] using hkind
  | some n => simpa [Bound.text, ho] using ((settled_int n.toInt).append hspace).append hkind

lemma settled_frame (f : Frame) : Settled f.text.toList := by
  have hunit : Settled f.unit.sql.toList := settled_word (by cases f.unit <;> decide)
  cases hs : f.stop with
  | none =>
    have hspace : Settled " ".toList := settled_word rfl
    simpa [Frame.text, hs] using (hunit.append hspace).append (settled_bound f.start)
  | some stop =>
    have hbetween : Settled " BETWEEN ".toList := settled_word rfl
    have hand : Settled " AND ".toList := settled_word rfl
    simpa [Frame.text, hs] using
      (((hunit.append hbetween).append (settled_bound f.start)).append hand).append (settled_bound stop)

end Mode

namespace Fragment

lemma selfContained_empty : empty.SelfContained := ⟨rfl, rfl⟩

lemma selfContained_value (v : Value) : SelfContained ⟨"?", [v]⟩ := by
  have hm : Mode.code.after "?".toList = .code ∧ Mode.code.markers "?".toList = 1 := by decide
  exact ⟨by rw [hm.1]; rfl, hm.2⟩

lemma selfContained_settled {s : String} (h : Mode.Settled s.toList) : (ofText s).SelfContained :=
  ⟨by rw [ofText, h.1]; rfl, h.2⟩

lemma SelfContained.join {f g : Fragment} {s : String} (hs : Mode.Separates s.toList) (hf : f.SelfContained)
    (hg : g.SelfContained) : (f ++ (ofText s ++ g)).SelfContained := by
  obtain ⟨hcode, hmarkers⟩ := hs _ hf.1
  constructor
  · simpa [ofText, Mode.after_append, hcode] using hg.1
  · simp [ofText, Mode.markers_append, hcode, hmarkers, hf.2, hg.2]

lemma SelfContained.aligned {f : Fragment} (hf : f.SelfContained) : f.Aligned :=
  ⟨Mode.close_eq_ok.mpr (.inl hf.1), hf.2⟩

lemma SelfContained.place_eq {f : Fragment} (hf : f.SelfContained) (style : PlaceholderStyle) :
    f.place style = .ok ⟨String.ofList (Mode.code.placeMarkers style 1 f.sql.toList), f.params⟩ :=
  place_eq_ok.mpr ⟨hf.aligned, rfl⟩

lemma SelfContained.checkAligned_eq {f : Fragment} (hf : f.SelfContained) : f.checkAligned = .ok () :=
  checkAligned_eq_ok.mpr hf.aligned

end Fragment

lemma Piece.fragments_join (d : Dialect) (ps qs : List Piece) (s : String) :
    fragments d (ps ++ .word s :: qs) = fragments d ps ++ (.ofText s ++ fragments d qs) := by
  rw [fragments_append, fragments]
  rfl

lemma Piece.fragments_group (d : Dialect) (ps inner qs : List Piece) :
    fragments d (ps ++ group inner ++ qs) =
      fragments d ps ++ (.ofText "(" ++ (fragments d inner ++ (.ofText ")" ++ fragments d qs))) := by
  rw [← fragments_join, ← fragments_join]
  simp [group]

lemma Dialect.identifier_eq_spelling {d : Dialect} (hd : Mode.isQuote d.quote = true) (name : String) :
    d.identifier name = .ok (d.spelling name) := by
  rcases d.identifier_eq hd name with ⟨_, h⟩ | h <;> rw [spelling, h]

lemma Piece.selfContained_identifier {d : Dialect} (hd : Mode.isQuote d.quote = true) {name : String}
    (hn : '\\' ∉ name.toList) : (fragment d (.identifier name)).SelfContained := by
  obtain ⟨t, ht, hc⟩ := d.identifier_contained hd hn
  have hs : d.spelling name = t := Except.ok.inj ((d.identifier_eq_spelling hd name).symm.trans ht)
  exact ⟨by simpa [fragment, text, hs] using hc.closed, by simpa [fragment, text, values, hs] using hc.no_markers⟩

def Piece.SelfContained (d : Dialect) : Piece → Prop
  | word _ | value _ => True
  | p => (p.fragment d).SelfContained

lemma Piece.Tidy.selfContained {d : Dialect} (hd : Mode.isQuote d.quote = true) {p : Piece} (h : p.Tidy) :
    p.SelfContained d := by
  cases p with
  | word s => trivial
  | function name =>
    refine Fragment.selfContained_settled (Mode.settled_inert fun c hc => ?_)
    exact Mode.isInert_of_class rfl (h c hc)
  | identifier name => exact selfContained_identifier hd h
  | value v => trivial
  | raw f => exact h

lemma Phrase.selfContained_of_pieces {d : Dialect} {ps : List Piece} (h : Phrase ps)
    (hp : ∀ p ∈ ps, p.SelfContained d) : (Piece.fragments d ps).SelfContained := by
  induction h with
  | nil => exact Fragment.selfContained_empty
  | star =>
    rw [Piece.fragments_singleton]
    exact Fragment.selfContained_settled (s := "*") (by decide)
  | frame f =>
    rw [Piece.fragments_singleton]
    exact Fragment.selfContained_settled (Mode.settled_frame f)
  | function name =>
    rw [Piece.fragments_singleton]
    exact hp (.function name) (by simp)
  | identifier name =>
    rw [Piece.fragments_singleton]
    exact hp (.identifier name) (by simp)
  | value v =>
    rw [Piece.fragments_singleton]
    exact Fragment.selfContained_value v
  | raw f =>
    rw [Piece.fragments_singleton]
    exact hp (.raw f) (by simp)
  | join hs _ _ ihp ihq =>
    rw [Piece.fragments_join]
    exact .join (Mode.separates_word hs) (ihp fun p h => hp p (by simp [h])) (ihq fun p h => hp p (by simp [h]))
  | group _ _ _ ihp ihi ihq =>
    rw [Piece.fragments_group]
    refine .join Mode.separates_open (ihp fun p h => hp p (by simp [h])) ?_
    exact .join Mode.separates_close (ihi fun p h => hp p (by simp [Piece.group, h]))
      (ihq fun p h => hp p (by simp [h]))

lemma Phrase.selfContained {d : Dialect} (hd : Mode.isQuote d.quote = true) {ps : List Piece} (h : Phrase ps)
    (ht : ∀ p ∈ ps, p.Tidy) : (Piece.fragments d ps).SelfContained :=
  h.selfContained_of_pieces fun p hp => (ht p hp).selfContained hd

end SqlBuilder
