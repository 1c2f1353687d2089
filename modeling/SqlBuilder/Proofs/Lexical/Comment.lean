import SqlBuilder.Proofs.Lexical.Keyword

namespace SqlBuilder

namespace Mode

def isComment : Mode → Bool
  | lineComment | blockComment | star => true
  | _ => false

def Uncommented (m : Mode) (cs : List Char) : Prop :=
  ∀ before, before <+: cs → (m.after before).isComment = false

variable {m : Mode} {cs ds : List Char}

lemma isComment_of_isCode (hm : m.isCode = true) : m.isComment = false := by
  cases m <;> simp_all [isCode, isComment]

lemma uncommented_nil (hm : m.isComment = false) : m.Uncommented [] := by
  intro before hbefore
  rwa [List.prefix_nil.mp hbefore]

lemma Uncommented.cons {c : Char} (hm : m.isComment = false) (h : (m.next c).Uncommented cs) :
    m.Uncommented (c :: cs) := by
  intro before hbefore
  rcases List.prefix_cons_iff.mp hbefore with rfl | ⟨rest, rfl, hrest⟩
  · exact hm
  · exact h rest hrest

lemma Uncommented.append (hc : m.Uncommented cs) (hd : (m.after cs).Uncommented ds) : m.Uncommented (cs ++ ds) := by
  intro before hbefore
  rcases List.prefix_or_prefix_of_prefix hbefore (List.prefix_append cs ds) with h | ⟨rest, rfl⟩
  · exact hc before h
  · rw [after_append]
    exact hd rest ((List.prefix_append_right_inj cs).mp hbefore)

lemma uncommented_inert (hm : m.isCode = true) (h : ∀ c ∈ cs, isInert c = true) : m.Uncommented cs := by
  induction cs generalizing m with
  | nil => exact uncommented_nil (isComment_of_isCode hm)
  | cons c cs ih =>
    rw [List.forall_mem_cons] at h
    refine .cons (isComment_of_isCode hm) (ih ?_ h.2)
    rw [next_of_isInert hm h.1]
    rfl

lemma uncommented_word (hm : m.isCode = true) {s : String} (hs : isSeparator s = true) : m.Uncommented s.toList :=
  uncommented_inert hm (isSeparator_iff.mp hs).2

lemma uncommented_singleton (hm : m.isCode = true) {c : Char} (hc : (m.next c).isCode = true) : m.Uncommented [c] :=
  .cons (isComment_of_isCode hm) (uncommented_nil (isComment_of_isCode hc))

lemma uncommented_parens (hm : m.isCode = true) (hc : code.Uncommented cs) (hin : (code.after cs).isCode = true)
    (hd : code.Uncommented ds) : m.Uncommented ("(".toList ++ (cs ++ (")".toList ++ ds))) := by
  change m.Uncommented ('(' :: (cs ++ ')' :: ds))
  refine .cons (isComment_of_isCode hm) ?_
  rw [(reads_open hm).1]
  refine hc.append (.cons (isComment_of_isCode hin) ?_)
  rwa [(reads_close hin).1]

lemma after_lineComment (h : '\n' ∉ cs) : lineComment.after cs = lineComment := by
  induction cs with
  | nil => rfl
  | cons c cs ih =>
    rw [List.mem_cons, not_or] at h
    rw [after_cons, next, if_neg (Ne.symm h.1), ih h.2]

lemma uncommented_of_line (hm : m = code ∨ m = dash) (hquote : ∀ c ∈ cs, isQuote c = false) (hslash : '/' ∉ cs)
    (hline : '\n' ∉ cs) (hend : (m.after cs).isCode = true) : m.Uncommented cs := by
  induction cs generalizing m with
  | nil => exact uncommented_nil (isComment_of_isCode hend)
  | cons c cs ih =>
    rw [List.forall_mem_cons] at hquote
    rw [List.mem_cons, not_or] at hslash hline
    have hcode : ofCode c = code ∨ ofCode c = dash := by
      rw [ofCode, hquote.1]
      by_cases hc : c = '-' <;> simp [hc, Ne.symm hslash.1]
    have hnext : m.next c = code ∨ m.next c = dash := by
      rcases hm with rfl | rfl
      · exact hcode
      · by_cases hc : c = '-'
        · -- a comment opened by dashes would last to the end of the line, which is in code
          have hcomment : dash.next c = lineComment := by simp [next, hc]
          rw [after_cons, hcomment, after_lineComment hline.2] at hend
          cases hend
        · simpa [next, hc] using hcode
    have hcomment : m.isComment = false := by
      rcases hm with rfl | rfl <;> rfl
    exact .cons hcomment (ih hnext hquote.2 hslash.2 hline.2 hend)

end Mode

lemma Identifier.Reads.uncommented {q : Char} {m : Mode} {cs : List Char} (h : Reads q m cs) : m.Uncommented cs := by
  induction cs generalizing m with
  | nil => exact Mode.uncommented_nil (Mode.isComment_of_isCode h)
  | cons c cs ih =>
    obtain ⟨hm, hcs⟩ := h
    refine .cons ?_ (ih hcs)
    rcases hm with rfl | ⟨rfl, _⟩ <;> rfl

lemma Frame.uncommented_text (f : Frame) : Mode.code.Uncommented f.text.toList := by
  have hchars := f.isFrameChar_text
  apply Mode.uncommented_of_line (.inl rfl)
  · intro c hc
    have hframe := hchars c hc
    rw [← Bool.not_eq_true]
    intro hquote
    simp only [Mode.isQuote, Bool.or_eq_true, decide_eq_true_eq] at hquote
    rcases hquote with (rfl | rfl) | rfl <;> exact absurd hframe (by decide)
  · exact fun h => absurd (hchars _ h) (by decide)
  · exact fun h => absurd (hchars _ h) (by decide)
  · rw [(Mode.settled_frame f).1]
    rfl

/-- No text written elsewhere, no backslash in a name, and functions named by a single word. -/
def Piece.Plain : Piece → Prop
  | function name => ∀ c ∈ name.toList, isWordChar c = true
  | identifier name => '\\' ∉ name.toList
  | raw _ => False
  | word _ | value _ => True

lemma Piece.Plain.tidy {p : Piece} (h : p.Plain) : p.Tidy ∧ p.Balanced := by
  cases p with
  | function name =>
    refine ⟨fun c hc => ?_, trivial⟩
    have hword := h c hc
    simp only [isWordChar, Bool.or_eq_true] at hword
    simp only [isFunctionChar, Bool.or_eq_true]
    exact hword.imp_left .inl
  | identifier name => exact ⟨h, trivial⟩
  | raw f => cases h
  | word s => exact ⟨trivial, trivial⟩
  | value v => exact ⟨trivial, trivial⟩

lemma Piece.uncommented_identifier {d : Dialect} (hd : Mode.isQuote d.quote = true) {name : String}
    (hn : '\\' ∉ name.toList) : Mode.code.Uncommented (d.spelling name).toList := by
  rcases d.spelling_eq hd hn with ⟨hbare, h⟩ | ⟨cs, h, hreads⟩
  · have hplain := Identifier.isBareRest_of_isPlain (Bool.and_eq_true_iff.mp hbare).1
    rw [h]
    apply Mode.uncommented_inert rfl
    exact fun c hc => Mode.isInert_of_isWordChar (Identifier.isWordChar_of_isBareRest (hplain c hc))
  · rw [h]
    refine .cons rfl ?_
    rw [Identifier.next_code_quote hd]
    exact hreads.uncommented

lemma Phrase.uncommented {d : Dialect} (hd : Mode.isQuote d.quote = true) {ps : List Piece} (h : Phrase ps)
    (hp : ∀ p ∈ ps, p.Plain) : Mode.code.Uncommented (Piece.fragments d ps).sql.toList := by
  induction h with
  | nil => exact Mode.uncommented_nil rfl
  | star =>
    have hstar : Mode.code.Uncommented "*".toList := Mode.uncommented_singleton rfl rfl
    rwa [Piece.fragments_singleton]
  | frame f =>
    rw [Piece.fragments_singleton]
    exact f.uncommented_text
  | function name =>
    rw [Piece.fragments_singleton]
    have hname : ∀ c ∈ name.toList, isWordChar c = true := hp (.function name) (by simp)
    exact Mode.uncommented_inert rfl fun c hc => Mode.isInert_of_isWordChar (hname c hc)
  | identifier name =>
    rw [Piece.fragments_singleton]
    exact Piece.uncommented_identifier hd (hp (.identifier name) (by simp))
  | value v =>
    have hmarker : Mode.code.Uncommented "?".toList := Mode.uncommented_singleton rfl rfl
    rwa [Piece.fragments_singleton]
  | raw f => exact (hp (.raw f) (by simp)).elim
  | join hs hps _ ihp ihq =>
    have hfirst := hps.selfContained hd fun p h => (hp p (by simp [h])).tidy.1
    rw [Piece.fragments_join]
    simp only [Fragment.sql_append, String.toList_append, Fragment.ofText]
    refine .append (ihp fun p h => hp p (by simp [h])) (.append (Mode.uncommented_word hfirst.1 hs) ?_)
    rw [(Mode.separates_word hs _ hfirst.1).1]
    exact ihq fun p h => hp p (by simp [h])
  | group hps hinner _ ihp ihi ihq =>
    have hfirst := hps.selfContained hd fun p h => (hp p (by simp [h])).tidy.1
    have hinside := hinner.selfContained hd fun p h => (hp p (by simp [Piece.group, h])).tidy.1
    rw [Piece.fragments_group]
    simp only [Fragment.sql_append, String.toList_append, Fragment.ofText]
    refine .append (ihp fun p h => hp p (by simp [h])) ?_
    exact Mode.uncommented_parens hfirst.1 (ihi fun p h => hp p (by simp [Piece.group, h])) hinside.1
      (ihq fun p h => hp p (by simp [h]))

end SqlBuilder
