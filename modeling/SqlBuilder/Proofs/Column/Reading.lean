import SqlBuilder.Proofs.Column.Path
import SqlBuilder.Proofs.Identifier.Doubling

/-!
The text of a column read back. A reader cuts it at the dots outside quotes and takes the quotes off each piece. It
finds the names of the column, so columns with different names have different texts.
-/

namespace SqlBuilder

namespace Text

def fieldsOf (q : Char) : Bool → List Char → List (List Char)
  | _, [] => [[]]
  | quoted, c :: cs =>
    if c = '.' ∧ quoted = false then [] :: fieldsOf q false cs
    else (fieldsOf q (if c = q then !quoted else quoted) cs).modifyHead (c :: ·)

/-- No cut goes through the piece, and what follows it stands outside quotes. -/
def Whole (q : Char) (piece : List Char) : Prop :=
  ∀ rest, fieldsOf q false (piece ++ rest) = (fieldsOf q false rest).modifyHead (piece ++ ·)

variable {q : Char}

lemma whole_of_not_mem {piece : List Char} (hdot : '.' ∉ piece) (hq : q ∉ piece) : Whole q piece := by
  intro rest
  induction piece with
  | nil => exact (congrFun List.modifyHead_id _).symm
  | cons c cs ih =>
    rw [List.mem_cons, not_or] at hdot hq
    simp [fieldsOf, Ne.symm hdot.1, Ne.symm hq.1, ih hdot.2 hq.2, Function.comp_def]

lemma fieldsOf_double (hq : q ≠ '.') (name rest : List Char) :
    fieldsOf q true (Identifier.double q name ++ rest) =
      (fieldsOf q true rest).modifyHead (Identifier.double q name ++ ·) := by
  induction name with
  | nil => exact (congrFun List.modifyHead_id _).symm
  | cons c cs ih =>
    rw [Identifier.double, List.flatMap_cons, ← Identifier.double, List.append_assoc]
    -- a doubled quote leaves the quotes and enters them again, with no dot in the middle
    by_cases hc : c = q
    · simp [fieldsOf, hc, hq, ih, Function.comp_def]
    · simp [fieldsOf, hc, ih, Function.comp_def]

lemma whole_enclosed (hq : q ≠ '.') (name : List Char) : Whole q (q :: Identifier.double q name ++ [q]) := by
  intro rest
  simp [fieldsOf, hq, fieldsOf_double hq, Function.comp_def]

lemma fieldsOf_intercalate : ∀ {pieces : List (List Char)}, pieces ≠ [] → (∀ p ∈ pieces, Whole q p) →
    fieldsOf q false (['.'].intercalate pieces) = pieces
  | [], hne, _ => absurd rfl hne
  | [p], _, h => by
    have hp := h p (by simp) []
    simpa [fieldsOf] using hp
  | p :: p' :: pieces, _, h => by
    have hp := h p (by simp) ('.' :: ['.'].intercalate (p' :: pieces))
    have ih := fieldsOf_intercalate (List.cons_ne_nil p' pieces) fun x hx => h x (List.mem_cons_of_mem p hx)
    rw [List.intercalate_cons_cons, List.append_assoc, List.singleton_append, hp]
    simp [fieldsOf, ih]

end Text

namespace Identifier

def undouble (q : Char) : List Char → List Char
  | c :: c' :: cs => if c = q ∧ c' = q then q :: undouble q cs else c :: undouble q (c' :: cs)
  | cs => cs

def unquote (q : Char) : List Char → List Char
  | c :: cs => if c = q then undouble q cs.dropLast else c :: cs
  | [] => []

variable {q : Char}

lemma undouble_cons {c : Char} (h : c ≠ q) (cs : List Char) : undouble q (c :: cs) = c :: undouble q cs := by
  cases cs with
  | nil => rfl
  | cons c' cs => simp [undouble, h]

lemma undouble_double (name : List Char) : undouble q (double q name) = name := by
  induction name with
  | nil => rfl
  | cons c cs ih =>
    rw [double, List.flatMap_cons, ← double]
    by_cases hc : c = q
    · simp [undouble, hc, ih]
    · simp [undouble_cons hc, hc, ih]

lemma unquote_enclosed (name : List Char) : unquote q (q :: double q name ++ [q]) = name := by
  simp [unquote, undouble_double]

lemma unquote_of_not_mem {piece : List Char} (h : q ∉ piece) : unquote q piece = piece := by
  cases piece with
  | nil => rfl
  | cons c cs => simp [unquote, List.ne_of_not_mem_cons h |>.symm]

structure Spells (q : Char) (text name : String) : Prop where
  whole : Text.Whole q text.toList
  unquoted : unquote q text.toList = name.toList

lemma spells_self {name : String} (hdot : '.' ∉ name.toList) (hq : q ∉ name.toList) : Spells q name name :=
  ⟨Text.whole_of_not_mem hdot hq, unquote_of_not_mem hq⟩

end Identifier

open Identifier

lemma Dialect.spells_spelling {d : Dialect} (hd : Mode.isQuote d.quote = true) {name : String}
    (hslash : '\\' ∉ name.toList) (hpair : ¬[d.quote, d.quote] <:+: name.toList) :
    Spells d.quote (d.spelling name) name := by
  have hspelling := d.identifier_eq_spelling hd name
  rcases d.identifier_eq hd name with ⟨hbare, h⟩ | h
  · rw [Except.ok.inj (hspelling.symm.trans h)]
    exact spells_self (not_mem_of_isBare hbare (by decide)) (quote_not_mem_of_isBare hd hbare)
  · have hdot : d.quote ≠ '.' := ne_of_isQuote hd rfl
    have hbody := enclose_eq_double_merge (ne_of_isQuote hd rfl) hslash
    rw [(merge_eq_toList_iff hslash).mpr hpair] at hbody
    rw [Except.ok.inj (hspelling.symm.trans h), hbody]
    constructor
    · rw [String.toList_ofList]
      exact Text.whole_enclosed hdot name.toList
    · rw [String.toList_ofList]
      exact unquote_enclosed name.toList

namespace Column

def read (q : Char) (text : String) : List String :=
  (Text.fieldsOf q false text.toList).map fun piece => String.ofList (unquote q piece)

def Readable (q : Char) (c : Column) : Prop :=
  ∀ name ∈ c.names, name ≠ "" ∧ '\\' ∉ name.toList ∧ ¬[q, q] <:+: name.toList

lemma read_intercalate {q : Char} {texts names : List String} (hne : texts ≠ [])
    (h : List.Forall₂ (Spells q) texts names) : read q (".".intercalate texts) = names := by
  obtain ⟨hwhole, hunquoted⟩ := (List.forall₂_and_left _ _).mp (h.imp fun _ _ hs => ⟨hs.whole, hs.unquoted⟩)
  have hnames : List.Forall₂ Eq (texts.map fun text => String.ofList (unquote q text.toList)) names :=
    List.forall₂_map_left_iff.mpr (hunquoted.imp fun _ _ hs => by rw [hs, String.ofList_toList])
  have hfields : Text.fieldsOf q false (".".intercalate texts).toList = texts.map String.toList := by
    rw [String.toList_intercalate]
    exact Text.fieldsOf_intercalate (by simpa using hne) (List.forall_mem_map.mpr hwhole)
  rw [read, hfields, List.map_map]
  exact List.forall₂_eq_eq_eq ▸ hnames

lemma spells_spellings {d : Dialect} (hd : Mode.isQuote d.quote = true) {c : Column} (h : c.Readable d.quote) :
    List.Forall₂ (Spells d.quote) (c.spellings d) c.names := by
  have hspelling : ∀ name ∈ c.names, Spells d.quote (d.spelling name) name := fun name hname =>
    d.spells_spelling hd (h name hname).2.1 (h name hname).2.2
  -- a bare `*` at the end is read as the name `*`, and so is the quoted one in the qualifier
  have hname : Spells d.quote (if c.name = "*" then "*" else d.spelling c.name) c.name := by
    split
    · next hstar =>
      have hne : d.quote ≠ '*' := ne_of_isQuote hd rfl
      rw [hstar]
      exact spells_self (by decide) (by simpa using hne)
    · exact hspelling c.name (by simp [names])
  refine List.rel_append (List.forall₂_map_left_iff.mpr (List.forall₂_same.mpr ?_)) (.cons hname .nil)
  exact fun name hmem => hspelling name (List.mem_append_left [c.name] hmem)

theorem read_compile {d : Dialect} (hd : d.quote ∈ ['"', '\'', '\x60']) {c : Column} (h : c.Readable d.quote) :
    ∃ f, (Expr.column c).compile d = .ok f ∧ f.params = [] ∧ read d.quote f.sql = c.names ∧
      ∀ c' : Column, c'.Readable d.quote → ∀ f', (Expr.column c').compile d = .ok f' → f'.sql = f.sql → c' = c := by
  have hq := isQuote_of_mem hd
  have hd' : d.quote ∈ ['"', '\'', '\x60', '['] := List.mem_append_left ['['] hd
  have hread : ∀ {c : Column}, c.Readable d.quote →
      (Expr.column c).compile d = .ok ⟨".".intercalate (c.spellings d), []⟩ ∧
        read d.quote (".".intercalate (c.spellings d)) = c.names := by
    intro c hc
    have hnames : "" ∉ c.names := fun hmem => (hc "" hmem).1 rfl
    exact ⟨compile_of_names hd' hnames, read_intercalate (by simp [spellings]) (spells_spellings hq hc)⟩
  refine ⟨_, (hread h).1, rfl, (hread h).2, ?_⟩
  intro c' hc' f' hf' hsql
  obtain rfl := Except.ok.inj ((hread hc').1.symm.trans hf')
  have hnames : c'.names = c.names := by
    rw [← (hread hc').2, ← (hread h).2]
    exact congrArg _ hsql
  exact names_injective hnames

theorem read_compile_dot_in_name :
    ∃ f, (Expr.column (.qualified "s.a\"b.*" "x.y")).compile .generic = .ok f ∧
      f.sql = "s.\"a\"\"b\".\"*\".\"x.y\"" ∧ read '"' f.sql = ["s", "a\"b", "*", "x.y"] ∧
      ∀ f', (Expr.column (.qualified "s.a\"b.*.x" "y")).compile .generic = .ok f' → f'.sql ≠ f.sql := by
  have hnames : (qualified "s.a\"b.*" "x.y").names = ["s", "a\"b", "*", "x.y"] := by decide
  have hnames' : (qualified "s.a\"b.*.x" "y").names = ["s", "a\"b", "*", "x", "y"] := by decide
  have hreadable : (qualified "s.a\"b.*" "x.y").Readable '"' := by
    rw [Readable, hnames]
    decide
  have hreadable' : (qualified "s.a\"b.*.x" "y").Readable '"' := by
    rw [Readable, hnames']
    decide
  have hsql : (Expr.column (.qualified "s.a\"b.*" "x.y")).compile .generic =
      .ok ⟨"s.\"a\"\"b\".\"*\".\"x.y\"", []⟩ := rfl
  obtain ⟨_, hcompile, -, hread, hunique⟩ := read_compile (d := .generic) (by decide) hreadable
  obtain rfl := Except.ok.inj (hcompile.symm.trans hsql)
  refine ⟨_, hcompile, rfl, hread.trans hnames, fun f' hf' heq => ?_⟩
  exact absurd (hunique _ hreadable' f' hf' heq) (by decide)

end Column

end SqlBuilder
