import Mathlib
import SqlBuilder.Frame
import SqlBuilder.Proofs.Outcome

/-!
The text of a frame read back. The text is a row of words with one blank between each two, and a reader that goes
through the words in the order in which they are written finds the frame again.

The whole library is imported for `Int.toInt?_repr`, a number read back from its digits, which none of its single files
reaches.
-/

namespace SqlBuilder

namespace Text

lemma not_mem_toString (i : ℤ) {c : Char} (hdigit : c.isDigit = false) (hsign : c ≠ '-') : c ∉ (toString i).toList := by
  have hdigits : ∀ n : ℕ, c ∉ Nat.toDigits 10 n := fun n hc => by
    rw [Nat.isDigit_of_mem_toDigits (by decide) (by decide) hc] at hdigit
    cases hdigit
  rw [Int.toString_eq_repr, Int.repr_eq_if]
  split
  · rw [Nat.toList_repr]
    exact hdigits _
  · rw [String.toList_append, Nat.toList_repr, List.mem_append]
    rintro (hc | hc)
    · exact hsign (by simpa using hc)
    · exact hdigits _ hc

def occurrences (word t : String) : ℕ :=
  t.toList.tails.countP (word.toList.isPrefixOf ·)

lemma prefix_append_cons {w : List Char} {c : Char} (hc : c ∉ w) (xs ys : List Char) :
    w <+: xs ++ c :: ys ↔ w <+: xs := by
  constructor
  · intro h
    rcases Nat.lt_or_ge xs.length w.length with hlen | hlen
    · have hprefix : xs ++ [c] <+: xs ++ c :: ys := ⟨ys, by simp⟩
      have hmem : c ∈ w := (List.prefix_of_prefix_length_le hprefix h (by simpa using hlen)).subset (by simp)
      exact (hc hmem).elim
    · exact List.prefix_of_prefix_length_le h (List.prefix_append xs _) hlen
  · exact fun h => h.trans (List.prefix_append xs _)

/-- A word without blanks stands on the one side of a blank or on the other, and not across it. -/
lemma countP_tails_append_cons {w : List Char} {c : Char} (hc : c ∉ w) (hw : w ≠ []) (xs ys : List Char) :
    (xs ++ c :: ys).tails.countP (w.isPrefixOf ·) =
      xs.tails.countP (w.isPrefixOf ·) + ys.tails.countP (w.isPrefixOf ·) := by
  induction xs with
  | nil =>
    have hnil : ¬ w <+: c :: ys := fun h => hw (List.prefix_nil.mp ((prefix_append_cons hc [] ys).mp h))
    have hempty : ¬ w <+: [] := fun h => hw (List.prefix_nil.mp h)
    simp [hnil, hempty]
  | cons x xs ih =>
    have hx : w <+: x :: (xs ++ c :: ys) ↔ w <+: x :: xs := prefix_append_cons hc (x :: xs) ys
    simp only [List.cons_append, List.tails_cons, List.countP_cons, List.isPrefixOf_iff_prefix, hx, ih]
    omega

lemma occurrences_intercalate {word : String} (hblank : ' ' ∉ word.toList) (hne : word ≠ "") :
    ∀ ws : List String, occurrences word (" ".intercalate ws) = (ws.map (occurrences word)).sum
  | [] => by simp [occurrences, hne]
  | [w] => by simp
  | w :: w' :: ws => by
    have ih := occurrences_intercalate hblank hne (w' :: ws)
    have hw : word.toList ≠ [] := by simpa using hne
    rw [String.intercalate_cons_of_ne_nil (List.cons_ne_nil _ _), List.map_cons, List.sum_cons, ← ih]
    simpa [occurrences] using countP_tails_append_cons hblank hw w.toList (" ".intercalate (w' :: ws)).toList

lemma occurrences_eq_zero {word t : String} {c : Char} (hc : c ∈ word.toList) (ht : c ∉ t.toList) :
    occurrences word t = 0 := by
  rw [occurrences, List.countP_eq_zero]
  intro tail htail hprefix
  have hsub : c ∈ tail := (List.isPrefixOf_iff_prefix.mp hprefix).subset hc
  exact ht (((List.mem_tails _ _).mp htail).subset hsub)

end Text

namespace BoundKind

def words : BoundKind → List String
  | unboundedPreceding => ["UNBOUNDED", "PRECEDING"]
  | preceding => ["PRECEDING"]
  | currentRow => ["CURRENT", "ROW"]
  | following => ["FOLLOWING"]
  | unboundedFollowing => ["UNBOUNDED", "FOLLOWING"]

def read : List String → Option (BoundKind × List String)
  | "UNBOUNDED" :: "PRECEDING" :: rest => some (unboundedPreceding, rest)
  | "PRECEDING" :: rest => some (preceding, rest)
  | "CURRENT" :: "ROW" :: rest => some (currentRow, rest)
  | "FOLLOWING" :: rest => some (following, rest)
  | "UNBOUNDED" :: "FOLLOWING" :: rest => some (unboundedFollowing, rest)
  | _ => none

lemma sql_eq (kind : BoundKind) : kind.sql = " ".intercalate kind.words := by
  cases kind <;> rfl

lemma read_words (kind : BoundKind) (rest : List String) : read (kind.words ++ rest) = some (kind, rest) := by
  cases kind <;> rfl

lemma words_ne_nil (kind : BoundKind) : kind.words ≠ [] := by
  cases kind <;> simp [words]

lemma toInt?_of_head (kind : BoundKind) {word : String} (h : word ∈ kind.words.head?) : word.toInt? = none := by
  cases kind <;> simp [words] at h <;> subst h <;> cbv

end BoundKind

def FrameUnit.read : String → Option FrameUnit
  | "ROWS" => some .rows
  | "RANGE" => some .range
  | "GROUPS" => some .groups
  | _ => none

lemma FrameUnit.read_sql (unit : FrameUnit) : read unit.sql = some unit := by
  cases unit <;> rfl

namespace Bound

def words (b : Bound) : List String :=
  b.offset.toList.map (fun n => toString n.toInt) ++ b.kind.words

def readOffset : List String → Option Int64 × List String
  | [] => (none, [])
  | word :: rest => word.toInt?.elim (none, word :: rest) fun i => (some (Int64.ofInt i), rest)

def read (ws : List String) : Option (Bound × List String) :=
  let (offset, rest) := readOffset ws
  (BoundKind.read rest).map fun (kind, rest) => (⟨kind, offset⟩, rest)

lemma forall_mem_words {P : String → Prop} (hkind : ∀ kind : BoundKind, ∀ w ∈ kind.words, P w)
    (hnumber : ∀ i : ℤ, P (toString i)) (b : Bound) : ∀ w ∈ b.words, P w := by
  simp only [words, List.forall_mem_append, List.forall_mem_map]
  exact ⟨fun n _ => hnumber n.toInt, hkind b.kind⟩

lemma words_ne_nil (b : Bound) : b.words ≠ [] := by
  simp [words, b.kind.words_ne_nil]

lemma text_eq (b : Bound) : b.text = " ".intercalate b.words := by
  cases ho : b.offset with
  | none => simp [text, words, ho, BoundKind.sql_eq]
  | some n =>
    simp [text, words, ho, BoundKind.sql_eq, String.intercalate_cons_of_ne_nil b.kind.words_ne_nil]

lemma readOffset_words (b : Bound) (rest : List String) :
    readOffset (b.words ++ rest) = (b.offset, b.kind.words ++ rest) := by
  cases ho : b.offset with
  | none =>
    obtain ⟨word, ws, hw⟩ := List.exists_cons_of_ne_nil b.kind.words_ne_nil
    have hword : word.toInt? = none := b.kind.toInt?_of_head (by simp [hw])
    simp [words, ho, hw, readOffset, hword]
  | some n =>
    simp [words, ho, readOffset, Int.toInt?_repr]

lemma read_words (b : Bound) (rest : List String) : read (b.words ++ rest) = some (b, rest) := by
  simp [read, readOffset_words, BoundKind.read_words]

lemma read_between (ws : List String) : read ("BETWEEN" :: ws) = none := by
  have hword : "BETWEEN".toInt? = none := by cbv
  simp [read, readOffset, hword, BoundKind.read]

end Bound

namespace Frame

def words (f : Frame) : List String :=
  f.unit.sql :: f.stop.elim f.start.words fun stop => "BETWEEN" :: (f.start.words ++ "AND" :: stop.words)

def readBounds : List String → Option (Bound × Option Bound)
  | "BETWEEN" :: ws =>
    match Bound.read ws with
    | some (start, "AND" :: rest) =>
      match Bound.read rest with
      | some (stop, []) => some (start, some stop)
      | _ => none
    | _ => none
  | ws =>
    match Bound.read ws with
    | some (start, []) => some (start, none)
    | _ => none

def readWords : List String → Option Frame
  | [] => none
  | unit :: ws => do
    let unit ← FrameUnit.read unit
    let (start, stop) ← readBounds ws
    return ⟨unit, start, stop⟩

def read (t : String) : Option Frame :=
  readWords ((t.toList.splitOn ' ').map String.ofList)

lemma readBounds_start (start : Bound) : readBounds start.words = some (start, none) := by
  have hstart := start.read_words []
  rw [List.append_nil] at hstart
  rw [readBounds.eq_def]
  split
  · rename_i ws hws
    rw [hws, Bound.read_between] at hstart
    cases hstart
  · rw [hstart]

lemma readBounds_between (start stop : Bound) :
    readBounds ("BETWEEN" :: (start.words ++ "AND" :: stop.words)) = some (start, some stop) := by
  have hstop := stop.read_words []
  rw [List.append_nil] at hstop
  rw [readBounds, start.read_words]
  simp only [hstop]

lemma text_eq (f : Frame) : f.text = " ".intercalate f.words := by
  cases hs : f.stop with
  | none => simp [text, words, hs, Bound.text_eq, String.intercalate_cons_of_ne_nil f.start.words_ne_nil]
  | some stop =>
    have hbetween : " BETWEEN " = " " ++ ("BETWEEN" ++ " ") := rfl
    have hand : " AND " = " " ++ ("AND" ++ " ") := rfl
    simp only [text, words, hs, Option.elim_some, Bound.text_eq, hbetween, hand, String.append_assoc,
      String.intercalate_append_of_ne_nil f.start.words_ne_nil (List.cons_ne_nil _ _),
      String.intercalate_cons_of_ne_nil stop.words_ne_nil, String.intercalate_cons_of_ne_nil (List.cons_ne_nil _ _),
      String.intercalate_cons_of_ne_nil (List.append_ne_nil_of_left_ne_nil f.start.words_ne_nil _)]

lemma readWords_words (f : Frame) : readWords f.words = some f := by
  obtain ⟨unit, start, stop⟩ := f
  cases stop with
  | none => simp [readWords, words, FrameUnit.read_sql, readBounds_start]
  | some stop => simp [readWords, words, FrameUnit.read_sql, readBounds_between]

lemma blank_not_mem (f : Frame) : ∀ w ∈ f.words, ' ' ∉ w.toList := by
  have hbound := Bound.forall_mem_words (P := fun w => ' ' ∉ w.toList) (by rintro (_ | _) <;> decide)
    fun i => Text.not_mem_toString i rfl (by decide)
  obtain ⟨unit, start, stop⟩ := f
  have hunit : ' ' ∉ unit.sql.toList := by cases unit <;> decide
  cases stop with
  | none =>
    simp only [words, Option.elim_none, List.forall_mem_cons]
    exact ⟨hunit, hbound start⟩
  | some stop =>
    simp only [words, Option.elim_some, List.forall_mem_cons, List.forall_mem_append]
    exact ⟨hunit, by decide, hbound start, by decide, hbound stop⟩

lemma read_text (f : Frame) : read f.text = some f := by
  have hwords : (f.text.toList.splitOn ' ').map String.ofList = f.words := by
    rw [text_eq, String.toList_intercalate]
    have hsplit := List.splitOn_intercalate ' ' (List.forall_mem_map.mpr f.blank_not_mem) (by simp [words])
    rw [show " ".toList = [' '] from rfl, hsplit]
    simp
  rw [read, hwords, readWords_words]

lemma occurrences_text (f : Frame) {word : String} {c : Char} (hblank : ' ' ∉ word.toList) (hc : c ∈ word.toList)
    (hdigit : c.isDigit = false) (hsign : c ≠ '-') (hunit : ∀ unit : FrameUnit, Text.occurrences word unit.sql = 0)
    (hkind : ∀ kind : BoundKind, ∀ w ∈ kind.words, Text.occurrences word w = 0) :
    Text.occurrences word f.text =
      if f.stop.isSome then Text.occurrences word "BETWEEN" + Text.occurrences word "AND" else 0 := by
  have hne : word ≠ "" := fun h => by simp [h] at hc
  have hbound (b : Bound) : (b.words.map (Text.occurrences word)).sum = 0 := by
    refine List.sum_eq_zero (List.forall_mem_map.mpr (b.forall_mem_words hkind fun i => ?_))
    exact Text.occurrences_eq_zero hc (Text.not_mem_toString i hdigit hsign)
  obtain ⟨unit, start, stop⟩ := f
  rw [text_eq, Text.occurrences_intercalate hblank hne]
  cases stop with
  | none => simp [words, hunit, hbound]
  | some stop => simp [words, hunit, hbound]

lemma occurrences_between (f : Frame) : Text.occurrences "BETWEEN" f.text = if f.stop.isSome then 1 else 0 :=
  f.occurrences_text (c := 'B') (by decide) (by decide) rfl (by decide) (by rintro (_ | _) <;> rfl)
    (by rintro (_ | _) <;> decide)

lemma occurrences_and (f : Frame) : Text.occurrences "AND" f.text = if f.stop.isSome then 1 else 0 :=
  f.occurrences_text (c := 'A') (by decide) (by decide) rfl (by decide) (by rintro (_ | _) <;> rfl)
    (by rintro (_ | _) <;> decide)

lemma text_of_render {f : Frame} {t : String} (h : f.render = .ok t) : f.text = t := by
  obtain ⟨-, ht⟩ := bind_unit_eq_ok.mp h
  exact Except.ok.inj ht

theorem read_render {f : Frame} {t : String} (h : f.render = .ok t) :
    read t = some f ∧ (∀ g : Frame, g.render = .ok t → g = f) ∧
      Text.occurrences "BETWEEN" t = (if f.stop.isSome then 1 else 0) ∧
      Text.occurrences "AND" t = (if f.stop.isSome then 1 else 0) := by
  have ht := text_of_render h
  subst ht
  refine ⟨f.read_text, fun g hg => ?_, f.occurrences_between, f.occurrences_and⟩
  have hread : some g = some f := by rw [← g.read_text, text_of_render hg, f.read_text]
  exact Option.some.inj hread

theorem read_render_largest_offsets :
    read "RANGE BETWEEN 9223372036854775807 PRECEDING AND 9223372036854775807 FOLLOWING" =
        some (rangeBetween (.preceding Int64.maxValue) (.following Int64.maxValue)) ∧
      (∀ g : Frame, g.render = .ok "RANGE BETWEEN 9223372036854775807 PRECEDING AND 9223372036854775807 FOLLOWING" →
        g = rangeBetween (.preceding Int64.maxValue) (.following Int64.maxValue)) ∧
      Text.occurrences "BETWEEN" "RANGE BETWEEN 9223372036854775807 PRECEDING AND 9223372036854775807 FOLLOWING" = 1 ∧
      Text.occurrences "AND" "RANGE BETWEEN 9223372036854775807 PRECEDING AND 9223372036854775807 FOLLOWING" = 1 :=
  read_render (f := rangeBetween (.preceding Int64.maxValue) (.following Int64.maxValue)) (by cbv)

end Frame

end SqlBuilder
