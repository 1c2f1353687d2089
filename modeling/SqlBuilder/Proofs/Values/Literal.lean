import SqlBuilder.Proofs.Lexical.Aligned
import SqlBuilder.Proofs.Lexical.Grammar.Reading
import SqlBuilder.Value.Literal

/-!
Literals of character strings and of byte strings, read back. A reader undoes the doubled quotes or takes the digits in
pairs, and accepts nothing but the literals; the marker scanner passes over them.
-/

namespace SqlBuilder.Value

def isString : Value → Bool
  | text _ | bytes _ => true
  | null | bool _ | int _ | float _ => false

def readQuoted : List Char → Option (List Char)
  | [] => none
  | ['\''] => some []
  | '\'' :: '\'' :: cs => (readQuoted cs).map ('\'' :: ·)
  | c :: cs => if c = '\'' then none else (readQuoted cs).map (c :: ·)

def hexDigits : List Char :=
  "0123456789ABCDEF".toList

def readPairs : List Char → Option (List UInt8)
  | c :: d :: cs => do
    let high ← hexDigits.idxOf? c
    let low ← hexDigits.idxOf? d
    let bs ← readPairs cs
    return UInt8.ofNat (16 * high + low) :: bs
  | ['\''] => some []
  | _ => none

def read (t : String) : Option Value :=
  match t.toList with
  | '\'' :: cs => (readQuoted cs).map fun s => text (String.ofList s)
  | 'X' :: '\'' :: cs => (readPairs cs).map bytes
  | _ => none

lemma readQuoted_doubleQuotes (s : List Char) : readQuoted (doubleQuotes s ++ ['\'']) = some s := by
  induction s with
  | nil => rfl
  | cons c cs ih =>
    rw [doubleQuotes, List.flatMap_cons, ← doubleQuotes]
    by_cases hc : c = '\''
    · simp [readQuoted, hc, ih]
    · simp [readQuoted, hc, ih]

lemma eq_of_readQuoted {cs s : List Char} (h : readQuoted cs = some s) : cs = doubleQuotes s ++ ['\''] := by
  fun_induction readQuoted cs generalizing s with
  | case1 => cases h
  | case2 =>
    obtain rfl := Option.some.inj h
    rfl
  | case3 cs ih =>
    obtain ⟨s, hs, rfl⟩ := Option.map_eq_some_iff.mp h
    rw [ih hs]
    rfl
  | case4 => cases h
  | case5 c cs _ _ hc ih =>
    obtain ⟨s, hs, rfl⟩ := Option.map_eq_some_iff.mp h
    rw [ih hs, doubleQuotes, doubleQuotes, List.flatMap_cons, if_neg hc, List.singleton_append, List.cons_append]

lemma idxOf?_hexDigits {c : Char} {n : ℕ} : hexDigits.idxOf? c = some n ↔ n < 16 ∧ c = hexDigit n := by
  have hplaces : ∀ k : Fin 16, hexDigits[k.val]? = some (hexDigit k) ∧ hexDigits.idxOf? (hexDigit k) = some k.val := by
    decide
  constructor
  · intro h
    obtain ⟨hn, hc, -⟩ := List.idxOf?_eq_some_iff.mp h
    refine ⟨hn, Option.some.inj ?_⟩
    rw [← (hplaces ⟨n, hn⟩).1, ← hc]
    exact (List.getElem?_eq_getElem hn).symm
  · rintro ⟨hn, rfl⟩
    exact (hplaces ⟨n, hn⟩).2

lemma readPairs_hexByte_append (b : UInt8) (rest : List Char) :
    readPairs (hexByte b ++ rest) = (readPairs rest).map (b :: ·) := by
  have hlt : b.toNat < 256 := b.toNat_lt
  have hhigh : hexDigits.idxOf? (hexDigit (b.toNat / 16)) = some (b.toNat / 16) := idxOf?_hexDigits.mpr ⟨by omega, rfl⟩
  have hlow : hexDigits.idxOf? (hexDigit (b.toNat % 16)) = some (b.toNat % 16) := idxOf?_hexDigits.mpr ⟨by omega, rfl⟩
  have hbyte : UInt8.ofNat (16 * (b.toNat / 16) + b.toNat % 16) = b := by rw [Nat.div_add_mod, UInt8.ofNat_toNat]
  have hopen : readPairs (hexByte b ++ rest) =
      (hexDigits.idxOf? (hexDigit (b.toNat / 16))).bind fun high =>
        (hexDigits.idxOf? (hexDigit (b.toNat % 16))).bind fun low =>
          (readPairs rest).bind fun bs => some (UInt8.ofNat (16 * high + low) :: bs) := rfl
  rw [hopen, hhigh, hlow, Option.bind_some, Option.bind_some, hbyte, Option.map_eq_bind]
  rfl

lemma readPairs_hexBytes (bs : List UInt8) : readPairs (bs.flatMap hexByte ++ ['\'']) = some bs := by
  induction bs with
  | nil => rfl
  | cons b bs ih => rw [List.flatMap_cons, List.append_assoc, readPairs_hexByte_append, ih, Option.map_some]

lemma hexByte_ofNat {high low : ℕ} (hhigh : high < 16) (hlow : low < 16) :
    hexByte (UInt8.ofNat (16 * high + low)) = [hexDigit high, hexDigit low] := by
  have hnat : (UInt8.ofNat (16 * high + low)).toNat = 16 * high + low := UInt8.toNat_ofNat_of_lt' (by
    change _ < 256
    omega)
  have hdiv : (16 * high + low) / 16 = high := by omega
  have hmod : (16 * high + low) % 16 = low := by omega
  rw [hexByte, hnat, hdiv, hmod]

lemma eq_of_readPairs {cs : List Char} {bs : List UInt8} (h : readPairs cs = some bs) :
    cs = bs.flatMap hexByte ++ ['\''] := by
  fun_induction readPairs cs generalizing bs with
  | case1 c d cs ih =>
    obtain ⟨high, hhigh, h⟩ := Option.bind_eq_some_iff.mp h
    obtain ⟨low, hlow, h⟩ := Option.bind_eq_some_iff.mp h
    obtain ⟨bs, hbs, h⟩ := Option.bind_eq_some_iff.mp h
    obtain rfl := Option.some.inj h
    obtain ⟨hhigh16, rfl⟩ := idxOf?_hexDigits.mp hhigh
    obtain ⟨hlow16, rfl⟩ := idxOf?_hexDigits.mp hlow
    rw [List.flatMap_cons, hexByte_ofNat hhigh16 hlow16, ih hbs]
    rfl
  | case2 =>
    obtain rfl := Option.some.inj h
    rfl
  | case3 => cases h

lemma read_literal {v : Value} (hv : v.isString = true) : read v.literal = some v := by
  cases v with
  | text s =>
    have hopen : read (text s).literal =
        (readQuoted (doubleQuotes s.toList ++ ['\''])).map fun cs => text (String.ofList cs) := by
      rw [read, literal, String.toList_ofList]
      rfl
    rw [hopen, readQuoted_doubleQuotes, Option.map_some, String.ofList_toList]
  | bytes bs =>
    have hopen : read (bytes bs).literal = (readPairs (bs.flatMap hexByte ++ ['\''])).map bytes := by
      rw [read, literal, String.toList_ofList]
      rfl
    rw [hopen, readPairs_hexBytes, Option.map_some]
  | null | bool | int | float => cases hv

lemma eq_literal_of_read {t : String} {v : Value} (h : read t = some v) : t = v.literal := by
  rw [← String.toList_inj]
  rw [read] at h
  split at h
  · next cs ht =>
    obtain ⟨s, hs, rfl⟩ := Option.map_eq_some_iff.mp h
    rw [ht, eq_of_readQuoted hs, literal, String.toList_ofList, String.toList_ofList]
    rfl
  · next cs ht =>
    obtain ⟨bs, hbs, rfl⟩ := Option.map_eq_some_iff.mp h
    rw [ht, eq_of_readPairs hbs, literal, String.toList_ofList]
    rfl
  · cases h

lemma reads_enclosed {inner : List Char}
    (h : (Mode.quoted '\'').after inner = .quoted '\'' ∧ (Mode.quoted '\'').markers inner = 0) :
    Mode.code.after ('\'' :: inner ++ ['\'']) = .code ∧ Mode.code.markers ('\'' :: inner ++ ['\'']) = 0 := by
  have hopen : Mode.code.after ['\''] = .quoted '\'' ∧ Mode.code.markers ['\''] = 0 := by decide
  have hclose : (Mode.quoted '\'').after ['\''] = .code ∧ (Mode.quoted '\'').markers ['\''] = 0 := by decide
  rw [← List.singleton_append, List.append_assoc]
  constructor
  · rw [Mode.after_append, Mode.after_append, hopen.1, h.1, hclose.1]
  · rw [Mode.markers_append, Mode.markers_append, hopen.1, hopen.2, h.1, h.2, hclose.2]

lemma reads_doubleQuotes (cs : List Char) :
    (Mode.quoted '\'').after (doubleQuotes cs) = .quoted '\'' ∧ (Mode.quoted '\'').markers (doubleQuotes cs) = 0 := by
  induction cs with
  | nil => exact ⟨rfl, rfl⟩
  | cons c cs ih =>
    have hpiece : (Mode.quoted '\'').after (if c = '\'' then [c, c] else [c]) = .quoted '\'' ∧
        (Mode.quoted '\'').markers (if c = '\'' then [c, c] else [c]) = 0 := by
      -- a doubled quote leaves the quotes and enters them again
      split
      · next hc =>
        subst hc
        decide
      · next hc => exact Enclosure.reads_still rfl fun d hd => List.mem_singleton.mp hd ▸ if_neg hc
    rw [doubleQuotes, List.flatMap_cons, ← doubleQuotes]
    constructor
    · rw [Mode.after_append, hpiece.1, ih.1]
    · rw [Mode.markers_append, hpiece.1, hpiece.2, ih.2]

lemma quote_not_mem_hexByte (b : UInt8) : '\'' ∉ hexByte b := by
  have hdigits : ∀ k : Fin 16, hexDigit k ≠ '\'' := by decide
  have hlt : b.toNat < 256 := b.toNat_lt
  have hhigh := hdigits ⟨b.toNat / 16, by omega⟩
  have hlow := hdigits ⟨b.toNat % 16, by omega⟩
  rw [hexByte, List.mem_cons, List.mem_singleton, not_or]
  exact ⟨hhigh.symm, hlow.symm⟩

lemma reads_literal {v : Value} (hv : v.isString = true) :
    Mode.code.after v.literal.toList = .code ∧ Mode.code.markers v.literal.toList = 0 := by
  cases v with
  | text s =>
    rw [literal, String.toList_ofList]
    exact reads_enclosed (reads_doubleQuotes s.toList)
  | bytes bs =>
    have hstill : ∀ c ∈ bs.flatMap hexByte, (Mode.quoted '\'').next c = .quoted '\'' := by
      intro c hc
      obtain ⟨b, _, hc⟩ := List.mem_flatMap.mp hc
      exact if_neg (ne_of_mem_of_not_mem hc (quote_not_mem_hexByte b))
    obtain ⟨hafter, hmarkers⟩ := reads_enclosed (Enclosure.reads_still rfl hstill)
    rw [literal, String.toList_ofList]
    exact ⟨hafter, (Nat.zero_add _).trans hmarkers⟩
  | null | bool | int | float => cases hv

/-- A literal is closed, and it is the only text that is read as its value. -/
theorem literal_reversible {v : Value} (hv : v.isString = true) :
    (Mode.code.after v.literal.toList = .code ∧ ∀ style, placeMarkers style v.literal = .ok (v.literal, 0)) ∧
      (∀ t, read t = some v ↔ t = v.literal) ∧
      ∀ v' : Value, v'.isString = true → v'.literal = v.literal → v' = v := by
  obtain ⟨hmode, hmarkers⟩ := reads_literal hv
  have hclose : (Mode.code.after v.literal.toList).close = .ok () := by rw [hmode]; rfl
  refine ⟨⟨hmode, fun style => placeMarkers_of_no_markers style hclose hmarkers⟩, fun t => ?_, fun v' hv' h => ?_⟩
  · exact ⟨eq_literal_of_read, fun ht => ht ▸ read_literal hv⟩
  · exact Option.some.inj ((read_literal hv').symm.trans (h ▸ read_literal hv))

theorem literal_reversible_bytes_in_text :
    let v : Value := .text "'X'00'?'"
    v.isString = true ∧ placeMarkers .numbered "'''X''00''?'''" = .ok ("'''X''00''?'''", 0) ∧
      read "'''X''00''?'''" = some v ∧ (Value.bytes [0]).literal ≠ v.literal := by
  intro v
  have hliteral : v.literal = "'''X''00''?'''" := rfl
  obtain ⟨⟨_, hplace⟩, hread, hinj⟩ := literal_reversible (v := v) rfl
  rw [hliteral] at hplace
  refine ⟨rfl, hplace .numbered, (hread _).mpr hliteral.symm, fun h => ?_⟩
  have heq : Value.bytes [0] = .text "'X'00'?'" := hinj (.bytes [0]) rfl h
  cases heq

end SqlBuilder.Value
