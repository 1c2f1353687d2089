namespace SqlBuilder.Text

def partsOf : List Char → List (List Char)
  | [] => [[]]
  | c :: cs => if c = '.' then [] :: partsOf cs else (partsOf cs).modifyHead (c :: ·)

def parts (path : String) : List String :=
  (partsOf path.toList).map String.ofList

def splitLastOf : List Char → Option (List Char × List Char)
  | [] => none
  | c :: cs =>
    match splitLastOf cs with
    | some (before, after) => some (c :: before, after)
    | none => if c = '.' then some ([], cs) else none

def splitLast (path : String) : Option (String × String) :=
  (splitLastOf path.toList).map fun (before, after) => (String.ofList before, String.ofList after)

theorem partsOf_ne_nil (cs : List Char) : partsOf cs ≠ [] := by
  induction cs with
  | nil => simp [partsOf]
  | cons c cs ih => by_cases h : c = '.' <;> simp [partsOf, h, ih]

theorem intercalate_partsOf (cs : List Char) : ['.'].intercalate (partsOf cs) = cs := by
  induction cs with
  | nil => rfl
  | cons c cs ih =>
    obtain ⟨first, rest, he⟩ := List.exists_cons_of_ne_nil (partsOf_ne_nil cs)
    rw [he] at ih
    by_cases hc : c = '.'
    · simp [partsOf, hc, he, List.intercalate_cons_cons, ih]
    · cases rest with
      | nil => simp_all [partsOf, List.intercalate]
      | cons part rest => simp_all [partsOf, List.intercalate_cons_cons]

theorem partsOf_of_dot_not_mem {cs : List Char} (h : '.' ∉ cs) : partsOf cs = [cs] := by
  induction cs with
  | nil => rfl
  | cons c cs ih =>
    have hc : c ≠ '.' := by grind
    simp [partsOf, hc, ih (by grind)]

theorem partsOf_append (before after : List Char) :
    partsOf (before ++ '.' :: after) = partsOf before ++ partsOf after := by
  induction before with
  | nil => simp [partsOf]
  | cons c cs ih =>
    obtain ⟨first, rest, he⟩ := List.exists_cons_of_ne_nil (partsOf_ne_nil cs)
    by_cases hc : c = '.' <;> simp [partsOf, hc, ih, he]

theorem dot_not_mem_of_splitLastOf {cs : List Char} (h : splitLastOf cs = none) : '.' ∉ cs := by
  induction cs with
  | nil => simp
  | cons c cs ih => cases hcs : splitLastOf cs <;> grind [splitLastOf]

theorem eq_append_of_splitLastOf {cs before after : List Char} (h : splitLastOf cs = some (before, after)) :
    cs = before ++ '.' :: after ∧ '.' ∉ after := by
  induction cs generalizing before with
  | nil => cases h
  | cons c cs ih =>
    cases hcs : splitLastOf cs with
    | none =>
      have hdot : '.' ∉ cs := dot_not_mem_of_splitLastOf hcs
      by_cases hc : c = '.' <;> simp_all [splitLastOf]
    | some split =>
      obtain ⟨front, back⟩ := split
      obtain ⟨rfl, rfl⟩ : c :: front = before ∧ back = after := by simpa [splitLastOf, hcs] using h
      obtain ⟨rfl, hdot⟩ := ih hcs
      exact ⟨rfl, hdot⟩

theorem parts_of_splitLast_eq_none {path : String} (h : splitLast path = none) : parts path = [path] := by
  have hdot := dot_not_mem_of_splitLastOf (Option.map_eq_none_iff.mp h)
  simp [parts, partsOf_of_dot_not_mem hdot]

theorem parts_of_splitLast {path before after : String} (h : splitLast path = some (before, after)) :
    parts path = parts before ++ [after] := by
  obtain ⟨⟨front, back⟩, hsplit, he⟩ := Option.map_eq_some_iff.mp h
  obtain ⟨rfl, rfl⟩ := Prod.mk.inj he
  obtain ⟨hpath, hdot⟩ := eq_append_of_splitLastOf hsplit
  simp [parts, hpath, partsOf_append, partsOf_of_dot_not_mem hdot]

theorem parts_ne_nil (path : String) : parts path ≠ [] := by
  simp [parts, partsOf_ne_nil]

theorem parts_injective {path path' : String} (h : parts path = parts path') : path = path' := by
  have hparts : partsOf path.toList = partsOf path'.toList :=
    (List.map_inj_right fun _ _ => String.ofList_inj.mp).mp h
  rw [← String.toList_inj, ← intercalate_partsOf path.toList, hparts, intercalate_partsOf]

end SqlBuilder.Text
