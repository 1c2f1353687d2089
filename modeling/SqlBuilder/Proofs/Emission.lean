import Mathlib.Data.List.Forall2
import SqlBuilder.Proofs.Outcome
import SqlBuilder.Proofs.Pieces.Written

/-!
What an emitter writes and when it succeeds. Both are put together along the combinators, so that a whole clause is
known from its items.
-/

namespace SqlBuilder

lemma forall₂_ok_iff {ε α β : Type} {r : α → Except ε β} (b : β) {xs : List α} {ys : List β} :
    List.Forall₂ (fun x y => r x = .ok y) xs ys ↔
      (∀ x ∈ xs, ∃ y, r x = .ok y) ∧ ys = xs.map fun x => (r x).toOption.getD b := by
  induction xs generalizing ys with
  | nil => simp
  | cons x xs ih =>
    simp only [List.forall₂_cons_left_iff, ih, List.forall_mem_cons, List.map_cons]
    constructor
    · rintro ⟨y, ys, hy, ⟨hxs, rfl⟩, rfl⟩
      exact ⟨⟨⟨y, hy⟩, hxs⟩, by simp [hy, Except.toOption]⟩
    · rintro ⟨⟨⟨y, hy⟩, hxs⟩, rfl⟩
      exact ⟨y, _, hy, ⟨hxs, rfl⟩, by simp [hy, Except.toOption]⟩

/-- A fragment that is written when the condition holds; otherwise there is a fault. -/
@[ext]
structure Emission where
  condition : Prop
  fragment : Fragment

namespace Emission

def ofText (s : String) : Emission := ⟨True, .ofText s⟩

def ofFragment (f : Fragment) : Emission := ⟨True, f⟩

def ofCheck (condition : Prop) : Emission := ⟨condition, .empty⟩

def append (a b : Emission) : Emission := ⟨a.condition ∧ b.condition, a.fragment ++ b.fragment⟩

instance : Append Emission := ⟨append⟩

def joined (separator : String) (items : List Emission) : Emission :=
  ⟨∀ a ∈ items, a.condition,
    ⟨separator.intercalate (items.map (·.fragment.sql)), items.flatMap (·.fragment.params)⟩⟩

def clause (keyword separator : String) (items : List Emission) : List Emission :=
  if items.isEmpty then [] else [ofText keyword ++ joined separator items]

@[simp] lemma condition_append (a b : Emission) : (a ++ b).condition = (a.condition ∧ b.condition) := rfl

@[simp] lemma fragment_append (a b : Emission) : (a ++ b).fragment = a.fragment ++ b.fragment := rfl

@[simp] lemma condition_ofText (s : String) : (ofText s).condition = True := rfl

@[simp] lemma fragment_ofText (s : String) : (ofText s).fragment = ⟨s, []⟩ := rfl

@[simp] lemma condition_ofFragment (f : Fragment) : (ofFragment f).condition = True := rfl

@[simp] lemma fragment_ofFragment (f : Fragment) : (ofFragment f).fragment = f := rfl

@[simp] lemma condition_ofCheck (condition : Prop) : (ofCheck condition).condition = condition := rfl

@[simp] lemma fragment_ofCheck (condition : Prop) : (ofCheck condition).fragment = .empty := rfl

@[simp] lemma condition_joined (separator : String) (items : List Emission) :
    (joined separator items).condition = ∀ a ∈ items, a.condition := rfl

@[simp] lemma fragment_joined (separator : String) (items : List Emission) :
    (joined separator items).fragment =
      ⟨separator.intercalate (items.map (·.fragment.sql)), items.flatMap (·.fragment.params)⟩ := rfl

lemma joined_nil (separator : String) : joined separator [] = ofFragment .empty := by
  ext <;> simp [Fragment.empty]

lemma joined_singleton (separator : String) (a : Emission) : joined separator [a] = a := by
  ext <;> simp

lemma joined_cons_cons (separator : String) (a b : Emission) (items : List Emission) :
    joined separator (a :: b :: items) = a ++ (ofText separator ++ joined separator (b :: items)) := by
  ext <;> simp [String.append_assoc]

lemma forall_mem_clause (keyword separator : String) (items : List Emission) :
    (∀ a ∈ clause keyword separator items, a.condition) ↔ ∀ a ∈ items, a.condition := by
  cases items <;> simp [clause]

lemma map_sql_clause (keyword separator : String) (items : List Emission) :
    (clause keyword separator items).map (·.fragment.sql) =
      if items = [] then [] else [keyword ++ separator.intercalate (items.map (·.fragment.sql))] := by
  cases items <;> simp [clause]

lemma flatMap_params_clause (keyword separator : String) (items : List Emission) :
    (clause keyword separator items).flatMap (·.fragment.params) = items.flatMap (·.fragment.params) := by
  cases items <;> simp [clause]

end Emission

namespace Emitter

def Emits (e : Emitter) (a : Emission) : Prop :=
  ∀ out f, e out = .ok f ↔ a.condition ∧ f = out ++ a.fragment

lemma Emits.run_eq_ok {e : Emitter} {a : Emission} (h : Emits e a) {f : Fragment} :
    e.run = .ok f ↔ a.condition ∧ f = a.fragment := by
  have hempty := h .empty f
  rwa [Fragment.empty_append] at hempty

lemma Emits.congr {e : Emitter} {a b : Emission} (h : Emits e a) (hcondition : b.condition ↔ a.condition)
    (hsql : b.fragment.sql = a.fragment.sql) (hparams : b.fragment.params = a.fragment.params) : Emits e b := by
  have hab : b = a := Emission.ext (propext hcondition) (Fragment.eq_of_sql_params hsql hparams)
  rwa [hab]

lemma Emits.andThen {e f : Emitter} {a b : Emission} (he : Emits e a) (hf : Emits f b) : Emits (e >=> f) (a ++ b) := by
  intro out h
  have hseq : (e >=> f) out = e out >>= f := rfl
  rw [hseq, bind_eq_ok]
  constructor
  · rintro ⟨g, hg, hh⟩
    obtain ⟨ha, rfl⟩ := (he out g).mp hg
    obtain ⟨hb, rfl⟩ := (hf _ h).mp hh
    exact ⟨⟨ha, hb⟩, Fragment.append_assoc _ _ _⟩
  · rintro ⟨⟨ha, hb⟩, rfl⟩
    exact ⟨_, (he out _).mpr ⟨ha, rfl⟩, (hf _ _).mpr ⟨hb, (Fragment.append_assoc _ _ _).symm⟩⟩

lemma andThen_of_error {e f : Emitter} {out : Fragment} {err : BuildError} (h : e out = .error err) :
    (e >=> f) out = .error err := by
  change e out >>= f = .error err
  rw [h]
  rfl

lemma andThen_of_ok {e f : Emitter} {out g : Fragment} (h : e out = .ok g) : (e >=> f) out = f g := by
  change e out >>= f = f g
  rw [h]
  rfl

lemma check_require_of_false {condition : Bool} (h : condition = false) (fault : Fault) (out : Fragment) :
    check (require condition fault) out = .error (.configuration fault) := by
  rw [h]
  rfl

lemma check_require_of_true {condition : Bool} (h : condition = true) (fault : Fault) (out : Fragment) :
    check (require condition fault) out = .ok out := by
  rw [h]
  rfl

lemma Appends.emits {e : Emitter} (h : Appends e) : Emits e ⟨∃ f, e.run = .ok f, e.run.toOption.getD .empty⟩ := by
  intro out f
  rw [h out, map_eq_ok]
  cases e.run <;> simp [Except.toOption, eq_comm]

lemma emits_nothing : Emits nothing (.ofFragment .empty) := by
  intro out f
  simp [nothing, Emission.ofFragment, eq_comm]

lemma emits_text (s : String) : Emits (text s) (.ofText s) := by
  intro out f
  simp [text, Emission.ofText, Fragment.pushText, eq_comm]

lemma emits_check (r : Except BuildError Unit) : Emits (check r) (.ofCheck (r = .ok ())) := by
  intro out f
  cases r <;> simp [check, Emission.ofCheck, Except.map, eq_comm]

lemma emits_require (condition : Bool) (fault : Fault) :
    Emits (check (require condition fault)) (.ofCheck (condition = true)) := by
  intro out f
  rw [emits_check, Emission.ofCheck, Emission.ofCheck, require_eq_ok]

lemma emits_result {r : Except BuildError Fragment} {a : Emission}
    (h : ∀ f, r = .ok f ↔ a.condition ∧ f = a.fragment) : Emits (result r) a := by
  intro out f
  rw [result, map_eq_ok]
  constructor
  · rintro ⟨g, hg, rfl⟩
    obtain ⟨ha, rfl⟩ := (h g).mp hg
    exact ⟨ha, rfl⟩
  · rintro ⟨ha, rfl⟩
    exact ⟨_, (h _).mpr ⟨ha, rfl⟩, rfl⟩

lemma emits_fragment (f : Fragment) : Emits (fragment f) (.ofFragment f) :=
  emits_result fun g => by simp [Emission.ofFragment, eq_comm]

lemma emits_joined (separator : String) {es : List Emitter} {items : List Emission} (h : List.Forall₂ Emits es items) :
    Emits (joined separator es) (.joined separator items) := by
  induction h with
  | nil =>
    rw [Emission.joined_nil]
    exact emits_nothing
  | cons he hes ih =>
    cases hes with
    | nil =>
      rw [Emission.joined_singleton]
      exact he
    | cons he' hes' =>
      rw [Emission.joined_cons_cons]
      exact he.andThen ((emits_text separator).andThen ih)

lemma emits_map {α : Type} {e : α → Emitter} {a : α → Emission} (h : ∀ x, Emits (e x) (a x)) (xs : List α) :
    List.Forall₂ Emits (xs.map e) (xs.map a) :=
  List.forall₂_map_left_iff.mpr <| List.forall₂_map_right_iff.mpr <| List.forall₂_same.mpr fun x _ => h x

lemma emits_joined_map (separator : String) {α : Type} {e : α → Emitter} {a : α → Emission} (h : ∀ x, Emits (e x) (a x))
    (xs : List α) : Emits (joined separator (xs.map e)) (.joined separator (xs.map a)) :=
  emits_joined separator (emits_map h xs)

lemma emits_clause_map (keyword separator : String) {α : Type} {e : α → Emitter} {a : α → Emission}
    (h : ∀ x, Emits (e x) (a x)) (xs : List α) :
    List.Forall₂ Emits (clause keyword separator (xs.map e)) (Emission.clause keyword separator (xs.map a)) := by
  cases xs with
  | nil => exact .nil
  | cons x xs => exact .cons ((emits_text keyword).andThen (emits_joined_map separator h (x :: xs))) .nil

end Emitter

lemma Dialect.identifier_eq_ok {d : Dialect} (hd : d.quote ∈ ['"', '\'', '\x60', '[']) (name : String) :
    d.identifier name = .ok (d.spelling name) := by
  have hquote : ∃ s, Identifier.quote d.quote name = .ok s := by
    simp only [List.mem_cons, List.not_mem_nil, or_false] at hd
    rcases hd with h | h | h | h <;> exact ⟨_, by rw [h]; rfl⟩
  have hname : ∃ s, d.identifier name = .ok s := by
    rw [identifier]
    split
    · exact ⟨name, rfl⟩
    · exact hquote
  obtain ⟨s, hs⟩ := hname
  rw [spelling, hs]

lemma Emitter.emits_identifier {d : Dialect} (hd : d.quote ∈ ['"', '\'', '\x60', '[']) (name : String) :
    Emits (identifier d name) (.ofText (d.spelling name)) := by
  intro out f
  rw [identifier, d.identifier_eq_ok hd]
  exact emits_text _ out f

end SqlBuilder
