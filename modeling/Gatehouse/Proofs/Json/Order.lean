/-
The order of the members of an object.

A value may have the members of its objects in any order, at any depth.  One move puts the
members of one object into another order, and what reads a value without looking at the
order gives the same before and after each move (`Blind`).  All that reads records does:
it looks for members by their names, of which each declared one occurs at most once
(`fieldsOfMembers?_eq_some_iff`).

After a move inside a part of a value the fields of a record are the same, but for one that
has been moved inside (`fields?_moved`), and a choice is the same, but for what it carries
(`choice?_moved`).  So a reader of a record or of a choice is blind if those of its parts are.
-/
import Gatehouse.Json.Record
import Mathlib.Data.List.Forall2
import Mathlib.Data.Option.Basic
import Mathlib.Logic.Relation

namespace Gatehouse.Json

/-! ### Moves -/

/-- One object somewhere in a value has its members put into another order. -/
inductive Value.Moved : Value → Value → Prop where
  /-- It is the value itself. -/
  | members {ms ms' : List (Option String × Value)} (h : ms.Perm ms') : Moved (.obj ms) (.obj ms')
  /-- It is in an item of an array. -/
  | item {v v' : Value} (before after : List Value) (h : Moved v v') :
    Moved (.arr (before ++ v :: after)) (.arr (before ++ v' :: after))
  /-- It is in the value of a member. -/
  | value {v v' : Value} (name : Option String) (before after : List (Option String × Value))
    (h : Moved v v') : Moved (.obj (before ++ (name, v) :: after)) (.obj (before ++ (name, v') :: after))

/-- At most one object has its members put into another order. -/
abbrev Value.Stirred : Value → Value → Prop := Relation.ReflGen Value.Moved

/-- Any objects have their members put into another order. -/
abbrev Value.Reordered : Value → Value → Prop := Relation.ReflTransGen Value.Moved

/-- A reader gives the same whatever the order of members. -/
def Blind {α : Type} (read : Value → Option α) : Prop := ∀ v w : Value, v.Moved w → read v = read w

theorem Blind.stirred {α : Type} {read : Value → Option α} (h : Blind read) {v w : Value}
    (hvw : v.Stirred w) : read v = read w := by
  cases hvw with
  | refl => rfl
  | single hmoved => exact h _ _ hmoved

theorem Blind.reordered {α : Type} {read : Value → Option α} (h : Blind read) {v w : Value}
    (hvw : v.Reordered w) : read v = read w := by
  induction hvw with
  | refl => rfl
  | tail _ hmoved ih => exact ih.trans (h _ _ hmoved)

/-! ### Readers of single values -/

theorem blind_text? : Blind Value.text? := by
  rintro v w (_ | _ | _) <;> rfl

theorem blind_int? : Blind Value.int? := by
  rintro v w (_ | _ | _) <;> rfl

theorem blind_intWithin? (lo hi : Int) : Blind (Value.intWithin? lo hi) := by
  intro v w h
  rw [Value.intWithin?, Value.intWithin?, blind_int? v w h]

theorem blind_uint32? : Blind Value.uint32? := by
  intro v w h
  rw [Value.uint32?, Value.uint32?, blind_intWithin? _ _ v w h]

theorem blind_uint64? : Blind Value.uint64? := by
  intro v w h
  rw [Value.uint64?, Value.uint64?, blind_intWithin? _ _ v w h]

theorem blind_int32? : Blind Value.int32? := by
  intro v w h
  rw [Value.int32?, Value.int32?, blind_intWithin? _ _ v w h]

theorem blind_texts? : Blind Value.texts? := by
  rintro v w (_ | ⟨before, after, h⟩ | _)
  · rfl
  · simp [Value.texts?, Value.items?, blind_text? _ _ h]
  · rfl

theorem Blind.nullable? {α : Type} {read : Value → Option α} (hread : Blind read) :
    Blind (Value.nullable? read) := by
  intro v w h
  have hsame := hread v w h
  cases h <;> exact congrArg (Option.map some) hsame

/-! ### Fields of objects -/

theorem occurrences_eq_count (name : String) (ms : List (Option String × Value)) :
    occurrences name ms = (ms.map Prod.fst).count (some name) := by
  unfold occurrences List.count
  rw [List.countP_map]
  exact List.countP_congr fun m _ => by simp

theorem mem_of_lookup {name : String} {v : Value} {ms : List (Option String × Value)}
    (h : lookup name ms = some v) : (some name, v) ∈ ms := by
  induction ms with
  | nil => cases h
  | cons m ms ih =>
    rw [lookup] at h
    split at h
    · rename_i hname
      obtain rfl := Option.some.inj h
      rw [← hname]
      exact List.mem_cons_self
    · exact List.mem_cons_of_mem _ (ih h)

theorem isSome_lookup_iff {name : String} {ms : List (Option String × Value)} :
    (lookup name ms).isSome = true ↔ some name ∈ ms.map Prod.fst := by
  induction ms with
  | nil => simp [lookup]
  | cons m ms ih =>
    rw [lookup, List.map_cons, List.mem_cons, ← ih]
    by_cases hname : m.1 = some name
    · simp [hname]
    · simp [hname, Ne.symm hname]

/-- The only member of a name is the one that is found. -/
theorem lookup_eq_some_iff {name : String} {v : Value} {ms : List (Option String × Value)}
    (honce : (ms.map Prod.fst).count (some name) ≤ 1) :
    lookup name ms = some v ↔ (some name, v) ∈ ms := by
  refine ⟨mem_of_lookup, fun hmem => ?_⟩
  induction ms with
  | nil => cases hmem
  | cons m ms ih =>
    rw [List.map_cons, List.count_cons] at honce
    rw [lookup]
    by_cases hname : m.1 = some name
    · -- This is the one member of the name, so none comes after it.
      have hnone : (ms.map Prod.fst).count (some name) = 0 := by
        simp only [hname, BEq.rfl, if_true] at honce
        omega
      rcases List.mem_cons.1 hmem with rfl | hmem
      · rw [if_pos rfl]
      · exact absurd (List.mem_map_of_mem (f := Prod.fst) hmem) (List.count_eq_zero.1 hnone)
    · rw [if_neg hname]
      rcases List.mem_cons.1 hmem with rfl | hmem
      · exact absurd rfl hname
      · exact ih (by omega) hmem

/-- The names of the members of an object make up a record. -/
structure Fits (fs : List Field) (names : List (Option String)) : Prop where
  /-- Every member has a name. -/
  named : ∀ name ∈ names, name.isSome = true
  /-- No field is given twice. -/
  once : ∀ f ∈ fs, names.count (some f.name) ≤ 1
  /-- What is required is there. -/
  present : ∀ f ∈ fs, f.presence = .required → some f.name ∈ names

theorem Fits.perm {fs : List Field} {names names' : List (Option String)} (hfits : Fits fs names)
    (h : names.Perm names') : Fits fs names' where
  named := fun name hname => hfits.named name (h.mem_iff.2 hname)
  once := fun f hf => (h.count_eq _).symm ▸ hfits.once f hf
  present := fun f hf hrequired => h.mem_iff.1 (hfits.present f hf hrequired)

/-- What is found for a field counts, unless it is required and nothing is found. -/
theorem fieldValue_eq_some_iff {f : Field} {found value : Option Value} :
    (match found with
      | some v => some (some v)
      | none => if f.presence = .required then none else some none) = some value ↔
    (f.presence = .required → found.isSome = true) ∧ value = found := by
  cases found with
  | some v => simp [eq_comm]
  | none =>
    by_cases hrequired : f.presence = .required
    · simp [hrequired]
    · simp [hrequired, eq_comm]

theorem fieldValues_eq_some_iff (fs : List Field) (found : Field → Option Value)
    {values : List (Option Value)} :
    (fs.mapM fun f =>
      match found f with
      | some v => some (some v)
      | none => if f.presence = .required then none else some none) = some values ↔
    (∀ f ∈ fs, f.presence = .required → (found f).isSome = true) ∧ values = fs.map found := by
  induction fs generalizing values with
  | nil => exact ⟨fun h => ⟨nofun, (Option.some.inj h).symm⟩, fun h => congrArg some h.2.symm⟩
  | cons f fs ih =>
    simp only [List.mapM_cons, Option.bind_eq_bind, Option.bind_eq_some_iff, fieldValue_eq_some_iff,
      ih, Option.pure_def, Option.some.injEq, List.forall_mem_cons, List.map_cons]
    constructor
    · rintro ⟨value, ⟨hpresent, rfl⟩, rest, ⟨hrest, rfl⟩, rfl⟩
      exact ⟨⟨hpresent, hrest⟩, rfl⟩
    · rintro ⟨⟨hpresent, hrest⟩, rfl⟩
      exact ⟨_, ⟨hpresent, rfl⟩, _, ⟨hrest, rfl⟩, rfl⟩

/-- **The fields of an object that makes up a record are its members of their names.** -/
theorem fieldsOfMembers?_eq_some_iff {fs : List Field} {ms : List (Option String × Value)}
    {values : List (Option Value)} :
    fieldsOfMembers? fs ms = some values ↔
      Fits fs (ms.map Prod.fst) ∧ values = fs.map fun f => lookup f.name ms := by
  unfold fieldsOfMembers?
  by_cases hok : (∀ m ∈ ms, m.1.isSome = true) ∧ ∀ f ∈ fs, occurrences f.name ms ≤ 1
  · rw [if_pos (by simpa using hok)]
    refine (fieldValues_eq_some_iff fs fun f => lookup f.name ms).trans ?_
    simp only [occurrences_eq_count, isSome_lookup_iff] at hok ⊢
    refine and_congr_left fun _ => ⟨fun h => ⟨?_, hok.2, h⟩, Fits.present⟩
    simpa using hok.1
  · rw [if_neg (by simpa using hok)]
    refine ⟨nofun, fun h => absurd ⟨fun m hm => ?_, fun f hf => ?_⟩ hok⟩
    · exact h.1.named _ (List.mem_map_of_mem hm)
    · rw [occurrences_eq_count]
      exact h.1.once f hf

/-- Two objects make up the same record, or none, if their names are the same in some order and what is
found in them is related. -/
theorem fieldsOfMembers?_rel {r : Option Value → Option Value → Prop} {fs : List Field}
    {ms ms' : List (Option String × Value)} (hnames : (ms.map Prod.fst).Perm (ms'.map Prod.fst))
    (hfound : Fits fs (ms.map Prod.fst) → ∀ f ∈ fs, r (lookup f.name ms) (lookup f.name ms')) :
    Option.Rel (List.Forall₂ r) (fieldsOfMembers? fs ms) (fieldsOfMembers? fs ms') := by
  by_cases hfits : Fits fs (ms.map Prod.fst)
  · rw [fieldsOfMembers?_eq_some_iff.2 ⟨hfits, rfl⟩,
      fieldsOfMembers?_eq_some_iff.2 ⟨hfits.perm hnames, rfl⟩]
    refine .some (List.forall₂_map_left_iff.2 (List.forall₂_map_right_iff.2 ?_))
    exact List.forall₂_same.2 (hfound hfits)
  · -- Whether there is a record at all is for the names to say, and those are the same.
    have hnone : ∀ {ms'' : List (Option String × Value)}, ¬ Fits fs (ms''.map Prod.fst) →
        fieldsOfMembers? fs ms'' = none := by
      intro ms'' hnot
      refine Option.eq_none_iff_forall_ne_some.2 fun values hvalues => ?_
      exact hnot (fieldsOfMembers?_eq_some_iff.1 hvalues).1
    rw [hnone hfits, hnone fun h => hfits (h.perm hnames.symm)]
    exact .none

/-! ### Fields after a move -/

/-- Fields that are the same, but for a move inside. -/
abbrev FieldsAlike : List (Option Value) → List (Option Value) → Prop :=
  List.Forall₂ (Option.Rel Value.Stirred)

theorem stirred_refl : ∀ found : Option Value, Option.Rel Value.Stirred found found
  | none => .none
  | some _ => .some .refl

theorem stirred_getD {found found' : Option Value} (h : Option.Rel Value.Stirred found found')
    (fallback : Value) : (found.getD fallback).Stirred (found'.getD fallback) := by
  cases h with
  | none => exact .refl
  | some hstirred => exact hstirred

theorem fieldsAlike_refl (values : List (Option Value)) : FieldsAlike values values :=
  List.forall₂_same.2 fun found _ => stirred_refl found

theorem lookup_perm {name : String} {ms ms' : List (Option String × Value)} (h : ms.Perm ms')
    (honce : (ms.map Prod.fst).count (some name) ≤ 1) : lookup name ms = lookup name ms' := by
  have honce' : (ms'.map Prod.fst).count (some name) ≤ 1 := by
    rwa [← (h.map Prod.fst).count_eq]
  refine Option.ext fun v => ?_
  rw [lookup_eq_some_iff honce, lookup_eq_some_iff honce', h.mem_iff]

theorem lookup_of_moved {v v' : Value} (h : v.Moved v') (name : String) (key : Option String)
    (before after : List (Option String × Value)) :
    Option.Rel Value.Stirred (lookup name (before ++ (key, v) :: after))
      (lookup name (before ++ (key, v') :: after)) := by
  induction before with
  | nil =>
    rw [List.nil_append, List.nil_append, lookup, lookup]
    split
    · exact .some (.single h)
    · exact stirred_refl _
  | cons m ms ih =>
    rw [List.cons_append, List.cons_append, lookup, lookup]
    split
    · exact stirred_refl _
    · exact ih

theorem fieldsOfItems?_of_moved {v v' : Value} (h : v.Moved v') (fs : List Field)
    (before after : List Value) :
    Option.Rel FieldsAlike (fieldsOfItems? fs (before ++ v :: after))
      (fieldsOfItems? fs (before ++ v' :: after)) := by
  have hcons : ∀ {found found' : Option Value} {o o' : Option (List (Option Value))},
      Option.Rel Value.Stirred found found' → Option.Rel FieldsAlike o o' →
      Option.Rel FieldsAlike (o.map (found :: ·)) (o'.map (found' :: ·)) := by
    rintro found found' o o' hfound (hrest | _)
    · exact .some (.cons hfound hrest)
    · exact .none
  induction before generalizing fs with
  | nil =>
    cases fs with
    | nil => exact .none
    | cons f fs =>
      refine hcons (.some (.single h)) ?_
      cases fieldsOfItems? fs after with
      | none => exact .none
      | some values => exact .some (fieldsAlike_refl values)
  | cons w before ih =>
    cases fs with
    | nil => exact .none
    | cons f fs => exact hcons (stirred_refl (some w)) (ih fs)

/-- **After a move there is no record, as before, or its fields are the same but for a move inside.** -/
theorem fields?_moved (fs : List Field) {v w : Value} (h : v.Moved w) :
    v.fields? fs = none ∧ w.fields? fs = none ∨
      ∃ values values', v.fields? fs = some values ∧ w.fields? fs = some values' ∧
        FieldsAlike values values' := by
  have hrel : Option.Rel FieldsAlike (v.fields? fs) (w.fields? fs) := by
    cases h with
    | members hperm =>
      refine fieldsOfMembers?_rel (hperm.map Prod.fst) fun hfits f hf => ?_
      rw [lookup_perm hperm (hfits.once f hf)]
      exact stirred_refl _
    | item before after hmoved => exact fieldsOfItems?_of_moved hmoved fs before after
    | value name before after hmoved =>
      refine fieldsOfMembers?_rel (by simp) fun _ f _ => ?_
      exact lookup_of_moved hmoved f.name name before after
  generalize v.fields? fs = found, w.fields? fs = found' at hrel
  cases hrel with
  | none => exact .inl ⟨rfl, rfl⟩
  | some halike => exact .inr ⟨_, _, rfl, rfl, halike⟩

/-! ### Choices after a move -/

theorem choice?_of_length_ne {ms : List (Option String × Value)} (h : ms.length ≠ 1) :
    (Value.obj ms).choice? = none := by
  match ms with
  | [] => rfl
  | [m] => exact absurd rfl h
  | (none, _) :: _ :: _ => rfl
  | (some _, _) :: _ :: _ => rfl

/-- **After a move a choice is the same, or what it carries is moved.** -/
theorem choice?_moved {v w : Value} (h : v.Moved w) :
    v.choice? = w.choice? ∨
      ∃ name body body', v.choice? = some (name, some body) ∧ w.choice? = some (name, some body') ∧
        body.Moved body' := by
  cases h with
  | @members ms ms' hperm =>
    refine .inl ?_
    by_cases hone : ms.length = 1
    · obtain ⟨m, rfl⟩ := List.length_eq_one_iff.1 hone
      rw [List.singleton_perm.1 hperm]
    · rw [choice?_of_length_ne hone, choice?_of_length_ne (hperm.length_eq ▸ hone)]
  | item before after hmoved => exact .inl rfl
  | @value v v' name before after hmoved =>
    by_cases hone : before = [] ∧ after = []
    · obtain ⟨rfl, rfl⟩ := hone
      cases name with
      | none => exact .inl rfl
      | some name => exact .inr ⟨name, v, v', rfl, rfl, hmoved⟩
    · -- With other members beside it there is no choice, before or after.
      have hlength : ∀ m : Option String × Value, (before ++ m :: after).length ≠ 1 := by
        intro m hlength
        rw [List.length_append, List.length_cons] at hlength
        exact hone ⟨List.eq_nil_of_length_eq_zero (by omega),
          List.eq_nil_of_length_eq_zero (by omega)⟩
      rw [choice?_of_length_ne (hlength _), choice?_of_length_ne (hlength _)]
      exact .inl rfl

theorem carriesNothing_of_moved {body body' : Value} (h : body.Moved body') :
    carriesNothing (some body) = carriesNothing (some body') := by
  cases h <;> rfl

theorem blind_soleText? (field : String) : Blind (Value.soleText? field) := by
  intro v w h
  unfold Value.soleText?
  rcases fields?_moved [⟨field, .required⟩] h with ⟨hv, hw⟩ | ⟨_, _, hv, hw, halike⟩
  · rw [hv, hw]
  · rw [hv, hw]
    rcases halike with _ | ⟨htext | _, _ | ⟨_, _⟩⟩
    case cons.some.nil => exact blind_text?.stirred htext
    all_goals rfl

end Gatehouse.Json
