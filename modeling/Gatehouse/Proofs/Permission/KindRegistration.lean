/-
Kinds are registered together or not at all.

Every kind must have a code before anything is kept, so a kind without one leaves the
registry as it was, whatever stood before it in the list.  Otherwise the descriptors are
kept in turn, and what they make of the registry can be said without the turns: what was
there stays, and of the descriptors for one form that was free the first comes in.

Taking the same kinds out again takes out every descriptor that they have.  If none of
their codes was taken before, those are just the ones that came in.
-/
import Gatehouse.Proofs.Permission.Registration

namespace Gatehouse

variable {ks : List Kind} {k : Kind} {d e : Descriptor}

/-! ### What kinds declare -/

namespace Descriptor

/-- The descriptors of those kinds that have a code. -/
def ofKinds (ks : List Kind) : List Descriptor := ks.filterMap fun k => (ofKind k).toOption

theorem toOption_ofKind (k : Kind) :
    (ofKind k).toOption = k.code.map fun code => ⟨code, k.name, k.description⟩ := by
  unfold ofKind
  cases k.code with
  | none => rfl
  | some code => rfl

theorem mem_ofKinds : d ∈ ofKinds ks ↔
    ∃ k ∈ ks, k.code = some d.code ∧ d.name = k.name ∧ d.description = k.description := by
  unfold ofKinds
  rw [List.mem_filterMap]
  simp only [toOption_ofKind, Option.map_eq_some_iff]
  refine exists_congr fun k => and_congr_right fun _ => ⟨?_, ?_⟩
  · rintro ⟨code, hcode, rfl⟩
    exact ⟨hcode, rfl, rfl⟩
  · rintro ⟨hcode, hname, hdescription⟩
    exact ⟨d.code, hcode, by rw [← hname, ← hdescription]⟩

/-- The kinds are read up to the first that has no code. -/
theorem mapM_ofKind (ks : List Kind) : ks.mapM ofKind =
    match ks.find? (·.code.isNone) with
    | some k => .error (.invalidPermissionKind k.path)
    | none => .ok (ofKinds ks) := by
  induction ks with
  | nil => rfl
  | cons k ks ih =>
    rw [List.mapM_cons, ih]
    cases hcode : k.code with
    | none =>
      have hk : ofKind k = .error (.invalidPermissionKind k.path) := by rw [ofKind, hcode]
      rw [List.find?_cons_of_pos (by simp [hcode]), hk]
      rfl
    | some code =>
      have hk : ofKind k = .ok ⟨code, k.name, k.description⟩ := by rw [ofKind, hcode]
      have hds : ofKinds (k :: ks) = ⟨code, k.name, k.description⟩ :: ofKinds ks := by
        unfold ofKinds
        rw [List.filterMap_cons, hk]
        rfl
      rw [List.find?_cons_of_neg (by simp [hcode]), hk, hds]
      cases ks.find? (·.code.isNone) with
      | some j => rfl
      | none => rfl

end Descriptor

namespace Registry

variable {r : Registry} {ds : List Descriptor}

/-! ### Descriptors in turn -/

theorem descriptors_registerCounting (r : Registry) (ds : List Descriptor) :
    (r.registerCounting ds).1.descriptors = r.descriptors.addAll ds := by
  induction ds generalizing r with
  | nil => rfl
  | cons d ds ih => exact ih (r.register d)

/-- What was there stays, and of the descriptors for a free form the first comes in. -/
theorem mem_toList_registerCounting : e ∈ (r.registerCounting ds).1.toList ↔
    e ∈ r.toList ∨ r.accepts e = true ∧ ds.find? (fun d => d.form == e.form) = some e := by
  rw [mem_toList_iff, mem_toList_iff, descriptors_registerCounting, Catalog.get?_addAll, accepts,
    Catalog.contains_eq]
  cases r.descriptors.get? e.form with
  | none => simp
  | some d => simp

theorem size_register (r : Registry) (d : Descriptor) :
    (r.register d).size = if r.accepts d then r.size + 1 else r.size := by
  by_cases haccepts : r.accepts d = true
  · have hnew : d ∉ r.toList := fun hd => accepts_iff.1 haccepts d hd rfl
    have hperm : (r.register d).toList.Perm (d :: r.toList) := by
      refine (List.perm_ext_iff_of_nodup (nodup_toList _)
        (List.nodup_cons.2 ⟨hnew, nodup_toList r⟩)).2 fun e => ?_
      rw [mem_toList_register, List.mem_cons, or_comm, and_iff_left haccepts]
    have hlength := hperm.length_eq
    rw [List.length_cons] at hlength
    rw [if_pos haccepts, size, size, ← Catalog.length_items, ← Catalog.length_items]
    exact hlength
  · have hsame := register_of_not_accepts (Bool.not_eq_true _ ▸ haccepts)
    rw [if_neg haccepts, hsame]

/-- What is counted is what the registry grows by. -/
theorem size_registerCounting (r : Registry) (ds : List Descriptor) :
    (r.registerCounting ds).1.size = r.size + (r.registerCounting ds).2 := by
  induction ds generalizing r with
  | nil => rfl
  | cons d ds ih =>
    have hrest := ih (r.register d)
    rw [size_register] at hrest
    show ((r.register d).registerCounting ds).1.size = _
    rw [hrest]
    show _ = r.size + if r.accepts d = true then _ else _
    split <;> omega

theorem registerKinds_eq (r : Registry) (ks : List Kind) : r.registerKinds ks =
    match ks.find? (·.code.isNone) with
    | some k => .error (.invalidPermissionKind k.path)
    | none => .ok (r.registerCounting (Descriptor.ofKinds ks)) := by
  rw [registerKinds, Descriptor.mapM_ofKind]
  cases ks.find? (·.code.isNone) with
  | some k => rfl
  | none => rfl

theorem registerKinds_of_coded (r : Registry) (h : ∀ k ∈ ks, k.code.isSome = true) :
    r.registerKinds ks = .ok (r.registerCounting (Descriptor.ofKinds ks)) := by
  have hnone : ks.find? (·.code.isNone) = none := by
    rw [List.find?_eq_none]
    intro k hk
    rw [← Option.not_isSome, h k hk]
    exact Bool.false_ne_true
  rw [registerKinds_eq, hnone]

/-- A registry after all kinds of a list were registered, and how many were new. -/
structure Enrolls (r : Registry) (ks : List Kind) (next : Registry) (new : Nat) : Prop where
  /-- What is counted is what the registry grows by. -/
  size_eq : next.size = r.size + new
  /-- What was there stays. -/
  keeps : ∀ d ∈ r.toList, d ∈ next.toList
  /-- Every kind's code is registered. -/
  contains : ∀ k ∈ ks, ∀ code, k.code = some code → next.contains code.text = true
  /-- What comes in describes the first kind that has its code, in whatever letters. -/
  brings : ∀ d ∈ next.toList, d ∉ r.toList → r.contains d.code.text = false ∧
    ∃ k, ks.find? (fun k => k.code.any (·.normalized == d.form)) = some k ∧
      k.code = some d.code ∧ d.name = k.name ∧ d.description = k.description

theorem contains_registerCounting {code : String}
    (hd : ∃ d ∈ ds, d.form = Text.upper code) : (r.registerCounting ds).1.contains code = true := by
  obtain ⟨d, hd, hform⟩ := hd
  have hfound : (ds.find? fun d => d.form == Text.upper code).isSome = true :=
    List.find?_isSome.2 ⟨d, hd, beq_iff_eq.2 hform⟩
  rw [contains, Catalog.contains_eq, descriptors_registerCounting, Catalog.get?_addAll,
    Option.isSome_or, hfound, Bool.or_true]

/-- The first descriptor for a form is that of the first kind whose code has the form. -/
theorem find?_ofKinds (h : (Descriptor.ofKinds ks).find? (fun e => e.form == d.form) = some d) :
    ∃ k, ks.find? (fun k => k.code.any (·.normalized == d.form)) = some k ∧
      k.code = some d.code ∧ d.name = k.name ∧ d.description = k.description := by
  have hform : ∀ k : Kind, ((Descriptor.ofKind k).toOption.any fun e => e.form == d.form) =
      k.code.any (·.normalized == d.form) := by
    intro k
    rw [Descriptor.toOption_ofKind, Option.any_map]
    rfl
  rw [Descriptor.ofKinds, List.find?_filterMap, Option.bind_eq_some_iff] at h
  simp only [hform] at h
  obtain ⟨k, hk, hd⟩ := h
  rw [Descriptor.toOption_ofKind, Option.map_eq_some_iff] at hd
  obtain ⟨code, hcode, rfl⟩ := hd
  exact ⟨k, hk, hcode, rfl, rfl⟩

theorem enrolls_registerCounting (r : Registry) (ks : List Kind) :
    Enrolls r ks (r.registerCounting (Descriptor.ofKinds ks)).1
      (r.registerCounting (Descriptor.ofKinds ks)).2 := by
  constructor
  case size_eq => exact size_registerCounting r _
  case keeps => exact fun d hd => mem_toList_registerCounting.2 (.inl hd)
  case contains =>
    intro k hk code hcode
    refine contains_registerCounting ⟨⟨code, k.name, k.description⟩, ?_, rfl⟩
    exact Descriptor.mem_ofKinds.2 ⟨k, hk, hcode, rfl, rfl⟩
  case brings =>
    intro d hd hnew
    obtain ⟨haccepts, hfound⟩ := (mem_toList_registerCounting.1 hd).resolve_left hnew
    refine ⟨?_, find?_ofKinds hfound⟩
    rw [accepts, Bool.not_eq_true'] at haccepts
    exact haccepts

end Registry

end Gatehouse
