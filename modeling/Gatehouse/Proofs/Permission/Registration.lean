/-
Whose descriptor a registry keeps.

Of several descriptors for one form the registry keeps the one that came first since
the form was last free, and keeps it until an equal one is withdrawn.  The rule is stated
on the history alone: what is kept is a plain set, replayed step by step (`kept`), and the
first since the form was free is given by the split of the history at its entry
(`FirstSince`).  The induction is on the history from its end.

A registry does not know who brought a descriptor; it goes by what the descriptor says.
So somebody who was turned away can still take out what is kept, by withdrawing a
descriptor that is equal to it in all three fields (`ignored_keeps_winner_iff`).
-/
import Gatehouse.Permission.Registry
import Gatehouse.Proofs.Permission.History
import Gatehouse.Proofs.Text.Listing

namespace Gatehouse.Registry

/-! ### What is kept, as a plain set -/

/-- One thing that happens to a registry. -/
inductive Step where
  /-- A descriptor is brought. -/
  | enter (d : Descriptor)
  /-- A descriptor is withdrawn. -/
  | withdraw (d : Descriptor)

/-- What is kept after a step: a descriptor comes in if its form is free. -/
def Step.keep (kept : Finset Descriptor) : Step → Finset Descriptor
  | enter d => if ∃ e ∈ kept, e.form = d.form then kept else insert d kept
  | withdraw d => kept.erase d

/-- What a history leaves. -/
def kept (history : List Step) : Finset Descriptor := history.foldl Step.keep ∅

/-- The form was last free when this descriptor came, and has been taken from then on. -/
def FirstSince (history : List Step) (d : Descriptor) : Prop :=
  PresentSince (fun past => ∃ e ∈ kept past, e.form = d.form) (.enter d) history

theorem kept_concat (history : List Step) (step : Step) :
    kept (history ++ [step]) = step.keep (kept history) := by
  unfold kept
  rw [List.foldl_append]
  rfl

/-- No two descriptors are kept for one form. -/
theorem eq_of_mem_kept {history : List Step} {d e : Descriptor} (hd : d ∈ kept history)
    (he : e ∈ kept history) (hform : d.form = e.form) : d = e := by
  induction history using List.reverseRecOn with
  | nil => simp [kept] at hd
  | append_singleton history step ih =>
    rw [kept_concat] at hd he
    cases step with
    | enter c =>
      rw [Step.keep] at hd he
      by_cases htaken : ∃ e ∈ kept history, e.form = c.form
      · rw [if_pos htaken] at hd he
        exact ih hd he
      · rw [if_neg htaken] at hd he
        -- What is new has a form that nothing kept before has.
        have hnew : ∀ e ∈ kept history, e.form ≠ c.form := by
          intro e he hc
          exact htaken ⟨e, he, hc⟩
        rcases Finset.mem_insert.1 hd with hdc | hd
        · rcases Finset.mem_insert.1 he with hec | he
          · rw [hdc, hec]
          · exact absurd (by rw [← hform, hdc]) (hnew e he)
        · rcases Finset.mem_insert.1 he with hec | he
          · exact absurd (by rw [hform, hec]) (hnew d hd)
          · exact ih hd he
    | withdraw c =>
      exact ih (Finset.mem_of_mem_erase hd) (Finset.mem_of_mem_erase he)

theorem mem_kept_enter {history : List Step} {d : Descriptor}
    (hfree : ¬ ∃ e ∈ kept history, e.form = d.form) : d ∈ kept (history ++ [.enter d]) := by
  rw [kept_concat, Step.keep, if_neg hfree]
  exact Finset.mem_insert_self _ _

/-- What is kept is what came first since its form was free. -/
theorem mem_kept_iff {history : List Step} {d : Descriptor} :
    d ∈ kept history ↔ FirstSince history d := by
  induction history using List.reverseRecOn with
  | nil =>
    constructor
    · intro h
      simp [kept] at h
    · intro h
      obtain ⟨before, after, hsplit, -⟩ := h
      simp at hsplit
  | append_singleton history step ih =>
    rw [FirstSince, presentSince_concat, ← FirstSince, ← ih]
    constructor
    · intro h
      refine ⟨⟨d, h, rfl⟩, ?_⟩
      by_cases hbefore : d ∈ kept history
      · exact .inl hbefore
      · rw [kept_concat] at h
        cases step with
        | enter c =>
          rw [Step.keep] at h
          by_cases htaken : ∃ e ∈ kept history, e.form = c.form
          · rw [if_pos htaken] at h
            exact absurd h hbefore
          · rw [if_neg htaken] at h
            have hdc : d = c := (Finset.mem_insert.1 h).resolve_right hbefore
            subst hdc
            exact .inr ⟨rfl, htaken⟩
        | withdraw c => exact absurd (Finset.mem_of_mem_erase h) hbefore
    · intro h
      obtain ⟨⟨e, he, hform⟩, hd | ⟨hstep, hfree⟩⟩ := h
      · rw [kept_concat] at he ⊢
        cases step with
        | enter c =>
          rw [Step.keep]
          split
          · exact hd
          · exact Finset.mem_insert_of_mem hd
        | withdraw c =>
          -- What still has the form was kept before, so it is `d`, and not withdrawn.
          have heq : e = d := eq_of_mem_kept (Finset.mem_of_mem_erase he) hd hform
          exact heq ▸ he
      · subst hstep
        exact mem_kept_enter hfree

/-! ### What a registry lists -/

variable {r s : Registry} {d e : Descriptor}

theorem mem_toList_iff : d ∈ r.toList ↔ r.descriptors.get? d.form = some d :=
  Catalog.mem_items_iff

/-- Registries that list the same are the same. -/
theorem ext_mem (h : ∀ d, d ∈ r.toList ↔ d ∈ s.toList) : r = s := by
  have hget : ∀ key, r.descriptors.get? key = s.descriptors.get? key := by
    intro key
    refine Option.ext fun d => ?_
    constructor
    · intro hd
      have hform : d.form = key := Catalog.form_of_get? hd
      subst hform
      exact mem_toList_iff.1 ((h d).1 (mem_toList_iff.2 hd))
    · intro hd
      have hform : d.form = key := Catalog.form_of_get? hd
      subst hform
      exact mem_toList_iff.1 ((h d).2 (mem_toList_iff.2 hd))
  have hcatalog : r.descriptors = s.descriptors := Catalog.ext_get? hget
  cases r
  cases s
  simpa using hcatalog

theorem accepts_iff : r.accepts d = true ↔ ∀ e ∈ r.toList, e.form ≠ d.form := by
  unfold accepts
  rw [Bool.not_eq_true', Catalog.contains_eq, Option.isSome_eq_false_iff, Option.isNone_iff_eq_none]
  constructor
  · intro hfree e he hform
    rw [mem_toList_iff, hform, hfree] at he
    cases he
  · intro hnone
    cases hget : r.descriptors.get? d.form with
    | none => rfl
    | some e =>
      have hform : e.form = d.form := Catalog.form_of_get? hget
      exact absurd hform (hnone e (mem_toList_iff.2 (hform ▸ hget)))

theorem mem_toList_register :
    e ∈ (r.register d).toList ↔ e ∈ r.toList ∨ e = d ∧ r.accepts d = true := by
  rw [mem_toList_iff, mem_toList_iff, register, Catalog.get?_add, accepts, Bool.not_eq_true',
    Catalog.contains_eq]
  by_cases hform : e.form = d.form
  · rw [if_pos hform, hform]
    cases hget : r.descriptors.get? d.form with
    | none => simp [eq_comm]
    | some c => simp
  · have hne : e ≠ d := fun h => hform (by rw [h])
    simp [hform, hne]

theorem mem_toList_unregister : e ∈ (r.unregister d).toList ↔ e ∈ r.toList ∧ e ≠ d := by
  unfold unregister
  by_cases hkept : r.descriptors.get? d.form = some d
  · rw [if_pos hkept, mem_toList_iff, mem_toList_iff, Catalog.get?_drop]
    by_cases hform : e.form = d.form
    · rw [if_pos hform, hform, hkept]
      simp [eq_comm]
    · have hne : e ≠ d := fun h => hform (by rw [h])
      simp [hform, hne]
  · rw [if_neg hkept]
    constructor
    · intro he
      refine ⟨he, ?_⟩
      intro h
      subst h
      exact hkept (mem_toList_iff.1 he)
    · intro he
      exact he.1

theorem register_of_not_accepts (h : r.accepts d = false) : r.register d = r := by
  refine ext_mem fun e => ?_
  rw [mem_toList_register, h]
  simp

theorem unregister_eq_self_iff : r.unregister d = r ↔ d ∉ r.toList := by
  constructor
  · intro h hd
    rw [← h, mem_toList_unregister] at hd
    exact hd.2 rfl
  · intro hd
    refine ext_mem fun e => ?_
    rw [mem_toList_unregister]
    constructor
    · intro he
      exact he.1
    · intro he
      exact ⟨he, fun h => hd (h ▸ he)⟩

/-- A code is answered with what is kept for it. -/
theorem get_of_mem {code : String} (hd : d ∈ r.toList) (hform : d.form = Text.upper code) :
    r.get code = d := by
  rw [mem_toList_iff, hform] at hd
  rw [get, hd]
  rfl

theorem get_of_absent {code : String} (h : ∀ d ∈ r.toList, d.form ≠ Text.upper code) :
    r.get code = .unregistered code := by
  unfold get
  cases hget : r.descriptors.get? (Text.upper code) with
  | none => rfl
  | some d =>
    have hform : d.form = Text.upper code := Catalog.form_of_get? hget
    exact absurd hform (h d (mem_toList_iff.2 (hform ▸ hget)))

theorem contains_iff {code : String} :
    r.contains code = true ↔ ∃ d ∈ r.toList, d.form = Text.upper code := by
  unfold contains
  rw [Catalog.contains_eq, Option.isSome_iff_exists]
  constructor
  · intro h
    obtain ⟨d, hd⟩ := h
    have hform : d.form = Text.upper code := Catalog.form_of_get? hd
    exact ⟨d, mem_toList_iff.2 (hform ▸ hd), hform⟩
  · intro h
    obtain ⟨d, hd, hform⟩ := h
    exact ⟨d, hform ▸ mem_toList_iff.1 hd⟩

/-- The listing goes up in the bytes of the forms. -/
theorem pairwise_toList (r : Registry) :
    r.toList.Pairwise fun d e => Text.utf8 d.form.toList < Text.utf8 e.form.toList := by
  have hforms := r.descriptors.pairwise_forms
  rw [Catalog.forms_eq, List.pairwise_map] at hforms
  exact hforms.imp fun hlt => Text.utf8_lt_iff.2 hlt

/-- Sorting by the bytes of the forms gives the listing, in whatever order things were found. -/
theorem mergeSort_eq_toList {found : List Descriptor} (h : found.Perm r.toList) :
    found.mergeSort (fun d e => Text.utf8 d.form.toList ≤ Text.utf8 e.form.toList) = r.toList :=
  Text.mergeSort_eq_of_perm r.pairwise_toList h

/-! ### Changes -/

/-- A change that a registry is asked for. -/
inductive Change where
  | register (d : Descriptor)
  | registerKind (k : Kind)
  | registerKinds (ks : List Kind)
  | unregisterAll (ds : List Descriptor)
  | unregisterKinds (ks : List Kind)

/-- The registry after a change.  What is refused leaves it as it is. -/
def apply (r : Registry) : Change → Registry
  | .register d => r.register d
  | .registerKind k =>
    match r.registerKind k with
    | .ok (next, _) => next
    | .error _ => r
  | .registerKinds ks =>
    match r.registerKinds ks with
    | .ok (next, _) => next
    | .error _ => r
  | .unregisterAll ds => r.unregisterAll ds
  | .unregisterKinds ks => r.unregisterKinds ks

/-- The registry after changes in turn. -/
def applyAll (r : Registry) (changes : List Change) : Registry := changes.foldl apply r

/-- What a change does, descriptor by descriptor. -/
def Change.steps : Change → List Step
  | register d => [.enter d]
  | registerKind k =>
    match Descriptor.ofKind k with
    | .ok d => [.enter d]
    | .error _ => []
  | registerKinds ks =>
    match ks.mapM Descriptor.ofKind with
    | .ok ds => ds.map .enter
    | .error _ => []
  | unregisterAll ds => ds.map .withdraw
  | unregisterKinds ks => (ks.filterMap fun k => (Descriptor.ofKind k).toOption).map .withdraw

/-- The registry after a step. -/
def Step.onRegistry (r : Registry) : Step → Registry
  | enter d => r.register d
  | withdraw d => r.unregister d

theorem registerCounting_fst (r : Registry) (ds : List Descriptor) :
    (r.registerCounting ds).1 = ds.foldl register r := by
  induction ds generalizing r with
  | nil => rfl
  | cons d ds ih => exact ih (r.register d)

theorem apply_eq_foldl (r : Registry) (change : Change) :
    r.apply change = change.steps.foldl Step.onRegistry r := by
  cases change with
  | register d => rfl
  | registerKind k =>
    simp only [apply, registerKind, Change.steps]
    cases Descriptor.ofKind k with
    | error e => rfl
    | ok d => rfl
  | registerKinds ks =>
    simp only [apply, registerKinds, Change.steps]
    cases ks.mapM Descriptor.ofKind with
    | error e => rfl
    | ok ds =>
      rw [List.foldl_map]
      exact registerCounting_fst r ds
  | unregisterAll ds =>
    rw [Change.steps, List.foldl_map]
    rfl
  | unregisterKinds ks =>
    rw [Change.steps, List.foldl_map]
    rfl

/-- What is listed after a step is what the history then leaves. -/
theorem mem_toList_step {history : List Step} (h : ∀ d, d ∈ r.toList ↔ d ∈ kept history)
    (step : Step) (d : Descriptor) :
    d ∈ (step.onRegistry r).toList ↔ d ∈ kept (history ++ [step]) := by
  rw [kept_concat]
  cases step with
  | enter c =>
    have hfree : r.accepts c = true ↔ ¬ ∃ e ∈ kept history, e.form = c.form := by
      rw [accepts_iff]
      simp [h]
    rw [Step.onRegistry, Step.keep, mem_toList_register, h]
    by_cases htaken : ∃ e ∈ kept history, e.form = c.form
    · rw [if_pos htaken]
      simp [hfree, htaken]
    · rw [if_neg htaken, Finset.mem_insert]
      simp [hfree.2 htaken, or_comm]
  | withdraw c =>
    rw [Step.onRegistry, Step.keep, mem_toList_unregister, h, Finset.mem_erase, and_comm]

theorem mem_toList_foldl {history : List Step} (h : ∀ d, d ∈ r.toList ↔ d ∈ kept history)
    (steps : List Step) (d : Descriptor) :
    d ∈ (steps.foldl Step.onRegistry r).toList ↔ d ∈ kept (history ++ steps) := by
  induction steps generalizing r history with
  | nil => simpa using h d
  | cons step steps ih =>
    have hstep := ih (mem_toList_step h step)
    simpa using hstep

/-- What is listed after changes of the empty registry is what their history leaves. -/
theorem mem_toList_applyAll (changes : List Change) (d : Descriptor) :
    d ∈ (applyAll ∅ changes).toList ↔ d ∈ kept (changes.flatMap Change.steps) := by
  have hfold : ∀ r : Registry,
      r.applyAll changes = (changes.flatMap Change.steps).foldl Step.onRegistry r := by
    intro r
    induction changes generalizing r with
    | nil => rfl
    | cons change changes ih =>
      rw [applyAll, List.foldl_cons, List.flatMap_cons, List.foldl_append, ← apply_eq_foldl]
      exact ih (r.apply change)
  have hnone : ∀ d, d ∈ (∅ : Registry).toList ↔ d ∈ kept [] := by
    intro d
    constructor
    · intro hd
      cases hd
    · intro hd
      simp [kept] at hd
  rw [hfold ∅]
  exact mem_toList_foldl hnone _ d

/-- What a change takes out is withdrawn by it. -/
theorem withdraw_mem_steps {steps : List Step} (hd : d ∈ r.toList)
    (hgone : d ∉ (steps.foldl Step.onRegistry r).toList) : .withdraw d ∈ steps := by
  induction steps generalizing r with
  | nil => exact absurd hd hgone
  | cons step steps ih =>
    by_cases hstays : d ∈ (step.onRegistry r).toList
    · exact List.mem_cons_of_mem _ (ih hstays hgone)
    · cases step with
      | enter c => exact absurd (mem_toList_register.2 (.inl hd)) hstays
      | withdraw c =>
        have hdc : d = c := by
          by_contra hne
          exact hstays (mem_toList_unregister.2 ⟨hd, hne⟩)
        rw [hdc]
        exact List.mem_cons_self

/-! ### First come, first kept -/

/-- What a registry answers, by the history of what happened to it. -/
structure Remembers (r : Registry) (history : List Step) : Prop where
  /-- It lists what came first since its form was free. -/
  listed_iff : ∀ d, d ∈ r.toList ↔ FirstSince history d
  /-- No two descriptors have one form. -/
  unique : ∀ d ∈ r.toList, ∀ e ∈ r.toList, d.form = e.form → d = e
  /-- A descriptor is accepted if its form is free. -/
  accepts_iff : ∀ d, r.accepts d = true ↔ ∀ e ∈ r.toList, e.form ≠ d.form
  /-- Otherwise nothing changes. -/
  ignored : ∀ d, r.accepts d = false → r.register d = r
  /-- A code is answered with what is listed for it, in whatever letters it is asked... -/
  get_listed : ∀ code, ∀ d ∈ r.toList, d.form = Text.upper code → r.get code = d
  /-- ... or, if nothing is, with the code itself. -/
  get_absent : ∀ code, (∀ d ∈ r.toList, d.form ≠ Text.upper code) →
    r.get code = ⟨⟨code⟩, code, none⟩
  /-- It contains the codes for which something is listed. -/
  contains_iff : ∀ code, r.contains code = true ↔ ∃ d ∈ r.toList, d.form = Text.upper code
  /-- Nothing goes but what is withdrawn as the descriptor it is. -/
  leaves : ∀ change, ∀ d ∈ r.toList, d ∉ (r.apply change).toList → .withdraw d ∈ change.steps
  /-- The listing strictly increases in the bytes of the forms. -/
  increasing : r.toList.Pairwise fun d e =>
    Text.utf8 d.form.toList < Text.utf8 e.form.toList
  /-- It is what sorting makes of the descriptors in any order. -/
  sorted : ∀ found : List Descriptor, found.Perm r.toList →
    found.mergeSort (fun d e => Text.utf8 d.form.toList ≤ Text.utf8 e.form.toList) = r.toList
  /-- It is as long as the registry is large. -/
  length_eq : r.toList.length = r.size
  /-- The size counts what is kept. -/
  size_eq : r.size = (kept history).card

theorem nodup_toList (r : Registry) : r.toList.Nodup := by
  refine r.pairwise_toList.imp ?_
  intro d e hlt heq
  rw [heq] at hlt
  exact List.lt_irrefl _ hlt

/-- **After any changes of the empty registry, the first descriptor for a form is kept until it is
withdrawn.** -/
theorem first_write_wins (changes : List Change) :
    Remembers (applyAll ∅ changes) (changes.flatMap Change.steps) := by
  have hlisted := mem_toList_applyAll changes
  constructor
  case listed_iff =>
    intro d
    rw [hlisted, mem_kept_iff]
  case unique =>
    intro d hd e he hform
    exact eq_of_mem_kept ((hlisted d).1 hd) ((hlisted e).1 he) hform
  case accepts_iff => exact fun d => accepts_iff
  case ignored => exact fun d hd => register_of_not_accepts hd
  case get_listed => exact fun code d hd hform => get_of_mem hd hform
  case get_absent => exact fun code habsent => get_of_absent habsent
  case contains_iff => exact fun code => contains_iff
  case leaves =>
    intro change d hd hgone
    rw [apply_eq_foldl] at hgone
    exact withdraw_mem_steps hd hgone
  case increasing => exact pairwise_toList _
  case sorted => exact fun found hfound => mergeSort_eq_toList hfound
  case length_eq => exact Catalog.length_items _
  case size_eq =>
    have hset : (applyAll ∅ changes).toList.toFinset = kept (changes.flatMap Change.steps) := by
      ext d
      rw [List.mem_toFinset, hlisted]
    rw [← hset, List.toFinset_card_of_nodup (nodup_toList _)]
    exact (Catalog.length_items _).symm

/-! ### Who was turned away -/

/-- **Somebody who was turned away leaves the registry as it is, by withdrawing what was not
accepted, exactly if what is kept instead differs from it.**  An equal descriptor goes, and
nothing else. -/
theorem ignored_keeps_winner_iff (r : Registry) (d : Descriptor) (hd : r.accepts d = false) :
    ((r.register d).unregisterAll [d] = r ↔ r.get d.code.text ≠ d) ∧
    (r.get d.code.text = d → ((r.register d).unregisterAll [d]).contains d.code.text = false ∧
      ∀ e, e ∈ ((r.register d).unregisterAll [d]).toList ↔ e ∈ r.toList ∧ e ≠ d) ∧
    ∀ k, Descriptor.ofKind k = .ok d → r.registerKind k = .ok (r.register d, false) ∧
      ((r.register d).unregisterKinds [k] = r ↔ r.get d.code.text ≠ d) := by
  have hsame : (r.register d).unregisterAll [d] = r.unregister d := by
    rw [register_of_not_accepts hd]
    rfl
  -- Some descriptor is kept for the form, so the answer to the code is what is listed.
  have hwinner : r.get d.code.text = d ↔ d ∈ r.toList := by
    constructor
    · intro hget
      by_contra hd'
      obtain ⟨e, he, hform⟩ : ∃ e ∈ r.toList, e.form = d.form := by
        have hfree := mt accepts_iff.2 (by rw [hd]; exact Bool.false_ne_true)
        simpa using hfree
      rw [get_of_mem he hform] at hget
      exact hd' (hget ▸ he)
    · intro hd'
      exact get_of_mem hd' rfl
  have hiff : r.unregister d = r ↔ r.get d.code.text ≠ d := by
    rw [unregister_eq_self_iff, Ne, hwinner]
  refine ⟨?_, ?_, ?_⟩
  · rw [hsame]
    exact hiff
  · intro hget
    rw [hsame]
    refine ⟨?_, fun e => mem_toList_unregister⟩
    by_contra hcontains
    obtain ⟨e, he, hform⟩ := contains_iff.1 (Bool.of_not_eq_false hcontains)
    obtain ⟨he, hne⟩ := mem_toList_unregister.1 he
    exact hne ((get_of_mem he hform).symm.trans hget)
  · intro k hk
    have hkinds : (r.register d).unregisterKinds [k] = (r.register d).unregisterAll [d] := by
      rw [unregisterKinds, List.filterMap_cons, hk]
      rfl
    refine ⟨?_, ?_⟩
    · rw [registerKind, hk, ← hd]
      rfl
    · rw [hkinds, hsame]
      exact hiff

/-- An impostor that says something else cannot take out what is kept. -/
theorem impostor_keeps_winner :
    let winner : Descriptor := ⟨⟨"P"⟩, "Original", none⟩
    let impostor : Descriptor := ⟨⟨"p"⟩, "Impostor", none⟩
    let r := (∅ : Registry).register winner
    r.accepts impostor = false ∧ r.get "p" = winner ∧
      (r.register impostor).unregisterAll [impostor] = r := by
  intro winner impostor r
  have hignored : r.accepts impostor = false := by decide +kernel
  have hget : r.get "p" = winner := by decide +kernel
  have hother : winner ≠ impostor := by decide
  refine ⟨hignored, hget, (ignored_keeps_winner_iff r impostor hignored).1.2 ?_⟩
  show r.get "p" ≠ impostor
  rw [hget]
  exact hother

/-- A twin can: the descriptor that came first goes when its twin, which was not accepted, is
withdrawn. -/
theorem twin_evicts_winner :
    let winner : Descriptor := ⟨⟨"P"⟩, "Shared", none⟩
    let r := (∅ : Registry).register winner
    r.accepts winner = false ∧ r.contains "P" = true ∧
      ((r.register winner).unregisterAll [winner]).contains "P" = false ∧
      (r.register winner).unregisterAll [winner] ≠ r := by
  intro winner r
  have hthere : r.contains "P" = true := by decide +kernel
  have hgone : ((r.register winner).unregisterAll [winner]).contains "P" = false := by
    decide +kernel
  refine ⟨by decide +kernel, hthere, hgone, ?_⟩
  intro hsame
  rw [hsame, hthere] at hgone
  cases hgone

end Gatehouse.Registry
