/-
What a permission set remembers of its history.

The plain set behind a permission set is its history replayed on normal forms: a
code put in adds its form, a form taken out removes it.  What the permission set
keeps beyond that is one spelling for each form, and the rule for it looks back:
it is the spelling with which the form last came in from outside.  A second
spelling of a form that is there changes nothing, while a form that goes away and
comes back is spelled anew.

The rule is stated on the history alone (`SpelledAs`), by the split at the put that
brought the form in: absent before, and granted ever since.  The induction is on
the history from its end, because both what is granted and what is spelled change
with the last step only.
-/
import Gatehouse.Permission.Set
import Gatehouse.Proofs.Permission.Catalog
import Gatehouse.Proofs.Text.Utf8
import Mathlib.Data.Finset.Card
import Mathlib.Data.List.Induction

namespace Gatehouse

/-- A split of a list with something added at its end is a split at the end or one of the list. -/
theorem concat_eq_split {α : Type} {xs before after : List α} {x y : α}
    (h : xs ++ [x] = before ++ y :: after) :
    before = xs ∧ x = y ∧ after = [] ∨ ∃ init, after = init ++ [x] ∧ xs = before ++ y :: init := by
  rcases List.eq_nil_or_concat' after with rfl | ⟨init, last, rfl⟩
  · obtain ⟨rfl, hlast⟩ := List.append_inj' h rfl
    exact .inl ⟨rfl, List.cons.inj hlast |>.1, rfl⟩
  · rw [← List.cons_append, ← List.append_assoc] at h
    obtain ⟨rfl, hlast⟩ := List.append_inj' h rfl
    obtain ⟨rfl, -⟩ := List.cons.inj hlast
    exact .inr ⟨init, rfl, rfl⟩

/-- What is present was last absent when this happened, and has been present from then on. -/
def PresentSince {α : Type} (present : List α → Prop) (entry : α) (history : List α) : Prop :=
  ∃ before after, history = before ++ entry :: after ∧ ¬ present before ∧
    ∀ since, since <+: after → present (before ++ entry :: since)

/-- What is present stays so for the same entry, or comes in with the last thing that happened. -/
theorem presentSince_concat {α : Type} {present : List α → Prop} {entry x : α}
    {history : List α} :
    PresentSince present entry (history ++ [x]) ↔
      present (history ++ [x]) ∧
        (PresentSince present entry history ∨ x = entry ∧ ¬ present history) := by
  constructor
  · intro h
    obtain ⟨before, after, hsplit, habsent, hsince⟩ := h
    have hnow : present (history ++ [x]) := by
      rw [hsplit]
      exact hsince _ List.prefix_rfl
    refine ⟨hnow, ?_⟩
    -- The entry is the last thing that happened, or the last thing comes after it.
    rcases concat_eq_split hsplit with ⟨hbefore, hlast, -⟩ | ⟨init, hafter, hhistory⟩
    · subst hbefore
      exact .inr ⟨hlast, habsent⟩
    · subst hafter hhistory
      refine .inl ⟨before, init, rfl, habsent, ?_⟩
      intro since hpre
      exact hsince since (hpre.trans (List.prefix_append _ _))
  · intro h
    obtain ⟨hnow, h⟩ := h
    rcases h with ⟨before, after, hhistory, habsent, hsince⟩ | ⟨hlast, habsent⟩
    · subst hhistory
      refine ⟨before, after ++ [x], by simp, habsent, ?_⟩
      intro since hpre
      rcases List.prefix_concat_iff.1 hpre with heq | hpre
      · subst heq
        simpa using hnow
      · exact hsince since hpre
    · subst hlast
      refine ⟨history, [], rfl, habsent, ?_⟩
      intro since hpre
      rw [List.prefix_nil.1 hpre]
      exact hnow

/-- Something came with an entry, and no later entry has taken it away. -/
def ComesAndStays {α : Type} (comes goes : List α → α → Prop) (history : List α) : Prop :=
  ∃ before entry after, history = before ++ entry :: after ∧ comes before entry ∧
    ∀ since x rest, after = since ++ x :: rest → ¬ goes (before ++ entry :: since) x

/-- What is there came earlier and is not taken away now, or it comes now. -/
theorem comesAndStays_concat {α : Type} {comes goes : List α → α → Prop} {history : List α}
    {x : α} :
    ComesAndStays comes goes (history ++ [x]) ↔
      ComesAndStays comes goes history ∧ ¬ goes history x ∨ comes history x := by
  constructor
  · intro h
    obtain ⟨before, entry, after, hsplit, hcomes, hstays⟩ := h
    rcases concat_eq_split hsplit with ⟨hbefore, hlast, -⟩ | ⟨init, hafter, hhistory⟩
    · subst hbefore hlast
      exact .inr hcomes
    · subst hafter hhistory
      refine .inl ⟨⟨before, entry, init, rfl, hcomes, ?_⟩, hstays init x [] rfl⟩
      intro since y rest hinit
      exact hstays since y (rest ++ [x]) (by simp [hinit])
  · intro h
    rcases h with ⟨⟨before, entry, after, hhistory, hcomes, hstays⟩, hx⟩ | hcomes
    · subst hhistory
      refine ⟨before, entry, after ++ [x], by simp, hcomes, ?_⟩
      intro since y rest hafter
      rcases concat_eq_split hafter with ⟨rfl, rfl, -⟩ | ⟨init, -, hinit⟩
      · exact hx
      · exact hstays since y init hinit
    · exact ⟨history, x, [], rfl, hcomes, by simp⟩

theorem not_comesAndStays_nil {α : Type} {comes goes : List α → α → Prop} :
    ¬ ComesAndStays comes goes [] := by
  simp [ComesAndStays]

namespace PermissionSet

/-! ### Histories -/

/-- One thing that happens to the contents of a set: a code is put in, the code of a form is taken
out, or everything is. -/
inductive Step where
  | put (code : Code)
  | take (form : String)
  | clear
  deriving DecidableEq

/-- What is granted after a step, by form. -/
def Step.grant (granted : Finset String) : Step → Finset String
  | put code => insert code.normalized granted
  | take form => granted.erase form
  | clear => ∅

/-- The forms that a history leaves granted. -/
def granted (history : List Step) : Finset String := history.foldl Step.grant ∅

/-- The form was last absent when this code was put in, and has been granted from then on. -/
def SpelledAs (history : List Step) (form : String) (code : Code) : Prop :=
  ∃ before after, history = before ++ .put code :: after ∧ code.normalized = form ∧
    form ∉ granted before ∧ ∀ since, since <+: after → form ∈ granted (before ++ .put code :: since)

@[simp] theorem granted_nil : granted [] = ∅ := rfl

@[simp] theorem granted_concat (history : List Step) (step : Step) :
    granted (history ++ [step]) = step.grant (granted history) := by
  unfold granted
  rw [List.foldl_append]
  rfl

theorem spelledAs_iff {history : List Step} {form : String} {code : Code} :
    SpelledAs history form code ↔
      code.normalized = form ∧ PresentSince (form ∈ granted ·) (.put code) history := by
  constructor
  · intro h
    obtain ⟨before, after, hsplit, hform, habsent, hsince⟩ := h
    exact ⟨hform, before, after, hsplit, habsent, hsince⟩
  · intro h
    obtain ⟨hform, before, after, hsplit, habsent, hsince⟩ := h
    exact ⟨before, after, hsplit, hform, habsent, hsince⟩

/-- A form keeps its spelling while it stays, and gets the one with which it comes in. -/
theorem spelledAs_concat {history : List Step} {step : Step} {form : String} {code : Code} :
    SpelledAs (history ++ [step]) form code ↔
      (form ∈ granted (history ++ [step]) ∧ SpelledAs history form code) ∨
      (step = .put code ∧ code.normalized = form ∧ form ∉ granted history) := by
  rw [spelledAs_iff, spelledAs_iff, presentSince_concat]
  constructor
  · intro h
    obtain ⟨hform, hnow, hbefore | ⟨hput, habsent⟩⟩ := h
    · exact .inl ⟨hnow, hform, hbefore⟩
    · exact .inr ⟨hput, hform, habsent⟩
  · intro h
    rcases h with ⟨hnow, hform, hbefore⟩ | ⟨hput, hform, habsent⟩
    · exact ⟨hform, hnow, .inl hbefore⟩
    · subst hput
      have hcomes : form ∈ granted (history ++ [.put code]) := by
        rw [granted_concat, Step.grant, ← hform]
        exact Finset.mem_insert_self _ _
      exact ⟨hform, hcomes, .inr ⟨rfl, habsent⟩⟩

theorem mem_granted_puts {codes : List Code} {form : String} :
    form ∈ granted (codes.map .put) ↔ ∃ c ∈ codes, c.normalized = form := by
  induction codes using List.reverseRecOn with
  | nil => simp
  | append_singleton codes c ih =>
    rw [List.map_append, List.map_singleton, granted_concat, Step.grant, Finset.mem_insert, ih]
    refine ⟨?_, ?_⟩
    · intro hcase
      rcases hcase with rfl | ⟨d, hd, rfl⟩
      · exact ⟨c, by simp, rfl⟩
      · exact ⟨d, by simp [hd], rfl⟩
    · intro hcase
      obtain ⟨d, hd, rfl⟩ := hcase
      rcases List.mem_append.1 hd with hd | hd
      · exact .inr ⟨d, hd, rfl⟩
      · exact .inl (by rw [List.mem_singleton.1 hd])

/-! ### A catalog that follows a history -/

/-- The spellings after a step. -/
def Step.onSpellings (spellings : Catalog Code Code.normalized) :
    Step → Catalog Code Code.normalized
  | put code => spellings.add code
  | take form => spellings.drop form
  | clear => ∅

/-- The spellings are those of the history, each under its form. -/
structure Follows (spellings : Catalog Code Code.normalized) (history : List Step) : Prop where
  /-- A form is filed when it is granted. -/
  granted : ∀ form, (spellings.get? form).isSome = true ↔ form ∈ granted history
  /-- What is filed is the spelling of the form. -/
  spelled : ∀ form code, spellings.get? form = some code ↔ SpelledAs history form code

theorem follows_nil : Follows ∅ [] := by
  refine ⟨fun form => by simp, fun form code => ⟨?_, ?_⟩⟩
  · intro h
    cases h
  · intro h
    obtain ⟨before, after, hsplit, -⟩ := h
    simp at hsplit

/-- One step is followed by one operation of the catalog. -/
theorem follows_step {spellings : Catalog Code Code.normalized} {history : List Step}
    (h : Follows spellings history) (step : Step) :
    Follows (step.onSpellings spellings) (history ++ [step]) := by
  have hgranted : ∀ form, ((step.onSpellings spellings).get? form).isSome = true ↔
      form ∈ PermissionSet.granted (history ++ [step]) := by
    intro form
    rw [granted_concat]
    cases step with
    | put c =>
      rw [Step.onSpellings, Step.grant, Catalog.get?_add, Finset.mem_insert, ← h.granted]
      by_cases hf : form = c.normalized <;> simp [hf]
    | take f =>
      rw [Step.onSpellings, Step.grant, Catalog.get?_drop, Finset.mem_erase, ← h.granted]
      by_cases hf : form = f <;> simp [hf]
    | clear => simp [Step.onSpellings, Step.grant]
  refine ⟨hgranted, fun form code => ?_⟩
  -- With what is granted known, the rule for spellings is about what was filed before the step.
  rw [spelledAs_concat, ← h.spelled, ← hgranted, ← h.granted]
  cases step with
  | put c =>
    rw [Step.onSpellings, Catalog.get?_add]
    by_cases hf : form = c.normalized
    · subst hf
      cases hfiled : spellings.get? c.normalized with
      | none =>
        have : c = code → code.normalized = c.normalized := fun hc => by rw [hc]
        simpa using this
      | some d => simp
    · have : c = code → ¬ code.normalized = form := fun hc hn => hf (by rw [← hn, hc])
      rw [if_neg hf]
      refine ⟨?_, ?_⟩
      · intro hfiled
        exact .inl ⟨by simp [hfiled], hfiled⟩
      · intro hcase
        rcases hcase with ⟨-, hfiled⟩ | ⟨hput, hform, -⟩
        · exact hfiled
        · exact absurd hform (this (Step.put.inj hput))
  | take f =>
    rw [Step.onSpellings, Catalog.get?_drop]
    by_cases hf : form = f <;> simp +contextual [hf]
  | clear => simp [Step.onSpellings]

theorem follows_steps {spellings : Catalog Code Code.normalized} {history : List Step}
    (h : Follows spellings history) (steps : List Step) :
    Follows (steps.foldl Step.onSpellings spellings) (history ++ steps) := by
  induction steps using List.reverseRecOn with
  | nil => simpa using h
  | append_singleton steps step ih =>
    rw [List.foldl_append, ← List.append_assoc]
    exact follows_step ih step

/-! ### Changes of a set -/

/-- A change that a set is asked for: to grant codes, to withdraw them, or to withdraw all. -/
inductive Change where
  | add (code : Code)
  | addAll (codes : List Code)
  | remove (code : String)
  | removeAll (codes : List String)
  | clear

/-- The set after a change it was asked for. -/
def apply (s : PermissionSet) : Change → PermissionSet
  | .add code => s.add code
  | .addAll codes => s.addAll codes
  | .remove code => s.remove code
  | .removeAll codes => s.removeAll codes
  | .clear => s.clear

/-- The set after changes it was asked for in turn. -/
def applyAll (s : PermissionSet) (changes : List Change) : PermissionSet := changes.foldl apply s

/-- What a change does, code by code. -/
def Change.steps : Change → List Step
  | add code => [.put code]
  | addAll codes => codes.map .put
  | remove code => [.take (Text.upper code)]
  | removeAll codes => codes.map fun code => .take (Text.upper code)
  | clear => [.clear]

/-- A change is an update of the contents, step by step. -/
theorem apply_eq_update (s : PermissionSet) (change : Change) :
    s.apply change = s.update fun spellings => change.steps.foldl Step.onSpellings spellings := by
  cases change with
  | add code => rfl
  | addAll codes =>
    simp only [Change.steps, List.foldl_map]
    rfl
  | remove code => rfl
  | removeAll codes =>
    simp only [apply, removeAll, Catalog.dropAll, Change.steps, List.foldl_map]
    rfl
  | clear => rfl

theorem apply_of_readOnly {s : PermissionSet} (h : s.readOnly = true) (change : Change) :
    s.apply change = s := by
  rw [apply_eq_update, update_of_readOnly h]

theorem applyAll_of_readOnly {s : PermissionSet} (h : s.readOnly = true) (changes : List Change) :
    s.applyAll changes = s := by
  induction changes with
  | nil => rfl
  | cons change changes ih => rw [applyAll, List.foldl_cons, apply_of_readOnly h, ← applyAll, ih]

theorem apply_of_mutable {s : PermissionSet} (h : s.readOnly = false) (change : Change) :
    s.apply change = ⟨change.steps.foldl Step.onSpellings s.spellings, false⟩ := by
  rw [apply_eq_update]
  simp [update, h]

/-- How a set comes to be, with what has happened to its contents: it is made, copied, or asked to
change. -/
inductive Built : PermissionSet → List Step → Prop where
  | empty : Built empty []
  | ofCodes (codes : List Code) : Built (ofCodes codes) (codes.map .put)
  | readOnlyOfCodes (codes : List Code) : Built (readOnlyOfCodes codes) (codes.map .put)
  | snapshot {s history} (h : Built s history) : Built s.snapshot history
  | toMutable {s history} (h : Built s history) : Built s.toMutable history
  | changed {s history} (h : Built s history) (hs : s.readOnly = false) (change : Change) :
    Built (s.apply change) (history ++ change.steps)
  | refused {s history} (h : Built s history) (hs : s.readOnly = true) (change : Change) :
    Built (s.apply change) history

theorem follows_puts (codes : List Code) :
    Follows ((∅ : Catalog Code Code.normalized).addAll codes) (codes.map .put) := by
  have h := follows_steps follows_nil (codes.map .put)
  rwa [List.foldl_map, List.nil_append] at h

/-- However a set came to be, its spellings follow what has happened to it. -/
theorem Built.follows {s : PermissionSet} {history : List Step} (h : Built s history) :
    Follows s.spellings history := by
  induction h with
  | empty => exact follows_nil
  | ofCodes codes => exact follows_puts codes
  | readOnlyOfCodes codes => exact follows_puts codes
  | snapshot _ ih => exact ih
  | toMutable _ ih => exact ih
  | changed _ hs change ih =>
    rw [apply_of_mutable hs]
    exact follows_steps ih change.steps
  | refused _ hs change ih =>
    rw [apply_of_readOnly hs]
    exact ih

theorem Built.applyAll {s : PermissionSet} {history : List Step} (h : Built s history)
    (hs : s.readOnly = false) (changes : List Change) :
    Built (s.applyAll changes) (history ++ changes.flatMap Change.steps) := by
  induction changes generalizing s history with
  | nil => simpa [PermissionSet.applyAll] using h
  | cons change changes ih =>
    rw [List.flatMap_cons, ← List.append_assoc]
    exact ih (h.changed hs change) (by rw [apply_of_mutable hs])

/-! ### What a set answers -/

/-- The answers of a set are those of the plain set its history leaves, with the spellings of
the history. -/
structure Refines (s : PermissionSet) (history : List Step) : Prop where
  /-- A code is granted when its upper case is in the plain set. -/
  contains_iff : ∀ code, s.contains code = true ↔ Text.upper code ∈ granted history
  /-- The listed codes strictly increase in the bytes of their forms, so none is listed twice. -/
  increasing : s.codes.Pairwise fun c d =>
    Text.utf8 c.normalized.toList < Text.utf8 d.normalized.toList
  /-- The listed codes are those of the plain set. -/
  listed_iff : ∀ form, form ∈ s.codes.map Code.normalized ↔ form ∈ granted history
  /-- Each is listed as it was spelled when it was last absent and then put in. -/
  spelled : ∀ code ∈ s.codes, SpelledAs history code.normalized code
  /-- The size is that of the plain set. -/
  size_eq : s.size = (granted history).card
  /-- Nothing is granted when the plain set is empty. -/
  isEmpty_iff : s.isEmpty = true ↔ granted history = ∅
  /-- A set made anew of the listed codes, in any order and with repetitions, has the same
  thumbprint. -/
  thumbprint_eq : ∀ codes, (∀ code, code ∈ codes ↔ code ∈ s.codes) →
    (ofCodes codes).thumbprint = s.thumbprint

theorem Follows.mem_forms_iff {spellings : Catalog Code Code.normalized} {history : List Step}
    (h : Follows spellings history) {form : String} :
    form ∈ spellings.forms ↔ form ∈ PermissionSet.granted history := by
  rw [Catalog.mem_forms_iff, Catalog.contains_eq, h.granted]

/-- The forms are a listing of the plain set without repetitions. -/
theorem Follows.forms_toFinset {spellings : Catalog Code Code.normalized} {history : List Step}
    (h : Follows spellings history) : spellings.forms.toFinset = PermissionSet.granted history := by
  ext form
  rw [List.mem_toFinset, h.mem_forms_iff]

theorem mem_forms_ofCodes {codes : List Code} {form : String} :
    form ∈ (ofCodes codes).spellings.forms ↔ ∃ c ∈ codes, c.normalized = form :=
  (follows_puts codes).mem_forms_iff.trans mem_granted_puts

/-- A set made anew of the codes of another one files the same forms. -/
theorem forms_ofCodes {s : PermissionSet} {codes : List Code}
    (h : ∀ code, code ∈ codes ↔ code ∈ s.codes) :
    (ofCodes codes).spellings.forms = s.spellings.forms := by
  refine Catalog.forms_ext fun form => ?_
  rw [mem_forms_ofCodes, Catalog.forms_eq, List.mem_map]
  refine ⟨?_, ?_⟩
  · intro hcase
    obtain ⟨c, hc, rfl⟩ := hcase
    exact ⟨c, (h c).1 hc, rfl⟩
  · intro hcase
    obtain ⟨c, hc, rfl⟩ := hcase
    exact ⟨c, (h c).2 hc, rfl⟩

theorem Follows.refines {s : PermissionSet} {history : List Step}
    (h : Follows s.spellings history) : Refines s history := by
  have hforms : s.codes.map Code.normalized = s.spellings.forms := (Catalog.forms_eq _).symm
  refine
    { contains_iff := fun code => ?_
      increasing := ?_
      listed_iff := fun form => by rw [hforms, h.mem_forms_iff]
      spelled := fun code hc => ?_
      size_eq := ?_
      isEmpty_iff := ?_
      thumbprint_eq := fun codes hcodes => ?_ }
  · exact h.granted (Text.upper code)
  · have hlt := s.spellings.pairwise_forms
    rw [← hforms, List.pairwise_map] at hlt
    exact hlt.imp fun hcd => Text.utf8_lt_iff.2 hcd
  · exact (h.spelled _ _).1 (Catalog.mem_items_iff.1 hc)
  · show s.spellings.size = _
    rw [Catalog.size_eq_length_forms, ← List.toFinset_card_of_nodup s.spellings.nodup_forms,
      h.forms_toFinset]
  · show s.spellings.isEmpty = true ↔ _
    rw [Catalog.isEmpty_iff_forms, ← h.forms_toFinset, List.toFinset_eq_empty_iff]
  · unfold thumbprint
    rw [forms_ofCodes hcodes]

/-- **A set that may change answers as the plain set of its history does, spelled as the history
spells it; one that may not answers as it did before.** -/
theorem refines_history {s : PermissionSet} {history : List Step} (h : Built s history)
    (changes : List Change) :
    (s.readOnly = false →
      Refines (s.applyAll changes) (history ++ changes.flatMap Change.steps)) ∧
    (s.readOnly = true →
      (s.applyAll changes).codes = s.codes ∧
      (s.applyAll changes).thumbprint = s.thumbprint ∧
      ∀ code, (s.applyAll changes).contains code = s.contains code) := by
  refine ⟨?_, ?_⟩
  · intro hs
    exact (h.applyAll hs changes).follows.refines
  · intro hs
    rw [applyAll_of_readOnly hs]
    exact ⟨rfl, rfl, fun _ => rfl⟩

/-- A second spelling changes nothing, and a code that goes away and comes back is spelled anew;
a copy that may not change keeps what it was taken from. -/
theorem respelled_after_withdrawal :
    Built (ofCodes [⟨"abc"⟩, ⟨"z"⟩]) [.put ⟨"abc"⟩, .put ⟨"z"⟩] ∧
    ((ofCodes [⟨"abc"⟩, ⟨"z"⟩]).applyAll [.add ⟨"ABC"⟩]).codes = [⟨"abc"⟩, ⟨"z"⟩] ∧
    ((ofCodes [⟨"abc"⟩, ⟨"z"⟩]).applyAll [.remove "ABC", .addAll [⟨"Abc"⟩, ⟨"aBC"⟩]]).codes =
      [⟨"Abc"⟩, ⟨"z"⟩] ∧
    Refines ((ofCodes [⟨"abc"⟩, ⟨"z"⟩]).applyAll [.remove "ABC", .addAll [⟨"Abc"⟩, ⟨"aBC"⟩]])
      [.put ⟨"abc"⟩, .put ⟨"z"⟩, .take "ABC", .put ⟨"Abc"⟩, .put ⟨"aBC"⟩] ∧
    ((ofCodes [⟨"abc"⟩, ⟨"z"⟩]).snapshot.applyAll [.clear]).codes = [⟨"abc"⟩, ⟨"z"⟩] := by
  have hbuilt : Built (ofCodes [⟨"abc"⟩, ⟨"z"⟩]) [.put ⟨"abc"⟩, .put ⟨"z"⟩] :=
    .ofCodes [⟨"abc"⟩, ⟨"z"⟩]
  have hupper : Text.upper "ABC" = "ABC" := by decide +kernel
  refine ⟨hbuilt, by decide +kernel, by decide +kernel, ?_, ?_⟩
  · have h := (refines_history hbuilt [.remove "ABC", .addAll [⟨"Abc"⟩, ⟨"aBC"⟩]]).1 rfl
    simpa [Change.steps, hupper] using h
  · have h := (refines_history hbuilt.snapshot [.clear]).2 rfl
    rw [h.1]
    decide +kernel

end PermissionSet

end Gatehouse
