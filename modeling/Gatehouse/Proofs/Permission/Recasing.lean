/-
Codes written anew in another case.

A set does not see in which order its codes come, nor in which case, as far as upper
case undoes what was done to a code.  Upper case undoes itself, and it undoes lower case
but for six characters.  A code with one of them has another form once it was put in
lower case, and the set is the same only where that goes unnoticed: the form that was
left is there for another code, and so is the form that was entered.

No code in lower case has the form that was left, so it takes a code in upper case to
keep it there.
-/
import Gatehouse.Proofs.Permission.Identity
import Gatehouse.Proofs.Permission.History
import Gatehouse.Proofs.Text.Lowercase

namespace Gatehouse

/-- A case in which a code is written anew. -/
inductive Casing where
  | lower
  | upper
  deriving DecidableEq

/-- The text in that case. -/
def Casing.write : Casing → String → String
  | lower => Text.lower
  | upper => Text.upper

/-- The code in the case that was chosen for it. -/
def recased (choice : Code × Casing) : Code := ⟨choice.2.write choice.1.text⟩

theorem normalized_recased_upper {choice : Code × Casing} (h : choice.2 = .upper) :
    (recased choice).normalized = choice.1.normalized := by
  unfold recased
  rw [h]
  exact Text.upper_upper choice.1.text

/-- A code changes its form when it has an estranged character and is put in lower case. -/
theorem normalized_recased_ne {choice : Code × Casing}
    (h : (recased choice).normalized ≠ choice.1.normalized) :
    choice.2 = .lower ∧ Text.Estranged choice.1.text := by
  cases hcasing : choice.2 with
  | lower =>
    refine ⟨rfl, ?_⟩
    by_contra hclean
    unfold recased at h
    rw [hcasing] at h
    exact h (Text.upper_lower_eq_iff.2 hclean)
  | upper => exact absurd (normalized_recased_upper hcasing) h

namespace PermissionSet

/-- Sets with one thumbprint that compare equal and grant the same. -/
structure Alike (s t : PermissionSet) : Prop where
  thumbprint : s.thumbprint = t.thumbprint
  equal : (s == t) = true
  contains : ∀ code, s.contains code = t.contains code

theorem alike_iff_forms {s t : PermissionSet} :
    Alike s t ↔ s.spellings.forms = t.spellings.forms := by
  refine ⟨?_, ?_⟩
  · intro h
    exact forms_eq_iff.2 h.contains
  · intro h
    exact ⟨by rw [thumbprint, h, thumbprint], beq_iff_digest.2 (by rw [h]), forms_eq_iff.1 h⟩

/-- Putting the code in lower case is noticed: its form is left and no code keeps it, or another one
is entered that no code had. -/
def Lost (choices : List (Code × Casing)) (choice : Code × Casing) : Prop :=
  choice.2 = .lower ∧ Text.Estranged choice.1.text ∧
    ((∀ other ∈ choices, other.2 = .upper → other.1.normalized ≠ choice.1.normalized) ∨
      ∀ other ∈ choices, other.1.normalized ≠ (recased choice).normalized)

instance (choices : List (Code × Casing)) (choice : Code × Casing) :
    Decidable (Lost choices choice) :=
  inferInstanceAs (Decidable (_ ∧ _))

/-- A form with an estranged character is kept by codes in upper case only. -/
theorem kept_of_recased {choices : List (Code × Casing)} {code : Code}
    (hcode : Text.Estranged code.text)
    (h : ∃ other ∈ choices, (recased other).normalized = code.normalized) :
    ∃ other ∈ choices, other.2 = .upper ∧ other.1.normalized = code.normalized := by
  obtain ⟨other, hother, heq⟩ := h
  cases hcasing : other.2 with
  | lower =>
    have hform : Text.Estranged (recased other).normalized := heq ▸ Text.estranged_upper.2 hcode
    unfold recased at hform
    rw [hcasing] at hform
    exact absurd hform (Text.not_estranged_upper_lower other.1.text)
  | upper =>
    rw [normalized_recased_upper hcasing] at heq
    exact ⟨other, hother, hcasing, heq⟩

/-- The forms are the same ones when nothing is lost. -/
theorem forms_recased_iff (choices : List (Code × Casing)) :
    (∀ form, (∃ x ∈ choices, x.1.normalized = form) ↔
      ∃ x ∈ choices, (recased x).normalized = form) ↔ ∀ x ∈ choices, ¬ Lost choices x := by
  constructor
  · intro hforms x hx hlost
    obtain ⟨-, hstray, hleft | hentered⟩ := hlost
    · -- The form that was left is still there, so a code in upper case keeps it.
      obtain ⟨y, hy, hupper, heq⟩ := kept_of_recased hstray ((hforms _).1 ⟨x, hx, rfl⟩)
      exact hleft y hy hupper heq
    · obtain ⟨y, hy, heq⟩ := (hforms _).2 ⟨x, hx, rfl⟩
      exact hentered y hy heq
  · intro hkept form
    constructor
    · intro h
      obtain ⟨x, hx, hform⟩ := h
      by_cases hsame : (recased x).normalized = x.1.normalized
      · exact ⟨x, hx, hsame.trans hform⟩
      · obtain ⟨hlower, hstray⟩ := normalized_recased_ne hsame
        by_contra hgone
        refine hkept x hx ⟨hlower, hstray, .inl fun y hy hupper heq => hgone ⟨y, hy, ?_⟩⟩
        rw [normalized_recased_upper hupper, heq, hform]
    · intro h
      obtain ⟨x, hx, hform⟩ := h
      by_cases hsame : (recased x).normalized = x.1.normalized
      · exact ⟨x, hx, hsame.symm.trans hform⟩
      · obtain ⟨hlower, hstray⟩ := normalized_recased_ne hsame
        by_contra hnew
        refine hkept x hx ⟨hlower, hstray, .inr fun y hy heq => hnew ⟨y, hy, ?_⟩⟩
        rw [heq, hform]

/-- **Codes written anew in any order, each in the case chosen for it, make a set that is alike
just if none is lost**; none is where no code that is put in lower case has an estranged
character. -/
theorem recased_alike_iff {choices : List (Code × Casing)} {variant : List Code}
    (h : variant.Perm (choices.map recased)) :
    (Alike (ofCodes (choices.map Prod.fst)) (ofCodes variant) ↔ ∀ x ∈ choices, ¬ Lost choices x) ∧
    ((∀ x ∈ choices, x.2 = .lower → ¬ Text.Estranged x.1.text) →
      Alike (ofCodes (choices.map Prod.fst)) (ofCodes variant)) := by
  have hiff : Alike (ofCodes (choices.map Prod.fst)) (ofCodes variant) ↔
      ∀ x ∈ choices, ¬ Lost choices x := by
    rw [alike_iff_forms, ← forms_recased_iff]
    have hbefore : ∀ form, form ∈ (ofCodes (choices.map Prod.fst)).spellings.forms ↔
        ∃ x ∈ choices, x.1.normalized = form := by
      intro form
      simp only [mem_forms_ofCodes, List.mem_map, exists_exists_and_eq_and]
    have hafter : ∀ form, form ∈ (ofCodes variant).spellings.forms ↔
        ∃ x ∈ choices, (recased x).normalized = form := by
      intro form
      simp only [mem_forms_ofCodes, h.mem_iff, List.mem_map, exists_exists_and_eq_and]
    constructor
    · intro heq form
      rw [← hbefore, ← hafter, heq]
    · intro hforms
      refine Catalog.forms_ext fun form => ?_
      rw [hbefore, hafter, hforms]
  refine ⟨hiff, fun hclean => hiff.2 fun x hx hlost => ?_⟩
  obtain ⟨hlower, hstray, -⟩ := hlost
  exact hclean x hx hlower hstray

/-- Letters that become several and a sigma at the end of a word are no matter.  The sign for Kelvin
is none either, where another code keeps its form and there is a `k` already. -/
theorem recased_unnoticed :
    ([⟨"\u03bf\u03b4\u03bf\u03c2"⟩, ⟨"STRASSE"⟩] : List Code).Perm
      ([(⟨"Stra\u00dfe"⟩, .upper), (⟨"\u039f\u0394\u039f\u03a3"⟩, .lower)].map recased) ∧
    Alike (ofCodes [⟨"Stra\u00dfe"⟩, ⟨"\u039f\u0394\u039f\u03a3"⟩])
      (ofCodes [⟨"\u03bf\u03b4\u03bf\u03c2"⟩, ⟨"STRASSE"⟩]) ∧
    Alike (ofCodes [⟨"\u212a"⟩, ⟨"K"⟩, ⟨"\u212a"⟩]) (ofCodes [⟨"k"⟩, ⟨"\u212a"⟩, ⟨"k"⟩]) := by
  have hwords : ([⟨"\u03bf\u03b4\u03bf\u03c2"⟩, ⟨"STRASSE"⟩] : List Code).Perm
      ([(⟨"Stra\u00dfe"⟩, .upper), (⟨"\u039f\u0394\u039f\u03a3"⟩, .lower)].map recased) := by
    decide +kernel
  have hsigns : ([⟨"k"⟩, ⟨"\u212a"⟩, ⟨"k"⟩] : List Code).Perm
      ([(⟨"\u212a"⟩, .lower), (⟨"K"⟩, .lower), (⟨"\u212a"⟩, .upper)].map recased) := by
    decide +kernel
  refine ⟨hwords, (recased_alike_iff hwords).2 (by decide +kernel),
    (recased_alike_iff hsigns).1.2 (by decide +kernel)⟩

/-- The sign for Kelvin in lower case is a `k`: another thumbprint, and another grant. -/
theorem kelvin_lost :
    [⟨"k"⟩].Perm ([(⟨"\u212a"⟩, .lower)].map recased) ∧
    (ofCodes [⟨"\u212a"⟩]).thumbprint ≠ (ofCodes [⟨"k"⟩]).thumbprint ∧
    (ofCodes [⟨"\u212a"⟩] == ofCodes [⟨"k"⟩]) = false ∧
    (ofCodes [⟨"\u212a"⟩]).contains "k" = false ∧ (ofCodes [⟨"k"⟩]).contains "k" = true := by
  refine ⟨?_, ?_, ?_, ?_, ?_⟩ <;> decide +kernel

end PermissionSet

end Gatehouse
