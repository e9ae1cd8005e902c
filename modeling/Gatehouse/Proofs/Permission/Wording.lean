/-
Who words a denial, however providers are nested.

A provider is reduced to its voices: the providers in it that are no chains, from left to
right.  What it answers is the first answer of its voices (`answer_eq`), by induction on the
nesting, and a registry's answer is read off what it lists.  So a denial is worded by the
first voice that answers, and in the plain words where all are silent.

How the voices are grouped makes no difference.  Grouping is told by single steps, in which
neighbours are put into a chain of their own (`Regroups`), and two providers can be turned
into each other by such steps exactly when they have the same voices
(`regrouped_iff_voices_eq`), as each can be turned into the chain of its voices.
-/
import Gatehouse.Proofs.Permission.Catalog
import Gatehouse.Permission.Set
import Mathlib.Logic.Relation

namespace Gatehouse

/-! ### Voices -/

/-- A provider of reasons that is no chain. -/
inductive Voice where
  /-- A function of the code and the culture. -/
  | custom (answer : String → Option String → Option String)
  /-- The registry of that name. -/
  | registry (name : String)

/-- What the voice says to a denial of the code.  A registry speaks of the descriptor that it lists
under the code, in whatever spelling, and is silent if there is none. -/
def Voice.answer (registries : Registries) (code : String) (culture : Option String) :
    Voice → Option String
  | .custom f => f code culture
  | .registry name =>
    ((registries name).toList.find? fun d => Text.upper d.code.text == Text.upper code).map
      fun d => Denial.defaultMessage code d.name

/-- The voice as a provider. -/
def Voice.provider : Voice → Reason
  | .custom f => .custom f
  | .registry name => .registry name

theorem Registry.denialReason_eq (r : Registry) (code : String) :
    r.denialReason code =
      (r.toList.find? fun d => Text.upper d.code.text == Text.upper code).map
        fun d => Denial.defaultMessage code d.name := by
  unfold denialReason toList
  rw [← Catalog.find?_items]
  rfl

namespace Reason

mutual

/-- The voices of the provider, from left to right. -/
def voices : Reason → List Voice
  | .custom f => [.custom f]
  | .registry name => [.registry name]
  | .chain providers => voicesOf providers

/-- The voices of several providers, from left to right. -/
def voicesOf : List Reason → List Voice
  | [] => []
  | p :: ps => voices p ++ voicesOf ps

end

theorem voicesOf_eq_flatMap (ps : List Reason) : voicesOf ps = ps.flatMap voices := by
  induction ps with
  | nil => rfl
  | cons p ps ih => rw [voicesOf, List.flatMap_cons, ih]

variable (registries : Registries) (code : String) (culture : Option String)

mutual

/-- A provider answers as the first of its voices that is not silent. -/
theorem answer_eq : (r : Reason) →
    r.answer registries code culture = r.voices.findSome? (·.answer registries code culture)
  | .custom f => by simp [answer, voices, Voice.answer]
  | .registry name => by simp [answer, voices, Voice.answer, Registry.denialReason_eq]
  | .chain providers => by
    rw [answer, voices]
    exact firstAnswer_eq providers

theorem firstAnswer_eq : (ps : List Reason) →
    firstAnswer registries code culture ps =
      (voicesOf ps).findSome? (·.answer registries code culture)
  | [] => rfl
  | p :: ps => by
    have hfirst := answer_eq p
    have hrest := firstAnswer_eq ps
    rw [firstAnswer, voicesOf, List.findSome?_append, hfirst, hrest]
    cases p.voices.findSome? (·.answer registries code culture) <;> rfl

end

/-! ### Grouping -/

/-- One provider is the other with some neighbours put into a chain of their own. -/
inductive Regroups : Reason → Reason → Prop
  /-- All of it is. -/
  | alone (p : Reason) : Regroups p (.chain [p])
  /-- Some neighbours in a chain are. -/
  | neighbours (before inner after : List Reason) :
    Regroups (.chain (before ++ inner ++ after)) (.chain (before ++ .chain inner :: after))
  /-- It happens within a chain. -/
  | within (before after : List Reason) {p q : Reason} (h : Regroups p q) :
    Regroups (.chain (before ++ p :: after)) (.chain (before ++ q :: after))

/-- The providers are the same but for how their voices are grouped. -/
def Regrouped : Reason → Reason → Prop := Relation.EqvGen Regroups

theorem Regroups.voices_eq {p q : Reason} (h : Regroups p q) : p.voices = q.voices := by
  induction h with
  | alone p => simp [voices, voicesOf]
  | neighbours before inner after => simp [voices, voicesOf_eq_flatMap]
  | within before after h ih => simp [voices, voicesOf_eq_flatMap, ih]

theorem Regrouped.within (before after : List Reason) {p q : Reason} (h : p.Regrouped q) :
    Regrouped (.chain (before ++ p :: after)) (.chain (before ++ q :: after)) := by
  induction h with
  | rel p q h => exact .rel _ _ (.within before after h)
  | refl p => exact .refl _
  | symm p q _ ih => exact .symm _ _ ih
  | trans p q r _ _ ih ih' => exact .trans _ _ _ ih ih'

/-- What stands at the end of a chain can be regrouped as the chain that it would be on its own. -/
theorem Regrouped.append_left (before : List Reason) {ps qs : List Reason}
    (h : Regrouped (.chain ps) (.chain qs)) :
    Regrouped (.chain (before ++ ps)) (.chain (before ++ qs)) := by
  have hgroup (inner : List Reason) :
      Regrouped (.chain (before ++ inner)) (.chain (before ++ [.chain inner])) := by
    have hstep := Regroups.neighbours before inner []
    rw [List.append_nil] at hstep
    exact .rel _ _ hstep
  have hinner : Regrouped (.chain (before ++ [.chain ps])) (.chain (before ++ [.chain qs])) :=
    h.within before []
  exact .trans _ _ _ (hgroup ps) (.trans _ _ _ hinner (.symm _ _ (hgroup qs)))

mutual

/-- Every provider can be regrouped into the chain of its voices. -/
theorem regrouped_voices : (r : Reason) → r.Regrouped (.chain (r.voices.map Voice.provider))
  | .custom _ => .rel _ _ (.alone _)
  | .registry _ => .rel _ _ (.alone _)
  | .chain providers => by
    rw [voices]
    exact regrouped_voicesOf providers

theorem regrouped_voicesOf : (ps : List Reason) →
    Regrouped (.chain ps) (.chain ((voicesOf ps).map Voice.provider))
  | [] => .refl _
  | p :: ps => by
    rw [voicesOf, List.map_append]
    -- The first is turned into a chain, which is then dissolved, and the others follow.
    have hfirst := Regrouped.within [] ps (regrouped_voices p)
    have hdissolved := Regroups.neighbours [] (p.voices.map Voice.provider) ps
    have hrest := Regrouped.append_left (p.voices.map Voice.provider) (regrouped_voicesOf ps)
    exact .trans _ _ _ hfirst (.trans _ _ _ (.symm _ _ (.rel _ _ hdissolved)) hrest)

end

/-- Providers are the same but for grouping when they have the same voices in the same order. -/
theorem regrouped_iff_voices_eq {r r' : Reason} : r.Regrouped r' ↔ r.voices = r'.voices := by
  refine ⟨fun h => ?_, fun h => ?_⟩
  · induction h with
    | rel p q h => exact h.voices_eq
    | refl p => rfl
    | symm p q _ ih => exact ih.symm
    | trans p q r _ _ ih ih' => exact ih.trans ih'
  · have hright := regrouped_voices r'
    rw [← h] at hright
    exact .trans _ _ _ (regrouped_voices r) (.symm _ _ hright)

end Reason

/-! ### Denials -/

namespace PermissionSet

variable (s : PermissionSet) (registries : Registries) (code : String) (culture : Option String)

theorem check_of_contains {s : PermissionSet} {code : String} (h : s.contains code = true)
    (reason : Option Reason) : s.check registries reason code culture = .ok () := by
  rw [check, if_pos h]

/-- A refused code is named as it was asked for, in the words of the first voice that answers. -/
theorem check_of_not_contains {s : PermissionSet} {code : String} (h : s.contains code = false)
    (reason : Option Reason) :
    s.check registries reason code culture =
      .error ⟨code, ((Reason.voicesOf reason.toList).findSome?
        (·.answer registries code culture)).getD (Denial.defaultMessage code code)⟩ := by
  have hworded : (reason.bind fun r => r.answer registries code culture) =
      (Reason.voicesOf reason.toList).findSome? (·.answer registries code culture) := by
    cases reason with
    | none => rfl
    | some r =>
      rw [Option.bind_some, Reason.answer_eq, Option.toList_some, Reason.voicesOf, Reason.voicesOf,
        List.append_nil]
  rw [check, if_neg (by simp [h]), hworded]

/-- **A denial carries the code as it was asked for and the first answer from the left.**  A check
passes if the code is contained and not otherwise, whoever words denials; a denial has the words of
the first voice that answers, or plain words if none does; and it has the same words from providers
that differ in how their voices are grouped, which are those with the same voices in the same
order. -/
theorem denials_carry_first_answer :
    (∀ reason, s.check registries reason code culture = .ok () ↔ s.contains code = true) ∧
    (∀ reason, s.contains code = false →
      (∀ before voice after message, Reason.voicesOf reason.toList = before ++ voice :: after →
        (∀ v ∈ before, v.answer registries code culture = none) →
        voice.answer registries code culture = some message →
        s.check registries reason code culture = .error ⟨code, message⟩) ∧
      ((∀ v ∈ Reason.voicesOf reason.toList, v.answer registries code culture = none) →
        s.check registries reason code culture =
          .error ⟨code, "access denied: permission '" ++ code ++ "' is required"⟩)) ∧
    (∀ r r' : Reason, (r.Regrouped r' ↔ r.voices = r'.voices) ∧
      (r.Regrouped r' →
        s.check registries (some r) code culture = s.check registries (some r') code culture)) := by
  refine ⟨fun reason => ⟨fun hok => ?_, fun h => check_of_contains registries culture h reason⟩,
    fun reason hmissing => ⟨?_, fun hsilent => ?_⟩, fun r r' =>
    ⟨Reason.regrouped_iff_voices_eq, fun h => ?_⟩⟩
  · by_contra hnot
    rw [check_of_not_contains registries culture (by simpa using hnot) reason] at hok
    cases hok
  · intro before voice after message hvoices hbefore hanswer
    have hfirst : (Reason.voicesOf reason.toList).findSome? (·.answer registries code culture) =
        some message :=
      List.findSome?_eq_some_iff.2 ⟨before, voice, after, hvoices, hanswer, hbefore⟩
    rw [check_of_not_contains registries culture hmissing reason, hfirst, Option.getD_some]
  · have hnone := List.findSome?_eq_none_iff.2 hsilent
    rw [check_of_not_contains registries culture hmissing reason, hnone, Option.getD_none,
      Denial.defaultMessage, if_pos rfl]
  · have hanswer : r.answer registries code culture = r'.answer registries code culture := by
      rw [Reason.answer_eq, Reason.answer_eq, Reason.regrouped_iff_voices_eq.1 h]
    simp only [check, Option.bind_some, hanswer]

/-- A provider for one culture, and behind it one that asks the registry of all before it repeats
the code. -/
def nested : Reason :=
  .chain [.chain [.silent, .template "refuse" (some "fr-FR")], .chain [],
    .chain [.registry "global", .custom fun code _ => some code]]

/-- The same providers in one chain. -/
def flat : Reason :=
  .chain [.silent, .template "refuse" (some "fr-FR"), .registry "global",
    .custom fun code _ => some code]

/-- A viewer from elsewhere is refused to edit in the words of the registry, which knows the code in
another spelling, whether the providers are nested or not; and in plain words if there is none. -/
theorem refused_by_registry :
    let viewer := readOnlyOfCodes [⟨"view"⟩]
    let registries : Registries := fun _ => Registry.empty.register ⟨⟨"EDIT"⟩, "Editing", none⟩
    let words : Denial := ⟨"edit", "access denied: permission 'Editing' (edit) is required"⟩
    viewer.check registries (some nested) "edit" (some "de-DE") = .error words ∧
    viewer.check registries (some flat) "edit" (some "de-DE") = .error words ∧
    viewer.check registries none "edit" (some "de-DE") =
      .error ⟨"edit", "access denied: permission 'edit' is required"⟩ := by
  intro viewer registries words
  have hmissing : viewer.contains "edit" = false := by decide +kernel
  obtain ⟨-, hdenied, hgrouping⟩ :=
    denials_carry_first_answer viewer registries "edit" (some "de-DE")
  have hnested : viewer.check registries (some nested) "edit" (some "de-DE") = .error words := by
    have hfirst := (hdenied (some nested) hmissing).1
      [_, _] (.registry "global") [_] words.message rfl
    exact hfirst (by decide +kernel) (by decide +kernel)
  have hregrouped : nested.Regrouped flat := (hgrouping nested flat).1.2 rfl
  refine ⟨hnested, ?_, ?_⟩
  · rw [← (hgrouping nested flat).2 hregrouped]
    exact hnested
  · exact (hdenied none hmissing).2 (by intro v hv; cases hv)

end PermissionSet

end Gatehouse
