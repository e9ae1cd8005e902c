/-
Sessions that are granted kinds.

A kind is checked by a text: its code, or its path if it has none.  For a session that was
granted the codes of some kinds, and nothing else, the question is when that text is one of
the codes, in upper case.  It is for no other kind than the one that the code belongs to
(`upper_codeOfKind_eq_iff`), whether the kind stands above or below it or elsewhere.  Codes
are their own upper case and name one kind only, so two of them are never mixed up; and a
path is never mixed up with a code, since there are colons in it, which upper case leaves
and which no code has.

The rights of a session are those it was made with, so this holds of it at any later time.
-/
import Gatehouse.Proofs.House.Rights
import Gatehouse.Proofs.Permission.Identity
import Gatehouse.Proofs.Permission.KindTree
import Mathlib.Data.List.Infix

namespace Gatehouse

/-! ### What a kind is checked by -/

theorem Text.Hex.digit_ne_colon : ∀ n < 16, digit n ≠ ':' := by decide

namespace Kind

variable {F : Set Kind} {k g : Kind} {c : Code}

/-- A code is made of hexadecimal digits and points. -/
theorem colon_not_mem_code (h : k.code = some c) : ':' ∉ c.text.toList := by
  intro hcolon
  rw [(code_eq_some_iff.1 h).2] at hcolon
  rcases mem_joinPoints hcolon with hpoint | ⟨s, hs, hmem⟩
  · cases hpoint
  · obtain ⟨a, -, rfl⟩ := List.mem_map.1 hs
    obtain ⟨n, hn, hdigit⟩ := Text.Hex.exists_digit_of_mem hmem
    exact Text.Hex.digit_ne_colon n hn hdigit.symm

/-- A colon stays what it is in upper case. -/
theorem colon_mem_upper_path (h : [':', ':'] <:+: k.path.toList) :
    ':' ∈ (Text.upper k.path).toList := by
  rw [Text.toList_upper, List.mem_flatMap]
  exact ⟨':', h.subset (by simp), by decide⟩

/-- **What a kind is checked by is, in upper case, the code of no other kind.** -/
theorem upper_codeOfKind_eq_iff (hF : Family F) (hk : k ∈ F) (hpath : [':', ':'] <:+: k.path.toList)
    (hg : g ∈ F) (hc : g.code = some c) : Text.upper (Checker.codeOfKind k) = c.text ↔ k = g := by
  unfold Checker.codeOfKind
  cases hkc : k.code with
  | none =>
    refine ⟨fun h => ?_, fun h => ?_⟩
    · have hcolon := colon_mem_upper_path hpath
      rw [h] at hcolon
      exact absurd hcolon (colon_not_mem_code hc)
    · rw [← h, hkc] at hc
      cases hc
  | some d =>
    have hupper : Text.upper d.text = d.text := normalized_code hkc
    dsimp only
    rw [hupper]
    refine ⟨fun h => ?_, fun h => ?_⟩
    · obtain rfl : d = c := congrArg Code.mk h
      exact eq_of_code hF hk hg hkc hc
    · rw [← h, hkc] at hc
      rw [Option.some.inj hc]

end Kind

/-! ### Sets of the codes of kinds -/

namespace PermissionSet

variable {granted : List Kind}

/-- Of the codes of kinds none is taken for another spelling of another. -/
theorem mem_codes_ofCodes_kinds {c : Code} :
    c ∈ (ofCodes (granted.filterMap Kind.code)).codes ↔ ∃ g ∈ granted, g.code = some c := by
  have hnormal : ∀ d ∈ granted.filterMap Kind.code, d.normalized = d.text := by
    intro d hd
    obtain ⟨g, -, hg⟩ := List.mem_filterMap.1 hd
    exact Kind.normalized_code hg
  rw [← List.mem_filterMap, codes, Catalog.mem_items_iff]
  show (Catalog.addAll ∅ (granted.filterMap Kind.code)).get? c.normalized = some c ↔ _
  rw [Catalog.get?_addAll, Catalog.get?_empty, Option.none_or]
  refine ⟨List.mem_of_find?_eq_some, fun hc => ?_⟩
  cases hfound : (granted.filterMap Kind.code).find? fun d => d.normalized == c.normalized with
  | none =>
    have habsent := List.find?_eq_none.1 hfound c hc
    exact absurd (beq_self_eq_true _) habsent
  | some d =>
    have hd := List.mem_of_find?_eq_some hfound
    have hform : d.normalized = c.normalized := by simpa using List.find?_some hfound
    rw [hnormal d hd, hnormal c hc] at hform
    exact congrArg (some ∘ Code.mk) hform

/-- A set of the codes of some kinds has what another kind is checked by only if the kind is one of
them. -/
theorem contains_codeOfKind_iff {F : Set Kind} (hF : Kind.Family F) {rights : PermissionSet}
    (hcodes : ∀ c, c ∈ rights.codes ↔ ∃ g ∈ granted, g.code = some c)
    (hgranted : ∀ g ∈ granted, g ∈ F ∧ g.code.isSome = true) {k : Kind} (hk : k ∈ F)
    (hpath : [':', ':'] <:+: k.path.toList) :
    rights.contains (Checker.codeOfKind k) = true ↔ k ∈ granted := by
  rw [contains_iff, Catalog.forms_eq, List.mem_map]
  refine ⟨?_, fun h => ?_⟩
  · rintro ⟨c, hc, hform⟩
    obtain ⟨g, hg, hgc⟩ := (hcodes c).1 hc
    rw [Kind.normalized_code hgc] at hform
    rw [(Kind.upper_codeOfKind_eq_iff hF hk hpath (hgranted g hg).1 hgc).1 hform.symm]
    exact hg
  · obtain ⟨c, hc⟩ := Option.isSome_iff_exists.1 (hgranted k h).2
    refine ⟨c, (hcodes c).2 ⟨k, h, hc⟩, ?_⟩
    rw [Kind.normalized_code hc, (Kind.upper_codeOfKind_eq_iff hF hk hpath hk hc).2 rfl]

end PermissionSet

/-! ### Checks of kinds -/

theorem Checker.checkKind_of_session {checker : Checker} {around : Surroundings} {s : Session}
    (h : around.active = .session s) (hs : s.isEmpty = false) (k : Kind) :
    checker.checkKind around k =
      if s.permissions.contains (codeOfKind k) = true then .ok ()
      else .error (.denied (checker.denial around.registries (codeOfKind k) s.knownCulture)) := by
  unfold checkKind
  rw [check_eq_checkAny, checkAny_of_session h hs, checkAnyOf_eq]
  simp

namespace House

variable {h : House}

/-- A session that was made stands for somebody and keeps what it was granted. -/
theorem granted_of_made (hp : Peopled h) {st : Step} {r : SessionRef} {rights : PermissionSet}
    (hmade : h.made st = some r) (hrights : st.granted = some rights) (after : List Step) :
    (((h.step st).stepAll after).session r).isEmpty = false ∧
      (((h.step st).stepAll after).session r).permissions = rights.snapshot := by
  obtain ⟨granted, hgranted, hpermissions⟩ := permissions_of_made hmade
  obtain ⟨hr, hlength⟩ := length_step_of_made hmade
  have hlt : r < (h.step st).sessions.length := by
    rw [hlength, hr]
    exact Nat.lt_succ_self _
  have hsame := sameOrigin_stepAll (hp.step st).toSound after hlt
  obtain rfl : granted = rights := Option.some.inj (hgranted.symm.trans hrights)
  exact ⟨hsame.isEmpty.trans (somebody_of_made hmade).1, hsame.permissions.trans hpermissions⟩

/-- **A session that was granted the codes of some kinds passes the checks of these kinds and of no
others.**  What stands above or below a kind that was granted is not granted with it, and what is
missed is the code of the kind, or its path if it has none. -/
theorem granted_kinds_alone_pass {F : Set Kind} (hF : Kind.Family F)
    (hpaths : ∀ k ∈ F, [':', ':'] <:+: k.path.toList) (granted : List Kind)
    (hgranted : ∀ g ∈ granted, g ∈ F ∧ g.code.isSome = true) (settings : SessionSettings)
    (now : Instant) (address : AddressSource) (auth : Option AuthModule) (before : List Step)
    (st : Step) (after : List Step) (r : SessionRef) (rights : PermissionSet)
    (hmade : ((fresh settings now address auth).stepAll before).made st = some r)
    (hrights : st.granted = some rights)
    (hcodes : ∀ c, c ∈ rights.codes ↔ ∃ g ∈ granted, g.code = some c) (checker : Checker)
    (outer : List (Scope SessionRef)) :
    let h := (fresh settings now address auth).stepAll (before ++ st :: after)
    let around := h.surroundings (.session r :: outer)
    (∀ k ∈ F, (checker.checkKind around k = .ok () ↔ k ∈ granted) ∧
      (k ∉ granted → ∃ message, checker.checkKind around k =
        .error (.denied ⟨(k.code.map Code.text).getD k.path, message⟩))) ∧
    (∀ k ∈ F, ∀ l ∈ F, l.isSubkindOf k = true →
      (k ∈ granted → l ∉ granted → checker.checkKind around l ≠ .ok ()) ∧
      (l ∈ granted → k ∉ granted → checker.checkKind around k ≠ .ok ())) := by
  intro h around
  have hp := (peopled_fresh settings now address auth).stepAll before
  have hh : h = (((fresh settings now address auth).stepAll before).step st).stepAll after :=
    stepAll_append _ _ _
  obtain ⟨hsomebody, hpermissions⟩ := granted_of_made hp hmade hrights after
  rw [← hh] at hsomebody hpermissions
  have hactive : around.active = .session (h.session r) := rfl
  have hcontains : ∀ k ∈ F,
      (h.session r).permissions.contains (Checker.codeOfKind k) = true ↔ k ∈ granted := by
    intro k hk
    rw [hpermissions]
    exact PermissionSet.contains_codeOfKind_iff hF hcodes hgranted hk (hpaths k hk)
  have hcheck : ∀ k ∈ F, checker.checkKind around k = .ok () ↔ k ∈ granted := by
    intro k hk
    rw [Checker.checkKind_of_session hactive hsomebody, ← hcontains k hk]
    by_cases hheld : (h.session r).permissions.contains (Checker.codeOfKind k) = true
    · simp [hheld]
    · simp [hheld]
  refine ⟨fun k hk => ⟨hcheck k hk, fun hnot => ?_⟩, fun k hk l hl _ => ⟨?_, ?_⟩⟩
  · have hmissing : ¬ (h.session r).permissions.contains (Checker.codeOfKind k) = true :=
      fun hheld => hnot ((hcontains k hk).1 hheld)
    rw [Checker.checkKind_of_session hactive hsomebody, if_neg hmissing, ← Checker.codeOfKind_eq]
    exact ⟨_, rfl⟩
  · exact fun _ hnot hok => hnot ((hcheck l hl).1 hok)
  · exact fun _ hnot hok => hnot ((hcheck k hk).1 hok)

/-- Who was granted orders may not grant refunds, though that stands under orders, and has no say over
the group in between, which is missed by its path. -/
theorem orders_without_refunds :
    let orders := Kind.under .permissionRoot "shop::Orders" "Orders" none true
    let refunds := Kind.grouping orders "shop::Refunds" "Refunds"
    let grant := Kind.under refunds "shop::GrantRefund" "Grant a refund" none true
    let kinds := [Kind.permissionRoot, orders, refunds, grant]
    let request : LoginRequest :=
      ⟨1, "ada", none, .ofCodes ([orders].filterMap Kind.code), "", none, "", none⟩
    let st : Step := .event (.create ⟨3, 1, by decide, by decide⟩ request)
    let start := fresh .default .epoch (.fixed "here") none
    let around := (start.stepAll [st, .event (.use 1 .refresh)]).surroundings [.session 1]
    Kind.Family {k | k ∈ kinds} ∧ (∀ k ∈ kinds, [':', ':'] <:+: k.path.toList) ∧
    (∀ g ∈ [orders], g ∈ kinds ∧ g.code.isSome = true) ∧ start.made st = some 1 ∧
    Checker.default.checkKind around orders = .ok () ∧
    (∃ message, Checker.default.checkKind around refunds =
      .error (.denied ⟨"shop::Refunds", message⟩)) ∧
    Checker.default.checkKind around grant ≠ .ok () := by
  intro orders refunds grant kinds request st start around
  have hfamily : Kind.Family {k | k ∈ kinds} := by
    have hparent : ∀ k ∈ kinds, ∀ p ∈ k.parent, p ∈ kinds := by decide +kernel
    have hpath : ∀ k ∈ kinds, ∀ l ∈ kinds, k.path = l.path → k = l := by decide +kernel
    have hidentity : ∀ k ∈ kinds, ∀ l ∈ kinds,
        Kind.identityOf k.path = Kind.identityOf l.path → k.path = l.path := by decide +kernel
    exact ⟨fun k hk p hp => hparent k hk p hp, hpath, hidentity⟩
  have hpaths : ∀ k ∈ kinds, [':', ':'] <:+: k.path.toList := by decide +kernel
  have horders : orders ∈ kinds := .tail _ (.head _)
  have hrefunds : refunds ∈ kinds := .tail _ (.tail _ (.head _))
  have hgrant : grant ∈ kinds := .tail _ (.tail _ (.tail _ (.head _)))
  have hgranted : ∀ g ∈ [orders], g ∈ kinds ∧ g.code.isSome = true := by
    intro g hg
    rw [List.mem_singleton.1 hg]
    exact ⟨horders, rfl⟩
  have hmade : start.made st = some 1 := by decide +kernel
  obtain ⟨hchecks, hrelated⟩ := granted_kinds_alone_pass hfamily hpaths [orders] hgranted .default
    .epoch (.fixed "here") none [] st [.event (.use 1 .refresh)] 1 _ hmade rfl
    (fun _ => PermissionSet.mem_codes_ofCodes_kinds) .default []
  refine ⟨hfamily, hpaths, hgranted, hmade, (hchecks orders horders).1.2 (.head _),
    (hchecks refunds hrefunds).2 (by decide), ?_⟩
  exact (hrelated orders horders grant hgrant rfl).1 (.head _) (by decide)

end House

end Gatehouse
