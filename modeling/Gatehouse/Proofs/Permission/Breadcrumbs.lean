/-
The full name of a kind's code names the kinds above it.

A registry writes a code out level by level, and asks itself what each beginning of the
code is called.  The beginnings of a kind's code are written of the identities of the
kinds down to each level, so they belong to the kinds of its descent, one for each
(`prefixes_code`).  What belongs to a kind that was registered belongs to no other that
was, so its level shows its name; and no kind that was registered has what belongs to a
kind that was not, so its level shows the beginning itself, also where the kind has no
code of its own.
-/
import Gatehouse.Proofs.Permission.KindTree
import Gatehouse.Proofs.Permission.KindRegistration

namespace Gatehouse

namespace Kind

variable {F : Set Kind} {k l g : Kind} {c : Code}

/-! ### Codes of descents -/

/-- The text that is written of the identities of kinds. -/
def compound (ls : List Kind) : String := ".".intercalate (ls.map identity)

theorem toList_compound (ls : List Kind) :
    (compound ls).toList = joinPoints (ls.map fun a => a.identity.toList) := by
  rw [compound, String.toList_intercalate, joinPoints_eq_intercalate, List.map_map]
  rfl

theorem text_eq_compound (h : k.code = some c) : c.text = compound k.descent := by
  apply String.toList_inj.1
  rw [toList_compound]
  exact (code_eq_some_iff.1 h).2

theorem upper_compound (ls : List Kind) : Text.upper (compound ls) = compound ls := by
  apply String.toList_inj.1
  rw [Text.toList_upper, toList_compound]
  exact Text.flatMap_upperChar_eq_self fun ch hch => upperChar_joined hch

/-- The kinds on the way down to a level of a descent are the descent up to there. -/
theorem descent_of_getElem? {i : Nat} (h : k.descent[i]? = some l) :
    l.descent = k.descent.take (i + 1) := by
  induction k with
  | root path => cases h
  | under parent path name description identifiable ih =>
    rw [descent] at h ⊢
    by_cases hi : i < parent.descent.length
    · rw [List.getElem?_append_left hi] at h
      rw [ih h, List.take_append_of_le_length hi]
    · rw [List.getElem?_append_right (Nat.le_of_not_lt hi), List.getElem?_singleton] at h
      have hlast : i - parent.descent.length = 0 := by
        by_contra hne
        rw [if_neg hne] at h
        cases h
      rw [if_pos hlast, Option.some.injEq] at h
      rw [← h, descent, List.take_of_length_le]
      rw [List.length_append, List.length_singleton]
      omega

/-- The beginnings of what is written of a descent are written of the descents of its kinds. -/
theorem pointPrefixes_pieces (h : k.descent ≠ []) :
    pointPrefixes (joinPoints k.pieces) = k.descent.map fun l => joinPoints l.pieces := by
  induction k with
  | root path => exact absurd rfl h
  | under parent path name description identifiable ih =>
    have hpieces : (under parent path name description identifiable).pieces =
        parent.pieces ++ [(identityOf path).toList] := by
      rw [pieces, descent, List.map_append]
      rfl
    have hlast : pointPrefixes (joinPoints [(identityOf path).toList]) =
        [(identityOf path).toList] :=
      pointPrefixes_of_not_mem fun hpoint => (Text.Hex.encode_plain hpoint).1 rfl
    rw [descent, List.map_append, List.map_singleton, hpieces]
    by_cases htop : parent.descent = []
    · have hnone : parent.pieces = [] := by rw [pieces, htop, List.map_nil]
      rw [hnone, htop]
      exact hlast
    · have hsome : parent.pieces ≠ [] := by simpa [pieces] using htop
      rw [joinPoints_append hsome (List.cons_ne_nil _ _), pointPrefixes_append_point, ih htop, hlast]
      rfl

/-- The beginnings of a kind's code belong to the kinds of its descent. -/
theorem prefixes_code (h : k.code = some c) :
    c.prefixes = k.descent.map fun l => ⟨compound l.descent⟩ := by
  have htext : c.text.toList = joinPoints k.pieces := (code_eq_some_iff.1 h).2
  rw [Code.prefixes_eq, htext, pointPrefixes_pieces (descent_ne_nil h), List.map_map]
  refine List.map_congr_left fun l _ => ?_
  show (⟨String.ofList (joinPoints l.pieces)⟩ : Code) = ⟨compound l.descent⟩
  rw [pieces, ← toList_compound, String.ofList_toList]

/-- What belongs to a kind is the code of no other. -/
theorem text_eq_compound_iff (hF : Family F) (hg : g ∈ F) (hl : l ∈ F) (hgc : g.code = some c) :
    c.text = compound l.descent ↔ g = l := by
  refine ⟨?_, ?_⟩
  · intro htext
    have hjoined : c.text.toList = joinPoints l.pieces := by
      rw [htext, toList_compound]
      rfl
    have hsome : l.pieces ≠ [] := by
      intro hnil
      rw [hnil] at hjoined
      exact text_ne_nil hgc hjoined
    rw [← pieces_eq_iff hF hg hl (descent_ne_nil hgc), ← splitPoints_code hgc, hjoined,
      splitPoints_pieces hsome]
  · rintro rfl
    exact text_eq_compound hgc

end Kind

namespace Registry

variable {F : Set Kind} {K : List Kind} {r : Registry} {n : Nat} {k l : Kind} {c : Code}

/-! ### What a level shows -/

/-- What is listed for what belongs to a kind describes that kind, which was registered. -/
theorem described_of_form_eq (hF : Kind.Family F) (hK : ∀ g ∈ K, g ∈ F) (hr : Enrolls ∅ K r n)
    (hl : l ∈ F) {d : Descriptor} (hd : d ∈ r.toList)
    (hform : d.form = Text.upper (Kind.compound l.descent)) : l ∈ K ∧ d.name = l.name := by
  obtain ⟨-, g, hg, hcode, hname, -⟩ := hr.brings d hd (List.not_mem_nil)
  have hgK : g ∈ K := List.mem_of_find?_eq_some hg
  rw [Descriptor.form, Kind.normalized_code hcode, Kind.upper_compound,
    Kind.text_eq_compound_iff hF (hK g hgK) hl hcode] at hform
  rw [← hform]
  exact ⟨hgK, hname⟩

/-- A level shows the name of its kind if the kind was registered, and else what belongs to it. -/
theorem name_get_compound (hF : Kind.Family F) (hK : ∀ g ∈ K, g ∈ F ∧ g.code.isSome = true)
    (hr : Enrolls ∅ K r n) (hl : l ∈ F) : (r.get (Kind.compound l.descent)).name =
      if l ∈ K then l.name else Kind.compound l.descent := by
  have hmem : ∀ g ∈ K, g ∈ F := fun g hg => (hK g hg).1
  by_cases hlK : l ∈ K
  · obtain ⟨c, hc⟩ := Option.isSome_iff_exists.1 (hK l hlK).2
    have hthere := hr.contains l hlK c hc
    rw [Kind.text_eq_compound hc] at hthere
    obtain ⟨d, hd, hform⟩ := contains_iff.1 hthere
    rw [if_pos hlK, get_of_mem hd hform]
    exact (described_of_form_eq hF hmem hr hl hd hform).2
  · have habsent : ∀ d ∈ r.toList, d.form ≠ Text.upper (Kind.compound l.descent) :=
      fun d hd hform => hlK (described_of_form_eq hF hmem hr hl hd hform).1
    rw [if_neg hlK, get_of_absent habsent]
    rfl

theorem fullName_code (r : Registry) (hc : k.code = some c) : r.fullName c.text =
    ".".intercalate (k.descent.map fun l => (r.get (Kind.compound l.descent)).name) := by
  have hpoint : ".".toList = ['.'] := rfl
  apply String.toList_inj.1
  rw [fullName, String.toList_ofList, Kind.prefixes_code hc, joinPoints_eq_intercalate,
    String.toList_intercalate, hpoint, List.map_map, List.map_map]
  rfl

/-- **Once kinds are registered, the full name of a kind's code names every level of its lineage**:
by its name if it was registered, and otherwise by the code that is written down to it. -/
theorem fullName_names_lineage (hF : Kind.Family F)
    (hK : ∀ g ∈ K, g ∈ F ∧ g.code.isSome = true) :
    ∃ r n, (∅ : Registry).registerKinds K = .ok (r, n) ∧
      ∀ k ∈ F, ∀ c, k.code = some c → r.fullName c.text = ".".intercalate
        (k.lineage.mapIdx fun i l =>
          if l ∈ K then l.name else Kind.compound (k.lineage.take (i + 1))) := by
  refine ⟨_, _, registerKinds_of_coded ∅ fun g hg => (hK g hg).2, ?_⟩
  intro k hk c hc
  have hr := enrolls_registerCounting ∅ K
  rw [fullName_code _ hc, Kind.lineage_of_identifiable (Kind.code_eq_some_iff.1 hc).1.1]
  congr 1
  refine (List.mapIdx_eq_iff.2 fun i => ?_).symm
  rw [List.getElem?_map]
  cases hlevel : k.descent[i]? with
  | none => rfl
  | some l =>
    have hl : l ∈ F := Kind.descent_subset hF hk l (List.mem_of_getElem? hlevel)
    rw [Option.map_some, Option.map_some, name_get_compound hF hK hr hl,
      ← Kind.descent_of_getElem? hlevel]

/-- A level that only groups shows the code down to it. -/
theorem grouping_shows_code :
    let orders : Kind := .under .permissionRoot "shop::Orders" "Orders" none true
    let refunds : Kind := .grouping orders "shop::Refunds" "Refunds"
    let grant : Kind := .under refunds "shop::GrantRefund" "Grant a refund" none true
    let kinds := [.permissionRoot, orders, refunds, grant]
    Kind.Family {k | k ∈ kinds} ∧ (∀ g ∈ [grant, orders], g ∈ kinds ∧ g.code.isSome = true) ∧
      ∃ r n c, (∅ : Registry).registerKinds [grant, orders] = .ok (r, n) ∧ grant.code = some c ∧
        r.fullName c.text =
          ".".intercalate ["Orders", Kind.compound [orders, refunds], "Grant a refund"] := by
  intro orders refunds grant kinds
  have hfamily : Kind.Family {k | k ∈ kinds} := by
    have hparent : ∀ k ∈ kinds, ∀ p ∈ k.parent, p ∈ kinds := by decide +kernel
    have hpath : ∀ k ∈ kinds, ∀ l ∈ kinds, k.path = l.path → k = l := by decide +kernel
    have hidentity : ∀ k ∈ kinds, ∀ l ∈ kinds,
        Kind.identityOf k.path = Kind.identityOf l.path → k.path = l.path := by decide +kernel
    exact ⟨fun k hk p hp => hparent k hk p hp, hpath, hidentity⟩
  have hcoded : ∀ g ∈ [grant, orders], g ∈ kinds ∧ g.code.isSome = true := by decide +kernel
  have hgrant := hcoded grant (.head _)
  obtain ⟨r, n, hdone, hnames⟩ := fullName_names_lineage hfamily hcoded
  obtain ⟨c, hc⟩ := Option.isSome_iff_exists.1 hgrant.2
  refine ⟨hfamily, hcoded, r, n, c, hdone, hc, ?_⟩
  have hlevels : (grant.lineage.mapIdx fun i l =>
      if l ∈ [grant, orders] then l.name else Kind.compound (grant.lineage.take (i + 1))) =
      ["Orders", Kind.compound [orders, refunds], "Grant a refund"] := by
    decide +kernel
  rw [hnames grant hgrant.1 c hc, hlevels]

end Registry

end Gatehouse
