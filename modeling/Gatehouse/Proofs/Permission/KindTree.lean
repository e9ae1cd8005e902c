/-
The tree of kinds and the hierarchy of their codes.

A code is written from the lineage of its kind, the kinds from below the root down to it
(`descent`).  So codes are compared where descents are: a kind stands above another one if
its descent is a beginning of the other's, and then its code, with a point after it, is a
beginning of the other's code.

To come back from codes to kinds, a code has to show its pieces, and the pieces have to
show their kinds.  The first is so because identities are made of hexadecimal digits,
which are no points and are their own upper case, whatever the digest gives.  The second
has to be supposed (`Family`): that no two paths have one identity, and no two kinds one
path.
-/
import Gatehouse.Permission.Kind
import Gatehouse.Proofs.Permission.Points
import Gatehouse.Proofs.Text.Uppercase
import Mathlib.Data.Set.Defs

namespace Gatehouse

/-! ### Identities -/

theorem Text.Hex.digit_plain : ∀ n < 16, digit n ≠ '.' ∧ upperChar (digit n) = [digit n] := by
  decide

theorem Text.Hex.exists_digit_of_mem {bytes : List UInt8} {c : Char}
    (h : c ∈ (encode bytes).toList) : ∃ n < 16, c = digit n := by
  rw [encode, String.toList_ofList, List.mem_flatMap] at h
  obtain ⟨b, -, hc⟩ := h
  have hb : b.toNat < 256 := b.toNat_lt
  simp only [ofByte, List.mem_cons, List.not_mem_nil, or_false] at hc
  rcases hc with rfl | rfl
  · exact ⟨b.toNat / 16, by omega, rfl⟩
  · exact ⟨b.toNat % 16, by omega, rfl⟩

/-- What is written in hexadecimal has no points and is its own upper case. -/
theorem Text.Hex.encode_plain {bytes : List UInt8} {c : Char} (h : c ∈ (encode bytes).toList) :
    c ≠ '.' ∧ upperChar c = [c] := by
  obtain ⟨n, hn, rfl⟩ := exists_digit_of_mem h
  exact digit_plain n hn

namespace Kind

theorem identity_plain {k : Kind} {c : Char} (h : c ∈ k.identity.toList) :
    c ≠ '.' ∧ Text.upperChar c = [c] :=
  Text.Hex.encode_plain h

theorem identity_ne_nil (k : Kind) : k.identity.toList ≠ [] := by
  have hlength : k.identity.length = 16 := by
    rw [identity, identityOf, Text.Hex.length_encode, List.length_take, length_sha256]
    rfl
  intro h
  rw [← String.length_toList, h] at hlength
  cases hlength

/-! ### The tree -/

/-- Where the chain of parents ends. -/
def top : Kind → Kind
  | .root path => .root path
  | .under parent _ _ _ _ => parent.top

/-- How many kinds there are from below the root down to this one. -/
def level : Kind → Nat
  | .root _ => 0
  | .under parent _ _ _ _ => parent.level + 1

/-- Kinds among which a path names a kind and an identity names a path, with all that stands above
them. -/
structure Family (F : Set Kind) : Prop where
  /-- What a kind stands under is in the family. -/
  parent_mem : ∀ k ∈ F, ∀ p, k.parent = some p → p ∈ F
  /-- No two kinds have one path. -/
  of_path : ∀ k ∈ F, ∀ l ∈ F, k.path = l.path → k = l
  /-- No two paths have one identity. -/
  of_identity : ∀ k ∈ F, ∀ l ∈ F, identityOf k.path = identityOf l.path → k.path = l.path

theorem descendsFromRoot_under (parent : Kind) (path name : String) (description : Option String)
    (identifiable : Bool) :
    (under parent path name description identifiable).descendsFromRoot = true ↔
      parent.top = permissionRoot := by
  induction parent generalizing path name description identifiable with
  | root rootPath => simp [descendsFromRoot, isPermissionRoot, top, permissionRoot]
  | under parent path' name' description' identifiable' ih =>
    have hstep : (under (under parent path' name' description' identifiable') path name description
          identifiable).descendsFromRoot =
        (under parent path' name' description' identifiable').descendsFromRoot := rfl
    rw [hstep, ih path' name' description' identifiable']
    rfl

/-- The kinds with codes are the identifiable ones below the permission root. -/
theorem isSome_code (k : Kind) :
    k.code.isSome = true ↔ k.identifiable = true ∧ k.top = permissionRoot := by
  cases k with
  | root path => simp [code, identifiable]
  | under parent path name description identifiable =>
    rw [top, ← descendsFromRoot_under parent path name description identifiable]
    unfold code
    split
    · rename_i h
      simpa using h
    · rename_i h
      simpa using h

theorem length_descent (k : Kind) : k.descent.length = k.level := by
  induction k with
  | root path => rfl
  | under parent path name description identifiable ih =>
    rw [descent, List.length_append, ih]
    rfl

theorem descent_subset {F : Set Kind} (hF : Family F) {k : Kind} (hk : k ∈ F) :
    ∀ a ∈ k.descent, a ∈ F := by
  induction k with
  | root path =>
    intro a ha
    cases ha
  | under parent path name description identifiable ih =>
    intro a ha
    rcases List.mem_append.1 ha with habove | hself
    · exact ih (hF.parent_mem _ hk parent rfl) a habove
    · rw [List.mem_singleton.1 hself]
      exact hk

/-- A descent that is not empty ends with its kind. -/
theorem eq_of_descent_eq {k l : Kind} (hk : k.descent ≠ []) (h : k.descent = l.descent) : k = l := by
  cases k with
  | root path => exact absurd rfl hk
  | under parent path name description identifiable =>
    cases l with
    | root path' => exact absurd h (by simp [descent])
    | under parent' path' name' description' identifiable' =>
      rw [descent, descent] at h
      exact (List.cons.inj (List.append_inj' h rfl).2).1

/-- A kind stands above another one if its descent is a beginning of the other's. -/
theorem descent_prefix_iff {F : Set Kind} (hF : Family F) {k l : Kind} (hk : k ∈ F) (hl : l ∈ F)
    (hroot : k.descent ≠ []) :
    k.descent <+: l.descent ↔ k = l ∨ l.isSubkindOf k = true := by
  induction l with
  | root path =>
    have hne : k ≠ .root path := by
      intro heq
      rw [heq] at hroot
      exact hroot rfl
    simp [descent, isSubkindOf, hroot, hne]
  | under parent path name description identifiable ih =>
    have hparent : parent ∈ F := hF.parent_mem _ hl parent rfl
    have hpath : (parent.path == k.path) = true ↔ k = parent := by
      rw [beq_iff_eq]
      exact ⟨fun h => hF.of_path k hk parent hparent h.symm, fun h => by rw [h]⟩
    rw [descent, List.prefix_concat_iff, ih hparent, isSubkindOf, Bool.or_eq_true, hpath]
    refine or_congr_left ?_
    exact ⟨fun h => eq_of_descent_eq hroot h, fun h => by rw [h]; rfl⟩

theorem level_lt_of_isSubkindOf {F : Set Kind} (hF : Family F) {k l : Kind} (hk : k ∈ F)
    (hl : l ∈ F) (h : l.isSubkindOf k = true) : k.level < l.level := by
  induction l with
  | root path => cases h
  | under parent path name description identifiable ih =>
    have hparent : parent ∈ F := hF.parent_mem _ hl parent rfl
    have hlevel : (under parent path name description identifiable).level = parent.level + 1 := rfl
    rw [isSubkindOf, Bool.or_eq_true, beq_iff_eq] at h
    rcases h with hpath | habove
    · rw [hF.of_path k hk parent hparent hpath.symm, hlevel]
      omega
    · have := ih hparent habove
      omega

/-! ### Codes and their pieces -/

/-- The pieces of the kind's code, if it has one. -/
def pieces (k : Kind) : List (List Char) := k.descent.map fun a => a.identity.toList

/-- A kind that can have a code is no root. -/
theorem lineage_of_identifiable {k : Kind} (h : k.identifiable = true) : k.lineage = k.descent := by
  cases k with
  | root path => cases h
  | under parent path name description identifiable => rfl

theorem code_eq_some_iff {k : Kind} {c : Code} : k.code = some c ↔
    (k.identifiable = true ∧ k.descendsFromRoot = true) ∧ c.text.toList = joinPoints k.pieces := by
  unfold code pieces
  by_cases h : k.identifiable = true ∧ k.descendsFromRoot = true
  · rw [if_pos (by simpa using h), lineage_of_identifiable h.1, Option.some.injEq]
    refine ⟨?_, ?_⟩
    · rintro rfl
      exact ⟨h, String.toList_ofList⟩
    · rintro ⟨-, htext⟩
      rw [← htext, String.ofList_toList]
  · rw [if_neg (by simpa using h)]
    simp [h]

theorem splitPoints_pieces {k : Kind} (h : k.pieces ≠ []) :
    splitPoints (joinPoints k.pieces) = k.pieces := by
  refine splitPoints_joinPoints h fun s hs hpoint => ?_
  obtain ⟨a, -, rfl⟩ := List.mem_map.1 hs
  exact (identity_plain hpoint).1 rfl

/-- Nothing of what is joined of identities changes in upper case. -/
theorem upperChar_joined {ls : List Kind} {ch : Char}
    (h : ch ∈ joinPoints (ls.map fun a => a.identity.toList)) : Text.upperChar ch = [ch] := by
  rcases mem_joinPoints h with rfl | ⟨s, hs, hmem⟩
  · exact Text.upperChar_point
  · obtain ⟨a, -, rfl⟩ := List.mem_map.1 hs
    exact (identity_plain hmem).2

section Coded

variable {k l : Kind} {c d : Code}

theorem descent_ne_nil (h : k.code = some c) : k.descent ≠ [] := by
  obtain ⟨⟨hidentifiable, -⟩, -⟩ := code_eq_some_iff.1 h
  cases k with
  | root path => cases hidentifiable
  | under parent path name description identifiable => simp [descent]

theorem pieces_ne_nil (h : k.code = some c) : k.pieces ≠ [] := by
  have hne := descent_ne_nil h
  simpa [pieces] using hne

theorem splitPoints_code (h : k.code = some c) : splitPoints c.text.toList = k.pieces := by
  rw [(code_eq_some_iff.1 h).2, splitPoints_pieces (pieces_ne_nil h)]

theorem depth_code (h : k.code = some c) : c.depth = k.level := by
  rw [Code.depth, Code.segments, List.length_map, splitPoints_code h, pieces, List.length_map,
    length_descent]

theorem text_ne_nil (h : k.code = some c) : c.text.toList ≠ [] := by
  intro hnil
  have hpieces := splitPoints_code h
  rw [hnil] at hpieces
  have hmem : [] ∈ k.pieces := by
    rw [← hpieces]
    simp [splitPoints]
  obtain ⟨a, -, ha⟩ := List.mem_map.1 hmem
  exact identity_ne_nil a ha

/-- Nothing of a kind's code changes in upper case. -/
theorem upperChar_code (h : k.code = some c) : ∀ ch ∈ c.text.toList, Text.upperChar ch = [ch] := by
  rw [(code_eq_some_iff.1 h).2]
  exact fun ch hch => upperChar_joined hch

theorem normalized_code (h : k.code = some c) : c.normalized = c.text := by
  apply String.toList_inj.1
  rw [Code.normalized, Text.toList_upper, Text.flatMap_upperChar_eq_self (upperChar_code h)]

/-- A kind's code lies under another one's if its pieces go on from the other's. -/
theorem isDescendantOf_iff_pieces (hk : k.code = some c) (hl : l.code = some d) :
    d.isDescendantOf c = true ↔ k.pieces <+: l.pieces ∧ k.pieces ≠ l.pieces := by
  unfold Code.isDescendantOf
  rw [liesUnder_iff]
  refine ⟨?_, ?_⟩
  · rintro ⟨-, head, rest, hd, -, hupper⟩
    have hhead : ∀ ch ∈ head, Text.upperChar ch = [ch] := by
      intro ch hch
      exact upperChar_code hl ch (by rw [hd]; simp [hch])
    rw [Text.flatMap_upperChar_eq_self hhead, Text.flatMap_upperChar_eq_self (upperChar_code hk)] at hupper
    have hpieces := splitPoints_code hl
    rw [hd, splitPoints_append_point, hupper, splitPoints_code hk] at hpieces
    refine ⟨⟨_, hpieces⟩, ?_⟩
    intro heq
    rw [heq] at hpieces
    exact splitPoints_ne_nil rest (List.append_right_eq_self.1 hpieces)
  · rintro ⟨⟨more, hmore⟩, hne⟩
    have hnil : more ≠ [] := by
      rintro rfl
      exact hne (by rw [← hmore, List.append_nil])
    refine ⟨text_ne_nil hk, c.text.toList, joinPoints more, ?_, rfl, rfl⟩
    rw [(code_eq_some_iff.1 hl).2, (code_eq_some_iff.1 hk).2, ← hmore,
      joinPoints_append (pieces_ne_nil hk) hnil]

end Coded

/-! ### Kinds by their pieces -/

theorem map_identity_injective {F : Set Kind} (hF : Family F) {as bs : List Kind}
    (has : ∀ a ∈ as, a ∈ F) (hbs : ∀ b ∈ bs, b ∈ F)
    (h : as.map (fun a => a.identity.toList) = bs.map fun b => b.identity.toList) : as = bs := by
  induction as generalizing bs with
  | nil => exact (List.map_eq_nil_iff.1 h.symm).symm
  | cons a as ih =>
    cases bs with
    | nil => cases h
    | cons b bs =>
      obtain ⟨hhead, htail⟩ := List.cons.inj h
      have ha : a ∈ F := has a (by simp)
      have hb : b ∈ F := hbs b (by simp)
      have hpath := hF.of_identity a ha b hb (String.toList_inj.1 hhead)
      rw [hF.of_path a ha b hb hpath,
        ih (fun x hx => has x (by simp [hx])) (fun x hx => hbs x (by simp [hx])) htail]

theorem pieces_prefix_iff {F : Set Kind} (hF : Family F) {k l : Kind} (hk : k ∈ F) (hl : l ∈ F) :
    k.pieces <+: l.pieces ↔ k.descent <+: l.descent := by
  refine ⟨?_, fun h => h.map _⟩
  rintro ⟨more, hmore⟩
  obtain ⟨as, bs, hsplit, has, -⟩ := List.map_eq_append_iff.1 hmore.symm
  have hsubset : ∀ a ∈ as, a ∈ F := by
    intro a ha
    exact descent_subset hF hl a (by rw [hsplit]; simp [ha])
  rw [hsplit, map_identity_injective hF hsubset (descent_subset hF hk) has]
  exact List.prefix_append _ _

theorem pieces_eq_iff {F : Set Kind} (hF : Family F) {k l : Kind} (hk : k ∈ F) (hl : l ∈ F)
    (hroot : k.descent ≠ []) : k.pieces = l.pieces ↔ k = l := by
  refine ⟨?_, fun h => by rw [h]⟩
  intro h
  exact eq_of_descent_eq hroot
    (map_identity_injective hF (descent_subset hF hk) (descent_subset hF hl) h)

theorem eq_of_code {F : Set Kind} (hF : Family F) {k l : Kind} {c : Code} (hk : k ∈ F) (hl : l ∈ F)
    (hkc : k.code = some c) (hlc : l.code = some c) : k = l := by
  rw [← pieces_eq_iff hF hk hl (descent_ne_nil hkc), ← splitPoints_code hkc, splitPoints_code hlc]

/-- **The tree of kinds and the hierarchy of codes are the same.**  The kinds that have codes are the
identifiable ones below the permission root; a code is as deep as its kind and names no other kind;
and a kind stands below another one if its code lies under the other's, whatever stands between
them. -/
theorem codes_follow_tree {F : Set Kind} (hF : Family F) :
    (∀ k ∈ F, k.code.isSome = true ↔ k.identifiable = true ∧ k.top = permissionRoot) ∧
    (∀ k ∈ F, ∀ c, k.code = some c → c.depth = k.level) ∧
    (∀ k ∈ F, ∀ l ∈ F, k.code.isSome = true → (k.code = l.code ↔ k = l)) ∧
    (∀ k ∈ F, ∀ l ∈ F, ∀ c d, k.code = some c → l.code = some d →
      (l.isSubkindOf k = true ↔ d.isDescendantOf c = true)) := by
  refine ⟨?_, ?_, ?_, ?_⟩
  · intro k _
    exact isSome_code k
  · intro k _ c hc
    exact depth_code hc
  · intro k hk l hl hsome
    obtain ⟨c, hc⟩ := Option.isSome_iff_exists.1 hsome
    refine ⟨?_, fun h => by rw [h]⟩
    intro h
    rw [← pieces_eq_iff hF hk hl (descent_ne_nil hc), ← splitPoints_code hc,
      splitPoints_code (h.symm.trans hc)]
  · intro k hk l hl c d hc hd
    have hroot := descent_ne_nil hc
    rw [isDescendantOf_iff_pieces hc hd, pieces_prefix_iff hF hk hl, ne_eq,
      pieces_eq_iff hF hk hl hroot, descent_prefix_iff hF hk hl hroot]
    refine ⟨?_, ?_⟩
    · intro h
      refine ⟨.inr h, ?_⟩
      rintro rfl
      exact Nat.lt_irrefl _ (level_lt_of_isSubkindOf hF hk hl h)
    · rintro ⟨heq | h, hne⟩
      · exact absurd heq hne
      · exact h

/-- The code of a kind in a group lies under the code of the kind that the group stands under. -/
theorem grouped_code_lies_under :
    let orders := under permissionRoot "shop::Orders" "Orders" none true
    let refunds := grouping orders "shop::Refunds" "Refunds"
    let grant := under refunds "shop::GrantRefund" "Grant a refund" (some "Gives money back") true
    let foreign := under (root "other::Root") "other::Thing" "Thing" none true
    let kinds := [permissionRoot, orders, refunds, grant, root "other::Root", foreign]
    Family {k | k ∈ kinds} ∧ refunds.code = none ∧ foreign.code = none ∧
    ∃ c d, orders.code = some c ∧ grant.code = some d ∧ c.depth = 1 ∧ d.depth = 3 ∧
      d.isDescendantOf c = true ∧ c.isDescendantOf d = false := by
  intro orders refunds grant foreign kinds
  have hfamily : Family {k | k ∈ kinds} := by
    have hparent : ∀ k ∈ kinds, ∀ p ∈ k.parent, p ∈ kinds := by decide +kernel
    have hpath : ∀ k ∈ kinds, ∀ l ∈ kinds, k.path = l.path → k = l := by decide +kernel
    have hidentity : ∀ k ∈ kinds, ∀ l ∈ kinds,
        identityOf k.path = identityOf l.path → k.path = l.path := by decide +kernel
    exact ⟨fun k hk p hp => hparent k hk p hp, hpath, hidentity⟩
  have horders : orders ∈ kinds := .tail _ (.head _)
  have hgrant : grant ∈ kinds := .tail _ (.tail _ (.tail _ (.head _)))
  obtain ⟨hsome, hdepth, -, hunder⟩ := codes_follow_tree hfamily
  obtain ⟨c, hc⟩ := Option.isSome_iff_exists.1 ((hsome orders horders).2 ⟨rfl, rfl⟩)
  obtain ⟨d, hd⟩ := Option.isSome_iff_exists.1 ((hsome grant hgrant).2 ⟨rfl, rfl⟩)
  refine ⟨hfamily, rfl, rfl, c, d, hc, hd, hdepth orders horders c hc, hdepth grant hgrant d hd,
    (hunder orders horders grant hgrant c d hc hd).1 rfl, ?_⟩
  rw [Bool.eq_false_iff, ne_eq, ← hunder grant hgrant orders horders d c hd hc]
  decide

end Kind

end Gatehouse
