/-
What a session may do.

The house keeps the permissions of a session as a value.  In the program they are an object
of the session's own, to which anybody can get a reference, and which shares what it holds
with the set that the session was granted.  A scene is a house together with the objects: it
has the sets of the program, and for each session the reference to its own.

Two things are shown of a scene, deed by deed.  What the house keeps is what the object
shows (`Aligned`), so nothing is lost by keeping a value; this needs that the object refuses
to change, that a change of any other object does not show in it, and that it is not dropped.
And it is what was granted at the moment at which the session was made (`Rightful`).  The
rights that are written down for that moment do not depend on what happens later, to the
granted set or to anything else.
-/
import Gatehouse.Proofs.Access.DecisionTable
import Gatehouse.Proofs.House.Making
import Gatehouse.Proofs.Permission.Sharing

namespace Gatehouse

/-! ### Checks of a session -/

namespace Checker

variable (c : Checker) (registries : Registries) {s : Session}

theorem checkSession_eq_ok_iff (hs : s.isEmpty = false) (code : String) :
    c.checkSession registries s code = .ok () ↔ s.permissions.contains code = true := by
  have hcheck : c.checkSession registries s code =
      c.checkSet registries s.permissions code s.knownCulture := by
    unfold checkSession requireLoggedOn
    rw [hs]
    rfl
  rw [hcheck, checkSet_eq]
  by_cases hcode : s.permissions.contains code = true
  · simp [hcode]
  · simp [hcode]

theorem checkSession_of_isEmpty (hs : s.isEmpty = true) (code : String) :
    c.checkSession registries s code = .error .notLoggedOn := by
  unfold checkSession requireLoggedOn
  rw [if_pos hs]
  rfl

end Checker

/-! ### Sessions that a step makes -/

namespace House

variable {h : House}

/-- The set that a session is granted, if the step makes one. -/
def Step.granted : Step → Option PermissionSet
  | .event (.create _ request) => some request.permissions
  | .event (.restore record) => some (Session.requestOfRecord record).permissions
  | _ => none

theorem permissions_of_made {st : Step} {r : SessionRef} (hr : h.made st = some r) :
    ∃ granted, st.granted = some granted ∧
      ((h.step st).session r).permissions = granted.snapshot := by
  rcases made_cases hr with ⟨draw, request, id, rfl, -, hmade⟩ | ⟨record, rfl, -, hmade⟩
  · obtain ⟨-, -, hpermissions⟩ := Session.make_ok hmade
    exact ⟨_, rfl, hpermissions⟩
  · obtain ⟨-, -, hpermissions⟩ := Session.ofRecord_ok hmade
    exact ⟨_, rfl, hpermissions⟩

theorem made_of_not_granted {st : Step} (hst : st.granted = none) :
    h.made st = none := by
  cases hmade : h.made st with
  | none => rfl
  | some r =>
    obtain ⟨granted, hgranted, -⟩ := permissions_of_made hmade
    cases hst.symm.trans hgranted

theorem length_step_of_made {st : Step} {r : SessionRef} (hr : h.made st = some r) :
    r = h.sessions.length ∧ (h.step st).sessions.length = h.sessions.length + 1 := by
  refine ⟨eq_length_of_made hr, ?_⟩
  rcases sessions_step h st with ⟨s, -, -, -, hsessions⟩ | ⟨r', u, rfl, -⟩ | ⟨hnone, -⟩
  · rw [hsessions, List.length_append, List.length_singleton]
  · cases hr
  · cases hr.symm.trans hnone

theorem length_step_of_not_made {st : Step} (hst : h.made st = none) :
    (h.step st).sessions.length = h.sessions.length := by
  rcases sessions_step h st with ⟨s, hmade, -⟩ | ⟨r, u, -, hsessions⟩ | ⟨-, -, hsame⟩
  · cases hst.symm.trans hmade
  · rw [hsessions, List.length_set]
  · rw [hsame]

end House

theorem getElem?_concat_cases {α : Type} {xs : List α} {x y : α} {i : Nat}
    (h : (xs ++ [x])[i]? = some y) : xs[i]? = some y ∨ i = xs.length ∧ y = x := by
  rcases Nat.lt_trichotomy i xs.length with hlt | heq | hgt
  · rw [List.getElem?_append_left hlt] at h
    exact .inl h
  · rw [heq, List.getElem?_concat_length] at h
    exact .inr ⟨heq, (Option.some.inj h).symm⟩
  · rw [List.getElem?_eq_none (by rw [List.length_append]; exact hgt)] at h
    cases h

open House (Step Peopled)

/-! ### Scenes -/

/-- A house, the sets of the program, and for each session the reference to its own. -/
structure Scene where
  house : House
  sets : SetHeap
  own : List SetRef

/-- What can be done in a scene. -/
inductive Deed where
  /-- A set is made of codes. -/
  | make (codes : List Code) (readOnly : Bool)
  /-- A set is copied: as it is, or as one that may or may not change. -/
  | copy (set : SetRef) (readOnly : Option Bool)
  /-- A set is asked to change, be it a session's own. -/
  | change (set : SetRef) (change : PermissionSet.Change)
  /-- A set is dropped that is no session's own. -/
  | drop (set : SetRef)
  /-- A session is asked for that is to be granted what a set holds now. -/
  | create (draw : Draw) (request : LoginRequest) (set : SetRef)
  /-- The program logs in as a client with a set. -/
  | login (set : SetRef) (id : SessionId)
  /-- A step of the house.  If it makes a session, the set granted is made for it. -/
  | step (st : Step)

namespace Scene

/-- A scene in which nothing has happened. -/
def fresh (settings : SessionSettings) (now : Instant) (address : AddressSource)
    (auth : Option AuthModule) : Scene where
  house := .fresh settings now address auth
  sets := SetHeap.empty.make Session.empty.permissions
  own := [0]

/-- After a step.  A session that it makes has for its own a copy of a set, which may not change. -/
def settle (s : Scene) (st : Step) (source : SetRef) : Scene :=
  match s.house.made st with
  | some _ => ⟨s.house.step st, s.sets.copy source (some true), s.own ++ [s.sets.objects.length]⟩
  | none => { s with house := s.house.step st }

/-- The sets after a step that makes no session: the only one it may turn to is a session's own. -/
def setsAfter (s : Scene) : Step → SetHeap
  | .event (.use r (.changePermissions change)) =>
    match s.own[r]? with
    | some set => s.sets.change set change
    | none => s.sets
  | _ => s.sets

/-- After a step of the house.  A set that is made for a session is dropped once the session has its
copy. -/
def follow (s : Scene) (st : Step) : Scene :=
  match st.granted with
  | some granted =>
    let next := { s with sets := s.sets.make granted }.settle st s.sets.objects.length
    { next with sets := next.sets.drop s.sets.objects.length }
  | none => { s with house := s.house.step st, sets := s.setsAfter st }

/-- The scene after a deed. -/
def after (s : Scene) : Deed → Scene
  | .make codes readOnly =>
    { s with sets := s.sets.make ⟨(∅ : Catalog Code Code.normalized).addAll codes, readOnly⟩ }
  | .copy set readOnly => { s with sets := s.sets.copy set readOnly }
  | .change set change => { s with sets := s.sets.change set change }
  | .drop set => if set ∈ s.own then s else { s with sets := s.sets.drop set }
  | .create draw request set =>
    match s.sets.view? set with
    | some granted => s.settle (.event (.create draw { request with permissions := granted })) set
    | none => s
  | .login set id =>
    match s.sets.view? set with
    | some granted =>
      { s with
        house := s.house.step (.event (.circumstance (.login granted id)))
        sets := s.sets.copy set (some true) }
    | none => s
  | .step st => s.follow st

/-- The scene after some deeds. -/
def run (s : Scene) (deeds : List Deed) : Scene := deeds.foldl after s

/-- The session that a deed makes, with the set that it is granted as it is now. -/
def makes (s : Scene) : Deed → Option (SessionRef × PermissionSet)
  | .create draw request set =>
    (s.sets.view? set).bind fun granted =>
      (s.house.made (.event (.create draw { request with permissions := granted }))).map
        (·, granted)
  | .step st => st.granted.bind fun granted => (s.house.made st).map (·, granted)
  | _ => none

/-! ### What is written down -/

/-- The rights granted to each session that was made. -/
abbrev Rights := SessionRef → Option PermissionSet

/-- What is written down after a deed. -/
def note (s : Scene) (rights : Rights) (d : Deed) : Rights := fun r =>
  match s.makes d with
  | some (made, granted) => if made = r then some granted else rights r
  | none => rights r

/-- What is written down after some deeds. -/
def noteAll (s : Scene) (rights : Rights) : List Deed → Rights
  | [] => rights
  | d :: rest => (s.after d).noteAll (s.note rights d) rest

/-- What is written down of deeds from their start. -/
def rightsOf (s : Scene) (deeds : List Deed) : Rights := s.noteAll (fun _ => none) deeds

/-! ### The house keeps what the objects show -/

/-- A session's own set shows the permissions that the house keeps. -/
structure Aligned (s : Scene) : Prop where
  /-- All sessions but the first stand for somebody. -/
  peopled : Peopled s.house
  /-- Every session has a set of its own. -/
  length : s.own.length = s.house.sessions.length
  /-- It shows what the house keeps. -/
  shows : ∀ (r : SessionRef) (set : SetRef), s.own[r]? = some set →
    s.sets.view? set = some (s.house.session r).permissions

variable {s s' : Scene}

/-- What becomes of the sessions and their sets when at most one session is made. -/
structure Keeps (s : Scene) (made : Option (SessionRef × PermissionSet)) (s' : Scene) : Prop where
  aligned : Aligned s'
  /-- The permissions of the sessions stay. -/
  kept : ∀ r < s.house.sessions.length,
    (s'.house.session r).permissions = (s.house.session r).permissions
  /-- A session that is made comes at the end and has what it is granted. -/
  cases : (made = none ∧ s'.house.sessions.length = s.house.sessions.length) ∨
    ∃ granted, made = some (s.house.sessions.length, granted) ∧
      s'.house.sessions.length = s.house.sessions.length + 1 ∧
      (s'.house.session s.house.sessions.length).permissions = granted.snapshot

theorem aligned_fresh (settings : SessionSettings) (now : Instant) (address : AddressSource)
    (auth : Option AuthModule) : Aligned (fresh settings now address auth) where
  peopled := House.peopled_fresh settings now address auth
  length := rfl
  shows r set hset := by
    cases r with
    | zero =>
      obtain rfl := Option.some.inj hset
      exact SetHeap.view?_make ..
    | succ r => cases hset

namespace Aligned

theorem readOnly (ha : Aligned s) (r : SessionRef) :
    (s.house.session r).permissions.readOnly = true :=
  ha.peopled.toSound.readOnly r

theorem lt_length (ha : Aligned s) {r : SessionRef} {set : SetRef} (hset : s.own[r]? = some set) :
    r < s.house.sessions.length := by
  rw [← ha.length]
  exact (List.getElem?_eq_some_iff.1 hset).1

/-- A session's own set is there, so a new one is another. -/
theorem own_lt (ha : Aligned s) {r : SessionRef} {set : SetRef} (hset : s.own[r]? = some set) :
    set < s.sets.objects.length :=
  SetHeap.lt_of_view? (ha.shows r set hset)

theorem mem_own_lt (ha : Aligned s) {set : SetRef} (hset : set ∈ s.own) :
    set < s.sets.objects.length := by
  obtain ⟨r, hr⟩ := List.getElem?_of_mem hset
  exact ha.own_lt hr

/-- Only the sets change, and none that is a session's own. -/
theorem of_sets (ha : Aligned s) {sets : SetHeap}
    (hsets : ∀ (r : SessionRef) (set : SetRef), s.own[r]? = some set →
      sets.view? set = s.sets.view? set) :
    Keeps s none { s with sets := sets } where
  aligned := ⟨ha.peopled, ha.length, fun r set hset => (hsets r set hset).trans (ha.shows r set hset)⟩
  kept _ _ := rfl
  cases := .inl ⟨rfl, rfl⟩

theorem make (ha : Aligned s) (granted : PermissionSet) :
    Keeps s none { s with sets := s.sets.make granted } := by
  refine ha.of_sets fun r set hset => ?_
  rw [SetHeap.view?_make, if_neg (Nat.ne_of_lt (ha.own_lt hset))]

theorem copy (ha : Aligned s) (source : SetRef) (readOnly : Option Bool) :
    Keeps s none { s with sets := s.sets.copy source readOnly } := by
  refine ha.of_sets fun r set hset => ?_
  rw [SetHeap.view?_copy, if_neg (Nat.ne_of_lt (ha.own_lt hset))]

/-- A session's own set refuses to change. -/
theorem change (ha : Aligned s) (target : SetRef) (c : PermissionSet.Change) :
    Keeps s none { s with sets := s.sets.change target c } := by
  refine ha.of_sets fun r set hset => ?_
  have hview := ha.shows r set hset
  rw [SetHeap.view?_change_of_readOnly hview (ha.readOnly r), hview]

theorem drop (ha : Aligned s) {target : SetRef} (htarget : target ∉ s.own) :
    Keeps s none { s with sets := s.sets.drop target } := by
  refine ha.of_sets fun r set hset => SetHeap.view?_drop_of_ne ?_
  intro heq
  rw [heq] at hset
  exact htarget (List.mem_of_getElem? hset)

/-- A step of the house leaves the permissions of its sessions. -/
theorem permissions_step (ha : Aligned s) (st : Step) {r : SessionRef}
    (hr : r < s.house.sessions.length) :
    ((s.house.step st).session r).permissions = (s.house.session r).permissions :=
  (House.sameOrigin_step ha.peopled.toSound st hr).permissions

/-- The house takes a step that makes no session. -/
theorem step_of_not_made (ha : Aligned s) {st : Step} (hst : s.house.made st = none) :
    Keeps s none { s with house := s.house.step st } where
  aligned := by
    refine ⟨ha.peopled.step st, ?_, fun r set hset => ?_⟩
    · rw [ha.length]
      exact (House.length_step_of_not_made hst).symm
    · rw [ha.shows r set hset]
      exact congrArg some (ha.permissions_step st (ha.lt_length hset)).symm
  kept _ hr := ha.permissions_step st hr
  cases := .inl ⟨rfl, House.length_step_of_not_made hst⟩

/-- **A session that is made has for its own a copy of what it is granted.** -/
theorem settle (ha : Aligned s) {st : Step} {source : SetRef} {granted : PermissionSet}
    (hgranted : st.granted = some granted) (hsource : s.sets.view? source = some granted) :
    Keeps s ((s.house.made st).map (·, granted)) (s.settle st source) := by
  unfold Scene.settle
  cases hmade : s.house.made st with
  | none => exact ha.step_of_not_made hmade
  | some r =>
    obtain ⟨rfl, hlength⟩ := House.length_step_of_made hmade
    obtain ⟨granted', hgranted', hpermissions⟩ := House.permissions_of_made hmade
    obtain rfl := Option.some.inj (hgranted.symm.trans hgranted')
    refine ⟨⟨ha.peopled.step st, ?_, fun r set hset => ?_⟩, fun r hr => ha.permissions_step st hr,
      .inr ⟨granted, rfl, hlength, hpermissions⟩⟩
    · show (s.own ++ [_]).length = _
      rw [List.length_append, ha.length]
      exact hlength.symm
    · show (s.sets.copy source (some true)).view? set = _
      rw [SetHeap.view?_copy]
      -- The copy comes behind all objects, so it is nobody's own before.
      rcases getElem?_concat_cases hset with hbefore | ⟨hr, hnew⟩
      · rw [if_neg (Nat.ne_of_lt (ha.own_lt hbefore)), ha.shows r set hbefore]
        exact congrArg some (ha.permissions_step st (ha.lt_length hbefore)).symm
      · rw [if_pos hnew, hsource, hr, ha.length]
        exact congrArg some hpermissions.symm

end Aligned

namespace Keeps

variable {made : Option (SessionRef × PermissionSet)} {t : Scene}

theorem refl (ha : Aligned s) : Keeps s none s := ⟨ha, fun _ _ => rfl, .inl ⟨rfl, rfl⟩⟩

theorem length_of_none (hk : Keeps s none s') :
    s'.house.sessions.length = s.house.sessions.length := by
  rcases hk.cases with ⟨-, hlength⟩ | ⟨granted, hnone, -⟩
  · exact hlength
  · cases hnone

/-- Nothing is made before. -/
theorem after_none (hk : Keeps s none s') (hk' : Keeps s' made t) : Keeps s made t where
  aligned := hk'.aligned
  kept r hr := (hk'.kept r (hk.length_of_none ▸ hr)).trans (hk.kept r hr)
  cases := hk.length_of_none ▸ hk'.cases

/-- Nothing is made afterwards. -/
theorem before_none (hk : Keeps s made s') (hk' : Keeps s' none t) : Keeps s made t where
  aligned := hk'.aligned
  kept r hr := by
    have hlt : r < s'.house.sessions.length := by
      rcases hk.cases with ⟨-, hlength⟩ | ⟨granted, -, hlength, -⟩ <;> omega
    exact (hk'.kept r hlt).trans (hk.kept r hr)
  cases := by
    rcases hk.cases with ⟨hnone, hlength⟩ | ⟨granted, hmade, hlength, hpermissions⟩
    · exact .inl ⟨hnone, hk'.length_of_none.trans hlength⟩
    · refine .inr ⟨granted, hmade, hk'.length_of_none.trans hlength, ?_⟩
      rw [hk'.kept _ (by omega), hpermissions]

end Keeps

/-! ### Deeds -/

/-- A step that makes no session turns at most to the own set of one, which refuses. -/
theorem Aligned.follow_of_not_granted (ha : Aligned s) {st : Step} (hst : st.granted = none) :
    Keeps s none (s.follow st) := by
  have hstep := ha.step_of_not_made (House.made_of_not_granted hst)
  unfold follow
  rw [hst]
  unfold setsAfter
  dsimp only
  split
  · split
    · exact hstep.before_none (hstep.aligned.change _ _)
    · exact hstep
  · exact hstep

/-- A set that is made for a session shows in no other, and is not the session's own. -/
theorem Aligned.follow_of_granted (ha : Aligned s) {st : Step} {granted : PermissionSet}
    (hgranted : st.granted = some granted) :
    Keeps s ((s.house.made st).map (·, granted)) (s.follow st) := by
  have hmake := ha.make granted
  have hsource := SetHeap.view?_make s.sets granted s.sets.objects.length
  rw [if_pos rfl] at hsource
  have hsettle := hmake.aligned.settle hgranted hsource
  -- The session's own is the copy, which comes behind the set that is dropped.
  have htemp : s.sets.objects.length ∉
      (Scene.settle { s with sets := s.sets.make granted } st s.sets.objects.length).own := by
    intro hmem
    unfold Scene.settle at hmem
    split at hmem
    · rcases List.mem_append.1 hmem with hbefore | hnew
      · exact Nat.lt_irrefl _ (ha.mem_own_lt hbefore)
      · have hlength := SetHeap.length_make s.sets granted
        rw [← List.mem_singleton.1 hnew] at hlength
        exact Nat.succ_ne_self _ hlength.symm
    · exact Nat.lt_irrefl _ (ha.mem_own_lt hmem)
  have hdrop := hsettle.aligned.drop htemp
  unfold follow
  rw [hgranted]
  exact hmake.after_none (hsettle.before_none hdrop)

/-- **A deed leaves all sessions their rights, and gives a session that it makes those of the set that
it is granted.** -/
theorem Aligned.after (ha : Aligned s) (d : Deed) : Keeps s (s.makes d) (s.after d) := by
  cases d with
  | make codes readOnly => exact ha.make _
  | copy set readOnly => exact ha.copy set readOnly
  | change set c => exact ha.change set c
  | drop set =>
    show Keeps s none (if set ∈ s.own then s else { s with sets := s.sets.drop set })
    by_cases hset : set ∈ s.own
    · rw [if_pos hset]
      exact .refl ha
    · rw [if_neg hset]
      exact ha.drop hset
  | create draw request set =>
    cases hview : s.sets.view? set with
    | none =>
      simp only [Scene.after, makes, hview, Option.bind_none]
      exact .refl ha
    | some granted =>
      have hgranted : Step.granted (.event (.create draw { request with permissions := granted })) =
          some granted := rfl
      simp only [Scene.after, makes, hview, Option.bind_some]
      exact ha.settle hgranted hview
  | login set id =>
    cases hview : s.sets.view? set with
    | none =>
      simp only [Scene.after, makes, hview]
      exact .refl ha
    | some granted =>
      have hnone : s.house.made (.event (.circumstance (.login granted id))) = none := rfl
      have hstep := ha.step_of_not_made hnone
      simp only [Scene.after, makes, hview]
      exact hstep.before_none (hstep.aligned.copy set (some true))
  | step st =>
    show Keeps s (st.granted.bind fun granted => (s.house.made st).map (·, granted)) (s.follow st)
    cases hgranted : st.granted with
    | none => exact ha.follow_of_not_granted hgranted
    | some granted => exact ha.follow_of_granted hgranted

/-! ### Rights are what was granted -/

/-- Each session but the first has the rights that are written down for it. -/
structure Rightful (s : Scene) (rights : Rights) : Prop extends Aligned s where
  rights : ∀ r, r ≠ emptyRef → r < s.house.sessions.length →
    ∃ granted, rights r = some granted ∧
      (s.house.session r).permissions = granted.snapshot

theorem rightful_fresh (settings : SessionSettings) (now : Instant) (address : AddressSource)
    (auth : Option AuthModule) : Rightful (fresh settings now address auth) fun _ => none where
  toAligned := aligned_fresh settings now address auth
  rights _ hr hlt := absurd (Nat.lt_one_iff.1 hlt) hr

theorem Rightful.after {rights : Rights} (hr : Rightful s rights) (d : Deed) :
    Rightful (s.after d) (s.note rights d) := by
  have hkeeps := hr.toAligned.after d
  refine ⟨hkeeps.aligned, fun r hne hlt => ?_⟩
  unfold note
  rcases hkeeps.cases with ⟨hnone, hlength⟩ | ⟨granted, hmade, hlength, hpermissions⟩
  · rw [hlength] at hlt
    obtain ⟨granted, hgranted, hsame⟩ := hr.rights r hne hlt
    rw [hnone, hkeeps.kept r hlt]
    exact ⟨granted, hgranted, hsame⟩
  · rw [hmade]
    dsimp only
    rcases Nat.lt_or_ge r s.house.sessions.length with hbefore | hge
    · obtain ⟨granted', hgranted, hsame⟩ := hr.rights r hne hbefore
      rw [if_neg (Nat.ne_of_gt hbefore), hkeeps.kept r hbefore]
      exact ⟨granted', hgranted, hsame⟩
    · rw [hlength] at hlt
      have hlast : s.house.sessions.length = r := Nat.le_antisymm hge (Nat.le_of_lt_succ hlt)
      rw [if_pos hlast, ← hlast]
      exact ⟨granted, rfl, hpermissions⟩

theorem Rightful.run {rights : Rights} (hr : Rightful s rights) (deeds : List Deed) :
    Rightful (s.run deeds) (s.noteAll rights deeds) := by
  induction deeds generalizing s rights with
  | nil => exact hr
  | cons d rest ih => exact ih (hr.after d)

/-- A session has the rights of a set as it was when it was granted. -/
structure Holds (s : Scene) (r : SessionRef) (granted : PermissionSet) : Prop where
  /-- Its own set shows them, and refuses to change. -/
  shown : ∃ set, s.own[r]? = some set ∧ s.sets.view? set = some granted.snapshot
  /-- It lists the same codes in the same spelling... -/
  codes : (s.house.session r).permissions.codes = granted.codes
  /-- ... and has the same thumbprint. -/
  thumbprint : (s.house.session r).permissions.thumbprint = granted.thumbprint
  /-- A check passes exactly if the code was granted, whoever words denials. -/
  checks : ∀ (c : Checker) (registries : Registries) (code : String),
    c.checkSession registries (s.house.session r) code = .ok () ↔ granted.contains code = true

theorem Rightful.holds {rights : Rights} (hr : Rightful s rights) {r : SessionRef}
    (hne : r ≠ emptyRef) (hlt : r < s.house.sessions.length) :
    ∃ granted, rights r = some granted ∧ s.Holds r granted := by
  obtain ⟨granted, hgranted, hpermissions⟩ := hr.rights r hne hlt
  refine ⟨granted, hgranted, ?_⟩
  constructor
  case shown =>
    rw [← hr.length] at hlt
    have hset : s.own[r]? = some s.own[r] := List.getElem?_eq_getElem hlt
    refine ⟨_, hset, ?_⟩
    rw [hr.shows r _ hset, hpermissions]
  case codes =>
    rw [hpermissions]
    rfl
  case thumbprint =>
    rw [hpermissions]
    rfl
  case checks =>
    intro c registries code
    rw [c.checkSession_eq_ok_iff registries (hr.peopled.somebody r hne hlt).1, hpermissions]
    rfl

/-- **Whatever is done, a session that was made of a request or of a record has the rights of the set
that it was granted, as that set was then; the Empty session passes no check.** -/
theorem rights_are_fixed (settings : SessionSettings) (now : Instant) (address : AddressSource)
    (auth : Option AuthModule) (deeds : List Deed) :
    let start := fresh settings now address auth
    let s := start.run deeds
    (∀ r, r ≠ emptyRef → r < s.house.sessions.length →
      ∃ granted, start.rightsOf deeds r = some granted ∧ s.Holds r granted) ∧
    ∀ (c : Checker) (registries : Registries) (code : String),
      c.checkSession registries (s.house.session emptyRef) code = .error .notLoggedOn := by
  intro start s
  have hrights : Rightful s (start.rightsOf deeds) :=
    (rightful_fresh settings now address auth).run deeds
  refine ⟨fun r hne hlt => hrights.holds hne hlt, fun c registries code => ?_⟩
  exact c.checkSession_of_isEmpty registries hrights.peopled.nobody.1 code

/-- The granted set, the session's own and a copy of that are all asked to change; the first is
dropped in the end. -/
theorem rights_after_changes :
    let start := fresh .default .epoch (.fixed "") none
    let deeds : List Deed :=
      [.make [⟨"a"⟩, ⟨"B"⟩] false,
       .create ⟨leastStep, 1, by decide, by decide⟩ ⟨1, "ada", none, ∅, "", none, "", none⟩ 1,
       .change 1 (.remove "A"), .change 1 (.add ⟨"c"⟩), .change 2 .clear, .copy 2 (some false),
       .change 3 (.addAll [⟨"A"⟩, ⟨"c"⟩]), .drop 1, .step (.event (.use 1 .refresh)),
       .step (.event (.use 1 (.changePermissions (.add ⟨"c"⟩)))),
       .step (.event (.restore ⟨⟨7⟩, 2, "bob", "", none, ["c"], "", [], ""⟩)), .login 3 ⟨7⟩]
    let s := start.run deeds
    (s.sets.view? 3).map (·.contains "c") = some true ∧
      ∃ granted, start.rightsOf deeds 1 = some granted ∧ granted.contains "A" = true ∧
        granted.contains "c" = false ∧ s.Holds 1 granted := by
  intro start deeds s
  have hcopy : (s.sets.view? 3).map (·.contains "c") = some true := by decide +kernel
  obtain ⟨granted, hgranted, hholds⟩ :=
    (rights_are_fixed .default .epoch (.fixed "") none deeds).1 1 (by decide) (by decide +kernel)
  have hcodes : (start.rightsOf deeds 1).map (fun g => (g.contains "A", g.contains "c")) =
      some (true, false) := by decide +kernel
  rw [hgranted] at hcodes
  obtain ⟨hA, hc⟩ := Prod.ext_iff.1 (Option.some.inj hcodes)
  exact ⟨hcopy, granted, hgranted, hA, hc, hholds⟩

end Scene

end Gatehouse
