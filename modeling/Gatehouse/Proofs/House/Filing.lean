/-
What is filed under an id.

A session goes into a store under its own id, and only if nothing is there.  So whatever
is found under an id is the object that went in first, until the id is removed, the store
is cleared, or an eviction gives the id among those it took out.  Other objects with the
same id come and go without being noticed.

One lemma says what a step does to what is found under one id (`find_step`): it stays
unless the step takes it out, and something new is there only if the step files it.  The
rest is the history read from its end.
-/
import Gatehouse.Proofs.House.Eviction
import Gatehouse.Proofs.House.Making

namespace Gatehouse

theorem Store.refusal_cases (key : SessionId) (s : Session) :
    (s.id = key ∧ s.isEmpty = false ∧ Store.refusal key s = none) ∨
    ((s.id ≠ key ∨ s.isEmpty = true) ∧ ∃ cause, Store.refusal key s = some (.invalid cause)) := by
  unfold Store.refusal
  by_cases hid : s.id = key
  · subst hid
    cases hempty : s.isEmpty with
    | true =>
      have hkey : s.id.isEmpty = true := hempty
      simp [hkey]
    | false =>
      have hkey : s.id.isEmpty = false := hempty
      simp [hkey]
  · simp [hid]

namespace House

variable {h : House} {name : StoreName} {id : SessionId} {r : SessionRef}

/-! ### What a step does with a store -/

/-- What a step offers to a store: to which one, under which key, and which session. -/
def offered (h : House) : Step → Option (StoreName × SessionId × SessionRef)
  | .event (.upkeep name (.getOrAdd key r)) => some (name, key, r)
  | .event (.upkeep name (.add r)) => some (name, (h.session r).id, r)
  | _ => none

/-- A step files a session: it is offered under its own id, which is not that of the Empty session
and under which there is nothing. -/
structure Files (h : House) (name : StoreName) (id : SessionId) (r : SessionRef) (st : Step) :
    Prop where
  offered : h.offered st = some (name, id, r)
  own : (h.session r).id = id
  somebody : (h.session r).isEmpty = false
  free : h.find name id = none

/-- Whether a step takes out what is filed under an id: it removes the id, clears the store, or is
an eviction that gives the id. -/
def takesOut (h : House) (name : StoreName) (id : SessionId) : Step → Bool
  | .event (.upkeep other (.remove key)) => other = name && key = id
  | .event (.upkeep other .clear) => other = name
  | .event (.upkeep other (.evict time)) => other = name && id ∈ (h.evict name time).2
  | _ => false

/-- A session was filed under an id and has not been taken out since. -/
def FiledSince (start : House) (name : StoreName) (id : SessionId) (r : SessionRef)
    (steps : List Step) : Prop :=
  ComesAndStays (fun past st => (start.stepAll past).Files name id r st)
    (fun past st => (start.stepAll past).takesOut name id st = true) steps

/-! ### The stores after a step -/

theorem find_of_fields {h' : House} (hmain : h'.main = h.main) (hbare : h'.bare = h.bare) :
    h'.find name id = h.find name id := by
  simp only [find, store_of_fields hmain hbare]

theorem find_turn (c : Circumstance) : (h.turn c).find name id = h.find name id := by
  cases c with
  | advance amount =>
    simp only [turn, advance]
    cases h.now.add? amount with
    | none => rfl
    | some time => exact find_of_fields rfl rfl
  | _ => exact find_of_fields rfl rfl

theorem find_review (login : String) : (h.review login).1.find name id = h.find name id := by
  unfold review
  cases h.auth with
  | none => rfl
  | some m => exact find_of_fields rfl rfl

theorem find_create (draw : Draw) (request : LoginRequest) :
    (h.create draw request).1.find name id = h.find name id := by
  obtain ⟨ids, sessions, heq⟩ := create_house h draw request
  rw [heq]
  exact (find_of_fields rfl rfl).trans (find_review request.login)

theorem find_restore (record : SessionRecord) :
    (h.restore record).1.find name id = h.find name id := by
  obtain ⟨sessions, heq⟩ := restore_house h record
  rw [heq]
  exact find_of_fields rfl rfl

theorem find_use (r : SessionRef) (u : Session.Use) :
    (h.use r u).find name id = h.find name id := by
  cases u with
  | countTraffic incoming outgoing =>
    simp only [use, countTraffic]
    split
    · exact find_of_fields rfl rfl
    · exact find_of_fields rfl rfl
    · dsimp only
      split
      · exact find_of_fields rfl rfl
      · exact find_of_fields rfl rfl
  | subscribe types => simp only [use, find, store_subscribe]
  | _ => exact find_of_fields rfl rfl

/-- Nothing but its upkeep changes a store. -/
theorem find_step_of_not_upkeep {st : Step} (hst : ∀ other u, st ≠ .event (.upkeep other u)) :
    (h.step st).find name id = h.find name id := by
  cases st with
  | settings next => exact find_of_fields rfl rfl
  | event e =>
    cases e with
    | circumstance c => exact find_turn c
    | create draw request => exact find_create draw request
    | restore record => exact find_restore record
    | use r u => exact find_use r u
    | upkeep other u => exact absurd rfl (hst other u)

/-! ### Upkeep -/

theorem getOrAdd_of_refused {key : SessionId} {e : ServiceError}
    (hrefusal : Store.refusal key (h.session r) = some e) :
    h.getOrAdd name key r = (h, .error e) := by
  simp [getOrAdd, hrefusal]

theorem getOrAdd_of_there {there : SessionRef} (hid : (h.session r).id = id)
    (hsome : (h.session r).isEmpty = false) (hthere : h.find name id = some there) :
    h.getOrAdd name id r = (h, .ok there) := by
  rcases Store.refusal_cases id (h.session r) with ⟨-, -, hnone⟩ | ⟨hbad, -⟩
  · unfold find at hthere
    simp [getOrAdd, hnone, hthere]
  · simp [hid, hsome] at hbad

theorem getOrAdd_of_free (hid : (h.session r).id = id) (hsome : (h.session r).isEmpty = false)
    (hfree : h.find name id = none) :
    h.getOrAdd name id r =
      ((h.setStore name ((h.store name).insert id r)).notifyFrom name
        (.persist (h.session r).toRecord), .ok r) := by
  rcases Store.refusal_cases id (h.session r) with ⟨-, -, hnone⟩ | ⟨hbad, -⟩
  · unfold find at hfree
    simp [getOrAdd, hnone, hfree]
  · simp [hid, hsome] at hbad

/-- What is found after a session was offered: what was found before, or the session if it was
filed. -/
theorem find_getOrAdd {other : StoreName} {key : SessionId} {r' : SessionRef} :
    (h.getOrAdd other key r').1.find name id = some r ↔
      h.find name id = some r ∨
        (other = name ∧ key = id ∧ r' = r) ∧ (h.session r).id = id ∧
          (h.session r).isEmpty = false ∧ h.find name id = none := by
  rcases Store.refusal_cases key (h.session r') with ⟨hown, hsome, -⟩ | ⟨hbad, cause, hcause⟩
  · cases hthere : h.find other key with
    | some there =>
      rw [getOrAdd_of_there hown hsome hthere]
      constructor
      · intro hfind
        exact .inl hfind
      · intro hcase
        rcases hcase with hfind | ⟨⟨rfl, rfl, rfl⟩, -, -, hnone⟩
        · exact hfind
        · cases hnone.symm.trans hthere
    | none =>
      rw [getOrAdd_of_free hown hsome hthere]
      simp only [find] at hthere ⊢
      rw [store_notifyFrom, store_setStore]
      by_cases hname : name = other
      · subst hname
        rw [if_pos rfl, SortedMap.get?_insert]
        by_cases hid : id = key
        · subst hid
          rw [if_pos rfl]
          constructor
          · intro heq
            obtain rfl := Option.some.inj heq
            exact .inr ⟨⟨rfl, rfl, rfl⟩, hown, hsome, hthere⟩
          · intro hcase
            rcases hcase with hfind | ⟨⟨-, -, rfl⟩, -⟩
            · cases hthere.symm.trans hfind
            · rfl
        · simp [hid, Ne.symm hid]
      · simp [hname, Ne.symm hname]
  · rw [getOrAdd_of_refused hcause]
    constructor
    · intro hfind
      exact .inl hfind
    · intro hcase
      rcases hcase with hfind | ⟨⟨-, rfl, rfl⟩, hown, hsome, -⟩
      · exact hfind
      · simp [hown, hsome] at hbad

theorem find_remove {other : StoreName} {key : SessionId} :
    (h.remove other key).1.find name id =
      if other = name ∧ key = id then none else h.find name id := by
  unfold remove
  cases hthere : (h.store other).get? key with
  | none =>
    by_cases hboth : other = name ∧ key = id
    · obtain ⟨rfl, rfl⟩ := hboth
      simpa [find] using hthere
    · simp [hboth]
  | some there =>
    simp only [find, store_notifyFrom, store_setStore]
    by_cases hname : name = other
    · subst hname
      simp [eq_comm]
    · simp [hname, Ne.symm hname]

theorem find_clear {other : StoreName} :
    (h.clear other).find name id = if other = name then none else h.find name id := by
  simp only [clear, find, store_notifyFrom, store_setStore]
  by_cases hname : name = other
  · simp [hname]
  · simp [hname, Ne.symm hname]

theorem find_evict (hs : Sound h) {other : StoreName} {time : Instant} :
    (h.evict other time).1.find name id =
      if other = name ∧ id ∈ (h.evict name time).2 then none else h.find name id := by
  unfold find
  by_cases hname : other = name
  · subst hname
    rw [evict_eq hs]
    simp [get?_takeAll]
  · rw [evict_eq hs, store_takeAll_of_ne h _ (Ne.symm hname)]
    simp [hname]

/-- **A step leaves what is filed under an id unless it takes it out, and what is new there it has
filed.** -/
theorem find_step (hs : Sound h) (st : Step) :
    (h.step st).find name id = some r ↔
      (h.find name id = some r ∧ h.takesOut name id st ≠ true) ∨ h.Files name id r st := by
  have hfiles : h.Files name id r st ↔ h.offered st = some (name, id, r) ∧
      (h.session r).id = id ∧ (h.session r).isEmpty = false ∧ h.find name id = none :=
    ⟨fun ⟨ho, hi, hs, hf⟩ => ⟨ho, hi, hs, hf⟩, fun ⟨ho, hi, hs, hf⟩ => ⟨ho, hi, hs, hf⟩⟩
  rw [hfiles]
  by_cases hupkeep : ∀ other u, st ≠ .event (.upkeep other u)
  · have hneither : h.offered st = none ∧ h.takesOut name id st = false := by
      cases st with
      | settings next => exact ⟨rfl, rfl⟩
      | event e =>
        cases e with
        | upkeep other u => exact absurd rfl (hupkeep other u)
        | _ => exact ⟨rfl, rfl⟩
    rw [find_step_of_not_upkeep hupkeep, hneither.1, hneither.2]
    simp
  · obtain ⟨other, u, rfl⟩ : ∃ other u, st = .event (.upkeep other u) := by
      simpa using hupkeep
    cases u with
    | getOrAdd key r' =>
      show (h.getOrAdd other key r').1.find name id = some r ↔ _
      rw [find_getOrAdd]
      simp [offered, takesOut]
    | add r' =>
      show (h.getOrAdd other (h.session r').id r').1.find name id = some r ↔ _
      rw [find_getOrAdd]
      simp [offered, takesOut]
    | remove key =>
      show (h.remove other key).1.find name id = some r ↔ _
      rw [find_remove]
      simp [offered, takesOut]
      tauto
    | clear =>
      show (h.clear other).find name id = some r ↔ _
      rw [find_clear]
      simp [offered, takesOut]
      tauto
    | evict time =>
      show (h.evict other time).1.find name id = some r ↔ _
      rw [find_evict hs]
      simp [offered, takesOut]
      tauto

/-! ### Runs -/

/-- **What is found under an id was filed there and has not been taken out since.** -/
theorem find_stepAll {start : House} (hs : Sound start) (hfree : start.find name id = none)
    (steps : List Step) :
    (start.stepAll steps).find name id = some r ↔ start.FiledSince name id r steps := by
  induction steps using List.reverseRecOn with
  | nil =>
    have hnever : ¬ start.FiledSince name id r [] := not_comesAndStays_nil
    simp only [hnever, iff_false]
    show start.find name id ≠ some r
    simp [hfree]
  | append_singleton steps st ih =>
    rw [stepAll_concat, find_step (hs.stepAll steps), FiledSince, comesAndStays_concat]
    exact or_congr_left (and_congr_left' ih)

/-- What holds of a store at any time. -/
structure Orderly (h : House) (name : StoreName) : Prop where
  /-- What is there is filed under its own id, which is not that of the Empty session. -/
  keyed : ∀ id r, h.find name id = some r → (h.session r).id = id ∧ id ≠ .empty
  /-- Under an id that is in use, whoever offers an object gets the one that is there, and nothing
  happens... -/
  kept : ∀ id there, h.find name id = some there → ∀ r, (h.session r).id = id →
    h.getOrAdd name id r = (h, .ok there) ∧ h.add name r = (h, .ok there)
  /-- ... and under one that is not, the object goes in and the auth module is told once. -/
  filed : ∀ r, (h.session r).isEmpty = false → h.find name (h.session r).id = none →
    (h.add name r).2 = .ok r ∧ (h.add name r).1.find name (h.session r).id = some r ∧
      (h.add name r).1.journal =
        h.journal ++ if h.isAudited name then [.persist (h.session r).toRecord] else []
  /-- An object under a key that is not its own, or that stands for nobody, is refused, and nothing
  happens; no other is. -/
  refused : ∀ key r, (∃ cause, h.getOrAdd name key r = (h, .error (.invalid cause))) ↔
    (h.session r).id ≠ key ∨ (h.session r).isEmpty = true
  /-- Without a key, an object is refused if it stands for nobody. -/
  nobody : ∀ r, (∃ cause, h.add name r = (h, .error (.invalid cause))) ↔
    (h.session r).isEmpty = true
  /-- The ids are listed once each. -/
  ids : (h.store name).keys.Nodup ∧
    ∀ id, id ∈ (h.store name).keys ↔ ∃ r, h.find name id = some r
  /-- The size is their number. -/
  size : (h.store name).size = (h.store name).keys.length

theorem getOrAdd_refused_iff {key : SessionId} :
    (∃ cause, h.getOrAdd name key r = (h, .error (.invalid cause))) ↔
      (h.session r).id ≠ key ∨ (h.session r).isEmpty = true := by
  rcases Store.refusal_cases key (h.session r) with ⟨hid, hsome, -⟩ | ⟨hbad, cause, hcause⟩
  · subst hid
    simp only [ne_eq, not_true_eq_false, hsome, Bool.false_eq_true, or_self, iff_false]
    intro hrefused
    obtain ⟨cause, hcause⟩ := hrefused
    cases hthere : h.find name (h.session r).id with
    | some there =>
      rw [getOrAdd_of_there rfl hsome hthere] at hcause
      cases hcause
    | none =>
      rw [getOrAdd_of_free rfl hsome hthere] at hcause
      cases congrArg Prod.snd hcause
  · exact iff_of_true ⟨cause, getOrAdd_of_refused hcause⟩ hbad

theorem Sound.orderly (hs : Sound h) (name : StoreName) : Orderly h name where
  keyed := by
    intro id r hr
    obtain ⟨hid, hempty⟩ := hs.keyed name id r hr
    refine ⟨hid, ?_⟩
    rintro rfl
    cases hempty
  kept := by
    intro id there hthere r hid
    obtain ⟨-, hempty⟩ := hs.keyed name id there hthere
    have hsome : (h.session r).isEmpty = false := by
      rw [Session.isEmpty, hid]
      exact hempty
    subst hid
    exact ⟨getOrAdd_of_there rfl hsome hthere, getOrAdd_of_there rfl hsome hthere⟩
  filed := by
    intro r hsome hfree
    have hadd := getOrAdd_of_free rfl hsome hfree
    have haudited : ∀ store, (h.setStore name store).isAudited name = h.isAudited name :=
      fun store => isAudited_of_auth (by rw [auth_setStore]) name
    refine ⟨congrArg Prod.snd hadd, find_getOrAdd.2 (.inr ⟨⟨rfl, rfl, rfl⟩, rfl, hsome, hfree⟩), ?_⟩
    show (h.getOrAdd name (h.session r).id r).1.journal = _
    rw [hadd, journal_notifyFrom, journal_setStore, haudited]
  refused := fun key r => getOrAdd_refused_iff
  nobody := by
    intro r
    rw [add, getOrAdd_refused_iff]
    simp
  ids := by
    refine ⟨nodup_keys h name, ?_⟩
    intro id
    rw [SortedMap.mem_keys_iff, SortedMap.contains, Option.isSome_iff_exists]
    rfl
  size := by simp [SortedMap.size, SortedMap.keys]

/-- **In every run, with any number of objects that carry one id, a store files under an id the first
that is offered, until it is taken out.** -/
theorem filed_until_taken_out (settings : SessionSettings) (now : Instant)
    (address : AddressSource) (auth : Option AuthModule) (steps : List Step) (name : StoreName) :
    let start := fresh settings now address auth
    let h := start.stepAll steps
    Orderly h name ∧ ∀ id r, h.find name id = some r ↔ start.FiledSince name id r steps := by
  intro start h
  have hpeopled : Peopled start := peopled_fresh settings now address auth
  refine ⟨(hpeopled.toSound.stepAll steps).orderly name, ?_⟩
  intro id r
  refine find_stepAll hpeopled.toSound ?_ steps
  cases name <;> rfl

/-- Two sessions are brought back from one record.  The second is there once the first is removed, and
no sooner; under another key neither goes in. -/
theorem twins_take_turns :
    let start := fresh .default .epoch (.fixed "") (some (.fresh true))
    let ada : SessionRecord := ⟨⟨7⟩, 1, "ada", "", none, [], "", [], ""⟩
    let before : List Step :=
      [.event (.restore ada), .event (.restore ada), .event (.upkeep .main (.add 1)),
       .event (.upkeep .main (.add 2)), .event (.upkeep .main (.getOrAdd ⟨8⟩ 2)),
       .event (.upkeep .main (.add emptyRef)), .event (.upkeep .main (.evict .epoch))]
    let after : List Step :=
      before ++ [.event (.upkeep .main (.remove ⟨7⟩)), .event (.upkeep .main (.add 2))]
    start.FiledSince .main ⟨7⟩ 1 before ∧ ¬ start.FiledSince .main ⟨7⟩ 2 before ∧
      start.FiledSince .main ⟨7⟩ 2 after ∧ ¬ start.FiledSince .main ⟨7⟩ 1 after ∧
      (start.stepAll after).journal.length = 3 := by
  intro start ada before after
  have hbefore : ∀ r, _ ↔ start.FiledSince .main ⟨7⟩ r before := fun r =>
    (filed_until_taken_out .default .epoch (.fixed "") (some (.fresh true)) before .main).2 ⟨7⟩ r
  have hafter : ∀ r, _ ↔ start.FiledSince .main ⟨7⟩ r after := fun r =>
    (filed_until_taken_out .default .epoch (.fixed "") (some (.fresh true)) after .main).2 ⟨7⟩ r
  rw [← hbefore, ← hbefore, ← hafter, ← hafter]
  decide +kernel

end House

end Gatehouse
