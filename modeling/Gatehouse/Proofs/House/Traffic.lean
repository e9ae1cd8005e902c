/-
Where the traffic of a house goes.

The auth module is told reports and much else, and of many sessions.  A run is therefore
accounted for by a list of periods, each with the session that it is about: the reports
in the journal are those of the list, in order, and the calls on any one session are its
periods in the list and then what is pending (`Balanced`).

A step is either a call that counts traffic or it is not.  If it is not, there is no
report and no session has counted anything.  If it is, what it does to its own session
was shown for the session alone (`Carries.report`, `Carries.count`), and no other session
is touched.  Whether the auth module can keep what it is told is not looked at by
anything in between, so it makes no difference.
-/
import Gatehouse.Proofs.House.Eviction
import Gatehouse.Proofs.House.Making
import Gatehouse.Proofs.Session.Traffic

namespace Gatehouse

/-- The report that the auth module is told. -/
def Notice.report? : Notice → Option TrafficReport
  | .traffic report => some report
  | _ => none

/-- The periods of one session. -/
def periodsOf (r : SessionRef) (told : List (SessionRef × Period)) : List Period :=
  told.filterMap fun t => if t.1 = r then some t.2 else none

theorem periodsOf_append (r : SessionRef) (told more : List (SessionRef × Period)) :
    periodsOf r (told ++ more) = periodsOf r told ++ periodsOf r more :=
  List.filterMap_append

theorem periodsOf_map_self (r : SessionRef) (periods : List Period) :
    periodsOf r (periods.map (r, ·)) = periods := by
  induction periods with
  | nil => rfl
  | cons p rest ih =>
    show periodsOf r ([(r, p)] ++ rest.map (r, ·)) = p :: rest
    rw [periodsOf_append, ih]
    simp [periodsOf]

theorem periodsOf_eq_nil {r : SessionRef} {told : List (SessionRef × Period)}
    (hr : ∀ t ∈ told, t.1 ≠ r) : periodsOf r told = [] := by
  unfold periodsOf
  rw [List.filterMap_eq_nil_iff]
  intro t ht
  rw [if_neg (hr t ht)]

namespace House

variable {h h' : House}

/-- The reports that the auth module was told. -/
def reports (h : House) : List TrafficReport :=
  match h.auth with
  | some m => m.reports
  | none => []

/-- The call that a step makes on a session that there is. -/
def called (h : House) (r : SessionRef) : Step → Option TrafficCall
  | .event (.use r' (.countTraffic incoming outgoing)) =>
    if r' = r ∧ r < h.sessions.length then some ⟨h.now, incoming, outgoing⟩ else none
  | _ => none

/-- The calls that steps make on a session. -/
def callsOf (h : House) (r : SessionRef) : List Step → List TrafficCall
  | [] => []
  | st :: rest => (h.called r st).toList ++ (h.step st).callsOf r rest

theorem callsOf_concat (h : House) (r : SessionRef) (steps : List Step) (st : Step) :
    h.callsOf r (steps ++ [st]) = h.callsOf r steps ++ ((h.stepAll steps).called r st).toList := by
  induction steps generalizing h with
  | nil => simp [callsOf, stepAll]
  | cons first rest ih =>
    show (h.called r first).toList ++ (h.step first).callsOf r (rest ++ [st]) = _
    rw [ih, ← List.append_assoc]
    rfl

/-! ### Reports -/

theorem reports_eq (h : House) : h.reports = h.journal.filterMap Notice.report? := by
  unfold reports journal
  cases h.auth with
  | none => rfl
  | some m =>
    refine congrArg (fun f => m.journal.filterMap f) ?_
    funext n
    cases n <;> rfl

theorem reports_of_journal (hjournal : h'.journal = h.journal) : h'.reports = h.reports := by
  rw [reports_eq, reports_eq, hjournal]

theorem reports_notify (ha : h.auth.isSome = true) (n : Notice) :
    (h.notify n).reports = h.reports ++ n.report?.toList := by
  rw [reports_eq, reports_eq, journal_notify ha, List.filterMap_append]
  cases hn : n.report? <;> simp [hn]

/-- Other notices are no reports. -/
theorem reports_notify_other (h : House) {n : Notice} (hn : n.report? = none) :
    (h.notify n).reports = h.reports := by
  by_cases ha : h.auth.isSome = true
  · rw [reports_notify ha, hn, Option.toList_none, List.append_nil]
  · have hauth : h.auth = none := by simpa using ha
    simp [reports, notify, hauth]

theorem reports_setStore (h : House) (name : StoreName) (store : Store) :
    (h.setStore name store).reports = h.reports :=
  reports_of_journal (journal_setStore h name store)

theorem reports_restocked (h : House) (name : StoreName) (store : Store) {n : Notice}
    (hn : n.report? = none) : ((h.setStore name store).notifyFrom name n).reports = h.reports := by
  unfold notifyFrom
  split
  · rw [reports_notify_other _ hn, reports_setStore]
  · exact reports_setStore h name store

theorem reports_takeAll (h : House) (name : StoreName) (ids : List SessionId) :
    (h.takeAll name ids).reports = h.reports := by
  induction ids generalizing h with
  | nil => rfl
  | cons id rest ih => exact (ih _).trans (reports_restocked h name _ rfl)

theorem reports_getOrAdd (h : House) (name : StoreName) (key : SessionId) (r : SessionRef) :
    (h.getOrAdd name key r).1.reports = h.reports := by
  unfold getOrAdd
  split
  · rfl
  · split
    · rfl
    · exact reports_restocked h name _ rfl

theorem reports_keep (hs : Sound h) (name : StoreName) (u : Upkeep) :
    (h.keep name u).reports = h.reports := by
  cases u with
  | getOrAdd key r => exact reports_getOrAdd h name key r
  | add r => exact reports_getOrAdd h name _ r
  | remove key =>
    simp only [keep, remove]
    split
    · rfl
    · exact reports_restocked h name _ rfl
  | clear => exact reports_restocked h name _ rfl
  | evict time =>
    simp only [keep]
    rw [evict_eq hs]
    exact reports_takeAll h name _

theorem reports_turn (h : House) (c : Circumstance) : (h.turn c).reports = h.reports := by
  have hbehaviour : ∀ change : AuthModule → AuthModule, (∀ m, (change m).journal = m.journal) →
      (h.changeAuth change).reports = h.reports := by
    intro change hchange
    refine reports_of_journal ?_
    unfold changeAuth journal
    cases h.auth with
    | none => rfl
    | some m => exact hchange m
  cases c with
  | advance amount =>
    simp only [turn, advance]
    cases h.now.add? amount with
    | none => rfl
    | some time => rfl
  | veto reason => exact hbehaviour _ fun _ => rfl
  | approvalError cause => exact hbehaviour _ fun _ => rfl
  | failing failing => exact hbehaviour _ fun _ => rfl
  | _ => rfl

theorem reports_review (h : House) (login : String) :
    (h.review login).1.reports = h.reports := by
  unfold review
  cases hauth : h.auth with
  | none => rfl
  | some m =>
    simp only [reports, hauth, AuthModule.review, AuthModule.reports]
    split
    · rfl
    · simp

theorem reports_create (h : House) (draw : Draw) (request : LoginRequest) :
    (h.create draw request).1.reports = h.reports := by
  obtain ⟨ids, sessions, heq⟩ := create_house h draw request
  rw [heq]
  exact reports_review h request.login

theorem reports_restore (h : House) (record : SessionRecord) :
    (h.restore record).1.reports = h.reports := by
  obtain ⟨sessions, heq⟩ := restore_house h record
  rw [heq]
  rfl

theorem reports_subscribe (h : House) (r : SessionRef) (types : List String) :
    (h.subscribe r types).reports = h.reports := by
  unfold subscribe
  dsimp only
  split
  · exact reports_notify_other _ rfl
  · rfl

/-- A step that does not count traffic reports none. -/
theorem reports_step (hs : Sound h) {st : Step}
    (hst : ∀ r incoming outgoing, st ≠ .event (.use r (.countTraffic incoming outgoing))) :
    (h.step st).reports = h.reports := by
  cases st with
  | settings next => rfl
  | event e =>
    cases e with
    | circumstance c => exact reports_turn h c
    | create draw request => exact reports_create h draw request
    | restore record => exact reports_restore h record
    | use r u =>
      cases u with
      | countTraffic incoming outgoing => exact absurd rfl (hst r incoming outgoing)
      | subscribe types => exact reports_subscribe h r types
      | _ => rfl
    | upkeep name u => exact reports_keep hs name u

/-! ### The calls of one step -/

theorem setSession_session (h : House) (r : SessionRef) : h.setSession r (h.session r) = h := by
  have hsame : h.sessions.set r (h.session r) = h.sessions := by
    unfold session
    by_cases hr : r < h.sessions.length
    · simp [hr]
    · exact List.set_eq_of_length_le (Nat.le_of_not_lt hr)
  unfold setSession
  rw [hsame]

theorem countTraffic_of_countsNothing {r : SessionRef} (hoff : (h.session r).CountsNothing)
    (incoming outgoing : Option UInt64) : h.countTraffic r incoming outgoing = (h, .ok ()) := by
  unfold countTraffic
  rw [Session.countTraffic_of_countsNothing hoff]
  dsimp only
  rw [setSession_session]

/-- A report is passed on. -/
theorem countTraffic_of_report {r : SessionRef} {incoming outgoing : Option UInt64}
    {report : TrafficReport} (haudited : (h.session r).audited = true)
    (hreport : ((h.session r).countTraffic h.now incoming outgoing).2 = .ok (some report)) :
    (h.countTraffic r incoming outgoing).1 =
      (h.setSession r ((h.session r).countTraffic h.now incoming outgoing).1).notify
        (.traffic report) := by
  have horigin : Session.SameOrigin (h.session r)
      ((h.session r).countTraffic h.now incoming outgoing).1 := Session.countTraffic_keeps.1
  have hkept := horigin.audited.trans haudited
  unfold countTraffic
  cases hcount : (h.session r).countTraffic h.now incoming outgoing with
  | mk s outcome =>
    rw [hcount] at hreport hkept
    dsimp only at hreport hkept
    rw [hreport]
    dsimp only
    rw [if_pos hkept]

theorem countTraffic_of_no_report {r : SessionRef} {incoming outgoing : Option UInt64}
    (hnone : ∀ report,
      ((h.session r).countTraffic h.now incoming outgoing).2 ≠ .ok (some report)) :
    (h.countTraffic r incoming outgoing).1 =
      h.setSession r ((h.session r).countTraffic h.now incoming outgoing).1 := by
  unfold countTraffic
  split
  · rename_i s e heq
    rw [heq]
  · rename_i s heq
    rw [heq]
  · rename_i s report heq
    rw [heq] at hnone
    exact absurd rfl (hnone report)

section Call

variable {r : SessionRef} {calls pending : List TrafficCall} {reported : List Period}
  {incoming outgoing : Option UInt64}

/-- A call that is due, as the house sees it. -/
theorem countTraffic_of_due (ha : h.auth.isSome = true) (hlt : r < h.sessions.length)
    (haudited : (h.session r).audited = true) (hon : ¬ (h.session r).CountsNothing)
    (hcarries : (h.session r).Carries calls reported pending)
    (hdue : (h.session r).IsDue ((h.session r).lastReport reported) ⟨h.now, incoming, outgoing⟩) :
    (h.countTraffic r incoming outgoing).1.reports =
        h.reports ++ [(h.session r).reportOf ⟨pending, h.now, incoming, outgoing⟩] ∧
      ((h.countTraffic r incoming outgoing).1.session r).traffic = (0, 0, h.now) ∧
      ((h.countTraffic r incoming outgoing).1.session r).Carries
        (calls ++ [⟨h.now, incoming, outgoing⟩])
        (reported ++ [⟨pending, h.now, incoming, outgoing⟩]) [] := by
  obtain ⟨hreport, htraffic, hafter⟩ := hcarries.report hon hdue
  rw [countTraffic_of_report haudited hreport]
  refine ⟨?_, ?_⟩
  · exact reports_notify (h := h.setSession r _) ha _
  · show ((h.setSession r _).session r).traffic = _ ∧ ((h.setSession r _).session r).Carries _ _ _
    rw [session_setSession_self hlt]
    exact ⟨htraffic, hafter⟩

/-- Any other call on a session that counts. -/
theorem countTraffic_of_not_due (hlt : r < h.sessions.length)
    (hon : ¬ (h.session r).CountsNothing)
    (hcarries : (h.session r).Carries calls reported pending)
    (hdue : ¬ (h.session r).IsDue ((h.session r).lastReport reported)
      ⟨h.now, incoming, outgoing⟩) :
    (h.countTraffic r incoming outgoing).1.reports = h.reports ∧
      ((h.countTraffic r incoming outgoing).1.session r).Carries
        (calls ++ [⟨h.now, incoming, outgoing⟩]) reported
        (pending ++ [⟨h.now, incoming, outgoing⟩]) := by
  obtain ⟨hnone, hafter⟩ := hcarries.count hon hdue
  rw [countTraffic_of_no_report hnone, session_setSession_self hlt]
  exact ⟨rfl, hafter⟩

end Call

/-- A session that a step makes no call on has the traffic that it had. -/
theorem traffic_step {st : Step} {r : SessionRef} (hr : r < h.sessions.length)
    (hst : h.called r st = none) : ((h.step st).session r).traffic = (h.session r).traffic := by
  rcases session_step_cases h st hr with ⟨u, rfl, hsession⟩ | hsame
  · rw [hsession]
    refine Session.traffic_after fun incoming outgoing hu => ?_
    rw [hu, called, if_pos ⟨rfl, hr⟩] at hst
    cases hst
  · rw [hsame]

/-- A session that there was not has counted nothing. -/
theorem traffic_step_of_new {st : Step} {r : SessionRef} (hr : h.sessions.length ≤ r) :
    ((h.step st).session r).traffic = (0, 0, ((h.step st).session r).createdTime) := by
  rcases Nat.lt_or_ge r (h.step st).sessions.length with hlt | hge
  · rcases lt_length_or_made hlt with hbefore | hmade
    · exact absurd hbefore (Nat.not_lt.2 hr)
    · rcases made_cases hmade with ⟨draw, request, id, -, -, hs⟩ | ⟨record, -, -, hs⟩
      · exact Session.make_traffic hs
      · exact Session.ofRecord_traffic hs
  · rw [session_of_length_le hge]
    rfl

/-! ### The account of a house -/

/-- A list of periods accounts for all calls on the sessions of a house. -/
structure Balanced (h : House) (before : List TrafficReport)
    (calls : SessionRef → List TrafficCall) (told : List (SessionRef × Period)) : Prop
    extends Peopled h where
  /-- There is an auth module. -/
  audience : h.auth.isSome = true
  /-- It was told what there was before and then the reports of the periods. -/
  reports : h.reports = before ++ told.map fun t => (h.session t.1).reportOf t.2
  /-- The periods are of sessions that there are. -/
  known : ∀ t ∈ told, t.1 < h.sessions.length
  /-- There are no calls on others. -/
  strangers : ∀ r, h.sessions.length ≤ r → calls r = []
  /-- A session that counts carries the calls on it. -/
  carries : ∀ r, ¬ (h.session r).CountsNothing →
    ∃ pending, (h.session r).Carries (calls r) (periodsOf r told) pending
  /-- One that does not is as it was made. -/
  off : ∀ r, (h.session r).CountsNothing → periodsOf r told = [] ∧
    (h.session r).traffic = (0, 0, (h.session r).createdTime)

variable {before : List TrafficReport} {calls : SessionRef → List TrafficCall}
  {told : List (SessionRef × Period)}

theorem called_of_stranger {r : SessionRef} (hr : h.sessions.length ≤ r) (st : Step) :
    h.called r st = none := by
  unfold called
  split
  · exact if_neg fun hlt => Nat.not_lt.2 hr hlt.2
  · rfl

theorem auth_isSome_step (h : House) (st : Step) : (h.step st).auth.isSome = h.auth.isSome := by
  cases st with
  | settings next => rfl
  | event e => exact auth_isSome_of_moves (moves_after h e)

namespace Balanced

/-- A session that counts is one that the auth module is told of. -/
theorem tells (hb : Balanced h before calls told) {r : SessionRef}
    (hon : ¬ (h.session r).CountsNothing) :
    r < h.sessions.length ∧ (h.session r).audited = true := by
  have hservices : (h.session r).services ≠ none := fun hnone => hon (.inr hnone)
  have hlt : r < h.sessions.length := by
    by_contra hge
    rw [session_of_length_le (Nat.le_of_not_lt hge)] at hservices
    exact hservices rfl
  have hne : r ≠ emptyRef := by
    intro heq
    rw [heq] at hservices
    exact hservices hb.nobody.2
  have htold := hb.toSound.audited r (hb.somebody r hne hlt).1
  exact ⟨hlt, htold.trans hb.audience⟩

/-- A step that makes calls on at most one session.  What has to be shown is what becomes of that
session. -/
theorem advance (hb : Balanced h before calls told) (st : Step) (r₀ : SessionRef)
    (new : List Period)
    (hreports : (h.step st).reports = h.reports ++ new.map (h.session r₀).reportOf)
    (hcalled : ∀ r, r ≠ r₀ → h.called r st = none)
    (hcarries : ¬ (h.session r₀).CountsNothing → ∃ pending,
      ((h.step st).session r₀).Carries (calls r₀ ++ (h.called r₀ st).toList)
        (periodsOf r₀ told ++ new) pending)
    (hoff : (h.session r₀).CountsNothing →
      new = [] ∧ ((h.step st).session r₀).traffic = (h.session r₀).traffic) :
    Balanced (h.step st) before (fun r => calls r ++ (h.called r st).toList)
      (told ++ new.map (r₀, ·)) := by
  have horigin : ∀ r, r < h.sessions.length →
      Session.SameOrigin (h.session r) ((h.step st).session r) :=
    fun r hr => sameOrigin_step hb.toSound st hr
  have hnew : ∀ p ∈ new, r₀ < h.sessions.length := by
    intro p hp
    by_cases hcounts : (h.session r₀).CountsNothing
    · rw [(hoff hcounts).1] at hp
      cases hp
    · exact (hb.tells hcounts).1
  -- The periods of a session are those that it had, and the new ones if they are about it.
  have hself : periodsOf r₀ (told ++ new.map (r₀, ·)) = periodsOf r₀ told ++ new := by
    rw [periodsOf_append, periodsOf_map_self]
  have hother : ∀ r, r ≠ r₀ → periodsOf r (told ++ new.map (r₀, ·)) = periodsOf r told := by
    intro r hr
    have hnone : periodsOf r (new.map (r₀, ·)) = [] := by
      refine periodsOf_eq_nil fun t ht => ?_
      obtain ⟨p, -, rfl⟩ := List.mem_map.1 ht
      exact Ne.symm hr
    rw [periodsOf_append, hnone, List.append_nil]
  have hknown : ∀ t ∈ told ++ new.map (r₀, ·), t.1 < h.sessions.length := by
    intro t ht
    rcases List.mem_append.1 ht with hbefore | hnow
    · exact hb.known t hbefore
    · obtain ⟨p, hp, rfl⟩ := List.mem_map.1 hnow
      exact hnew p hp
  have hstranger : ∀ r, h.sessions.length ≤ r → periodsOf r (told ++ new.map (r₀, ·)) = [] ∧
      calls r ++ (h.called r st).toList = [] := by
    intro r hr
    refine ⟨periodsOf_eq_nil fun t ht heq => ?_, ?_⟩
    · exact Nat.not_lt.2 hr (heq ▸ hknown t ht)
    · rw [hb.strangers r hr, called_of_stranger hr]
      rfl
  constructor
  case toPeopled => exact hb.toPeopled.step st
  case audience => rw [auth_isSome_step, hb.audience]
  case reports =>
    rw [hreports, hb.reports, List.append_assoc, List.map_append, List.map_map]
    congr 2
    · refine List.map_congr_left fun t ht => ?_
      rw [Session.reportOf_of_sameOrigin (horigin t.1 (hb.known t ht))]
    · refine List.map_congr_left fun p hp => ?_
      exact (Session.reportOf_of_sameOrigin (horigin r₀ (hnew p hp)) p).symm
  case known => exact fun t ht => Nat.lt_of_lt_of_le (hknown t ht) (length_le_step h st)
  case strangers => exact fun r hr => (hstranger r (Nat.le_trans (length_le_step h st) hr)).2
  case carries =>
    intro r hon
    rcases Nat.lt_or_ge r h.sessions.length with hlt | hge
    · rw [(horigin r hlt).countsNothing] at hon
      by_cases hr : r = r₀
      · subst hr
        rw [hself]
        exact hcarries hon
      · obtain ⟨pending, hpending⟩ := hb.carries r hon
        rw [hother r hr, hcalled r hr, Option.toList_none, List.append_nil]
        exact ⟨pending, hpending.of_sameOrigin (horigin r hlt) (traffic_step hlt (hcalled r hr))⟩
    · obtain ⟨hnone, hcalls⟩ := hstranger r hge
      rw [hnone, hcalls]
      exact ⟨[], Session.carries_nil (traffic_step_of_new hge)⟩
  case off =>
    intro r hcounts
    rcases Nat.lt_or_ge r h.sessions.length with hlt | hge
    · rw [(horigin r hlt).countsNothing] at hcounts
      obtain ⟨hnone, htraffic⟩ := hb.off r hcounts
      rw [(horigin r hlt).createdTime, ← htraffic]
      by_cases hr : r = r₀
      · subst hr
        obtain ⟨hnil, hsame⟩ := hoff hcounts
        rw [hself, hnil, List.append_nil]
        exact ⟨hnone, hsame⟩
      · rw [hother r hr]
        exact ⟨hnone, traffic_step hlt (hcalled r hr)⟩
    · exact ⟨(hstranger r hge).1, traffic_step_of_new hge⟩

/-- A step that makes no call. -/
theorem quiet (hb : Balanced h before calls told) {st : Step}
    (hst : ∀ r incoming outgoing, st ≠ .event (.use r (.countTraffic incoming outgoing))) :
    Balanced (h.step st) before (fun r => calls r ++ (h.called r st).toList) told := by
  have hcalled : ∀ r, h.called r st = none := by
    intro r
    unfold called
    split
    · rename_i r' incoming outgoing
      exact absurd rfl (hst r' incoming outgoing)
    · rfl
  -- No session is called, so it does not matter which one is looked at.
  have hstep := hb.advance st emptyRef [] ?_ (fun r _ => hcalled r) ?_ ?_
  · rw [List.map_nil, List.append_nil] at hstep
    exact hstep
  · rw [reports_step hb.toSound hst, List.map_nil, List.append_nil]
  · intro hon
    exact absurd (.inr hb.nobody.2) hon
  · intro _
    exact ⟨rfl, traffic_step hb.first (hcalled emptyRef)⟩

/-- A call. -/
theorem call (hb : Balanced h before calls told) (r : SessionRef)
    (incoming outgoing : Option UInt64) :
    ∃ new : List Period, Balanced (h.countTraffic r incoming outgoing).1 before
      (fun r' => calls r' ++
        (h.called r' (.event (.use r (.countTraffic incoming outgoing)))).toList)
      (told ++ new.map (r, ·)) := by
  have hother : ∀ r', r' ≠ r →
      h.called r' (.event (.use r (.countTraffic incoming outgoing))) = none := by
    intro r' hr'
    exact if_neg fun heq => hr' heq.1.symm
  have hadvance := hb.advance (.event (.use r (.countTraffic incoming outgoing))) r
  by_cases hcounts : (h.session r).CountsNothing
  · have hsame := congrArg Prod.fst (countTraffic_of_countsNothing hcounts incoming outgoing)
    have hreports := congrArg House.reports hsame
    refine ⟨[], hadvance [] (hreports.trans (List.append_nil _).symm) hother (absurd hcounts)
      fun _ => ?_⟩
    exact ⟨rfl, congrArg (fun g => (House.session g r).traffic) hsame⟩
  · obtain ⟨hlt, haudited⟩ := hb.tells hcounts
    obtain ⟨pending, hpending⟩ := hb.carries r hcounts
    have hself : h.called r (.event (.use r (.countTraffic incoming outgoing))) =
        some ⟨h.now, incoming, outgoing⟩ := if_pos ⟨rfl, hlt⟩
    rw [hself] at hadvance
    by_cases hdue : (h.session r).IsDue ((h.session r).lastReport (periodsOf r told))
        ⟨h.now, incoming, outgoing⟩
    · obtain ⟨hreports, -, hcarries⟩ :=
        countTraffic_of_due hb.audience hlt haudited hcounts hpending hdue
      exact ⟨_, hadvance [⟨pending, h.now, incoming, outgoing⟩] hreports hother
        (fun _ => ⟨[], hcarries⟩) fun hoff => absurd hoff hcounts⟩
    · obtain ⟨hreports, hcarries⟩ := countTraffic_of_not_due hlt hcounts hpending hdue
      rw [← List.append_nil (periodsOf r told)] at hcarries
      exact ⟨[], hadvance [] (hreports.trans (List.append_nil _).symm) hother
        (fun _ => ⟨_, hcarries⟩) fun hoff => absurd hoff hcounts⟩

/-- **A step keeps the account.** -/
theorem step (hb : Balanced h before calls told) (st : Step) :
    ∃ told', Balanced (h.step st) before (fun r => calls r ++ (h.called r st).toList) told' := by
  by_cases hst : ∀ r incoming outgoing, st ≠ .event (.use r (.countTraffic incoming outgoing))
  · exact ⟨told, hb.quiet hst⟩
  · push Not at hst
    obtain ⟨r, incoming, outgoing, rfl⟩ := hst
    obtain ⟨new, hnew⟩ := hb.call r incoming outgoing
    exact ⟨_, hnew⟩

end Balanced

theorem balanced_fresh (settings : SessionSettings) (now : Instant) (address : AddressSource)
    (m : AuthModule) :
    Balanced (fresh settings now address (some m)) (fresh settings now address (some m)).reports
      (fun _ => []) [] := by
  have hempty : ∀ r, (fresh settings now address (some m)).session r = .empty := by
    intro r
    cases r <;> rfl
  constructor
  case toPeopled => exact peopled_fresh settings now address (some m)
  case audience => rfl
  case reports => simp
  case known => simp
  case strangers => simp
  case carries =>
    intro r hon
    rw [hempty r] at hon
    exact absurd (.inl rfl) hon
  case off =>
    intro r _
    rw [hempty r]
    exact ⟨rfl, rfl⟩

/-- The account of a run. -/
theorem balanced_stepAll (settings : SessionSettings) (now : Instant) (address : AddressSource)
    (m : AuthModule) (steps : List Step) :
    ∃ told, Balanced ((fresh settings now address (some m)).stepAll steps)
      (fresh settings now address (some m)).reports
      (fun r => (fresh settings now address (some m)).callsOf r steps) told := by
  induction steps using List.reverseRecOn with
  | nil => exact ⟨[], balanced_fresh settings now address m⟩
  | append_singleton steps st ih =>
    obtain ⟨told, hb⟩ := ih
    obtain ⟨told', hb'⟩ := hb.step st
    refine ⟨told', ?_⟩
    simp only [callsOf_concat]
    unfold stepAll at hb' ⊢
    rw [List.foldl_append]
    exact hb'

/-! ### Nothing is lost, nothing is counted twice -/

/-- What has become of the calls on a session, and what becomes of one more. -/
structure Accounts (h : House) (r : SessionRef) (calls : List TrafficCall)
    (reported : List Period) (pending : List TrafficCall) : Prop
    extends (h.session r).Carries calls reported pending where
  /-- One more call makes a report if it is due, of all that is pending with it, and else none. -/
  next : ∀ incoming outgoing, (h.countTraffic r incoming outgoing).1.reports =
    h.reports ++
      if (h.session r).IsDue ((h.session r).lastReport reported) ⟨h.now, incoming, outgoing⟩ then
        [(h.session r).reportOf ⟨pending, h.now, incoming, outgoing⟩]
      else []
  /-- Nothing is pending right after a report. -/
  settled : ∀ incoming outgoing,
    (h.session r).IsDue ((h.session r).lastReport reported) ⟨h.now, incoming, outgoing⟩ →
      ((h.countTraffic r incoming outgoing).1.session r).traffic = (0, 0, h.now)

/-- What a run that led to a house says of traffic, told as a list of periods. -/
structure Settles (start : House) (steps : List Step) (h : House)
    (told : List (SessionRef × Period)) : Prop where
  /-- The auth module is told of each period once, in order, and of no other traffic. -/
  reports : h.reports = start.reports ++ told.map fun t => (h.session t.1).reportOf t.2
  /-- A session that reports accounts for all calls on it. -/
  accounts : ∀ r, r ≠ emptyRef → r < h.sessions.length →
    (h.session r).trafficFlushMinutes ≠ 0 →
      ∃ pending, Accounts h r (start.callsOf r steps) (periodsOf r told) pending
  /-- One that does not has counted nothing, and no call on it does anything. -/
  silent : ∀ r, (h.session r).trafficFlushMinutes = 0 →
    periodsOf r told = [] ∧ (h.session r).incoming = 0 ∧ (h.session r).outgoing = 0 ∧
      ∀ incoming outgoing, h.countTraffic r incoming outgoing = (h, .ok ())

theorem Balanced.accounts {before : List TrafficReport} {calls : SessionRef → List TrafficCall}
    {told : List (SessionRef × Period)} (hb : Balanced h before calls told) {r : SessionRef}
    (hon : ¬ (h.session r).CountsNothing) :
    ∃ pending, Accounts h r (calls r) (periodsOf r told) pending := by
  obtain ⟨hlt, haudited⟩ := hb.tells hon
  obtain ⟨pending, hpending⟩ := hb.carries r hon
  refine ⟨pending, hpending, fun incoming outgoing => ?_, fun incoming outgoing hdue => ?_⟩
  · by_cases hdue : (h.session r).IsDue ((h.session r).lastReport (periodsOf r told))
        ⟨h.now, incoming, outgoing⟩
    · rw [if_pos hdue]
      exact (countTraffic_of_due hb.audience hlt haudited hon hpending hdue).1
    · rw [if_neg hdue, List.append_nil]
      exact (countTraffic_of_not_due hlt hon hpending hdue).1
  · exact (countTraffic_of_due hb.audience hlt haudited hon hpending hdue).2.1

/-- **After every run of a house with an auth module, whether it can keep what it is told or not and
with the clock going either way, all traffic is reported once or still pending.** -/
theorem traffic_is_settled (settings : SessionSettings) (now : Instant) (address : AddressSource)
    (m : AuthModule) (steps : List Step) :
    ∃ told, Settles (fresh settings now address (some m)) steps
      ((fresh settings now address (some m)).stepAll steps) told := by
  obtain ⟨told, hb⟩ := balanced_stepAll settings now address m steps
  refine ⟨told, hb.reports, fun r hr hlt hinterval => ?_, fun r hinterval => ?_⟩
  · have hon : ¬ (((fresh settings now address (some m)).stepAll steps).session r).CountsNothing := by
      intro hcounts
      rcases hcounts with hzero | hnone
      · exact hinterval hzero
      · exact (hb.somebody r hr hlt).2 hnone
    exact hb.accounts hon
  · obtain ⟨hnone, htraffic⟩ := hb.off r (.inl hinterval)
    obtain ⟨hincoming, hrest⟩ := Prod.ext_iff.1 htraffic
    obtain ⟨houtgoing, -⟩ := Prod.ext_iff.1 hrest
    exact ⟨hnone, hincoming, houtgoing, countTraffic_of_countsNothing (.inl hinterval)⟩

/-- The test of the boundary: at exactly ten minutes nothing is due.  A count that is full stays full,
and is reported although the module fails; then the clock goes back. -/
theorem traffic_of_a_failing_module :
    let start := fresh ⟨20, 10, 0⟩ .epoch (.fixed "") (some (.fresh true))
    let steps : List Step :=
      [.event (.restore ⟨⟨7⟩, 1, "ada", "", none, [], "", [], ""⟩),
       .event (.use 1 (.countTraffic (some (UInt64.ofNat (UInt64.size - 2))) (some 40))),
       .event (.circumstance (.failing true)), .event (.circumstance (.advance (minutes 10))),
       .event (.use 1 (.countTraffic (some 7) none)),
       .event (.circumstance (.advance 1)), .event (.use 1 (.countTraffic none (some 2))),
       .event (.circumstance (.advance (minutes (-5)))),
       .event (.use 1 (.countTraffic (some 5) none)), .event (.use 1 (.countTraffic none none)),
       .event (.use 1 (.countTraffic none (some 3)))]
    let h := start.stepAll steps
    (h.reports.map fun report => (report.incoming, report.outgoing)) =
        [(UInt64.ofNat (UInt64.size - 1), 42), (5, 0)] ∧
      (h.session 1).outgoing = 3 ∧ ∃ told, Settles start steps h told := by
  intro start steps h
  have hreports : (h.reports.map fun report => (report.incoming, report.outgoing)) =
      [(UInt64.ofNat (UInt64.size - 1), 42), (5, 0)] := by decide +kernel
  have houtgoing : (h.session 1).outgoing = 3 := by decide +kernel
  exact ⟨hreports, houtgoing,
    traffic_is_settled ⟨20, 10, 0⟩ .epoch (.fixed "") (.fresh true) steps⟩

end House

end Gatehouse
