/-
Runs in which no time leaves its range.

Other results about runs ask that the ends of sessions stay in range.  Here it is shown when
they do: if the settings are valid and the clock, going either way, keeps within the
horizon, then nothing that is asked of the house fails for want of an instant.  Every session
is the Empty one, which nobody changes, or has times that the clock gave it; and it keeps
having such times whatever is done with it (`Session.Timely.after`).

The clock is looked at before each event and after the last one, which is after every
beginning of the run.
-/
import Gatehouse.Proofs.House.Approval
import Gatehouse.Proofs.House.Eviction
import Gatehouse.Proofs.House.Nobody
import Gatehouse.Proofs.House.Restoring
import Gatehouse.Proofs.Session.Range

namespace Gatehouse.House

/-- All sessions have times that a clock within the horizon gave them. -/
structure Timely (h : House) (settings : SessionSettings) : Prop extends Sound h where
  /-- Sessions are made under these settings. -/
  current : h.settings = settings
  /-- All but the Empty session were made under them, and have such times. -/
  sessions : ∀ r, h.session r = .empty ∨ (h.session r).Timely settings

/-- Nothing that is asked of the house takes a time out of its range. -/
structure Unstrained (h : House) (settings : SessionSettings) : Prop where
  /-- A session that is asked for may be refused, but not for its end. -/
  create : ∀ draw request, (h.create draw request).2 ≠ .error .overflow
  /-- Neither is one that is brought back. -/
  restore : ∀ record, (h.restore record).2 ≠ .error .overflow
  /-- Every session can be used... -/
  refresh : ∀ r, (h.refresh r).2 = .ok ()
  /-- ... and its traffic counted. -/
  countTraffic : ∀ r incoming outgoing, (h.countTraffic r incoming outgoing).2 = .ok ()
  /-- The Empty session ends with the last instant, and any other exactly when its lifetime has passed
  since its last use. -/
  isExpired : ∀ r time, (h.session r).isExpired time = true ↔
    h.session r = .empty ∧ .last < time ∨ h.session r ≠ .empty ∧
      (h.session r).lastAccessedTime.Lapsed settings.ttlMinutes.toNat time
  /-- At any time there is an answer whether it is due a warning... -/
  needsWarning : ∀ r time, ∃ due,
    (h.session r).needsWarning time (minutes settings.expirationWarningMinutes.toNat) = .ok due
  /-- ... and which of a store are. -/
  pendingWarnings : ∀ name time, ∃ reported,
    h.pendingWarnings name time (minutes settings.expirationWarningMinutes.toNat) = .ok reported
  /-- An eviction takes out the stored sessions whose lifetime has passed. -/
  evict : ∀ name time id, id ∈ (h.evict name time).2 ↔ ∃ r, h.find name id = some r ∧
    (h.session r).lastAccessedTime.Lapsed settings.ttlMinutes.toNat time

variable {h start : House} {settings : SessionSettings}

/-! ### One event -/

theorem settings_after (h : House) (e : Event) : (h.after e).settings = h.settings := by
  cases e with
  | circumstance c =>
    cases c with
    | advance amount =>
      simp only [after, turn, advance]
      cases h.now.add? amount with
      | none => rfl
      | some time => rfl
    | _ => rfl
  | create draw request =>
    obtain ⟨ids, sessions, heq⟩ := create_house h draw request
    show (h.create draw request).1.settings = _
    rw [heq]
    exact (sameAround_review h request.login).settings
  | restore record => exact (sameAround_restore h record).settings
  | use r u => exact (sameAround_use h r u).settings
  | upkeep name u => exact (sameAround_keep h name u).settings

theorem timely_fresh (settings : SessionSettings) (now : Instant) (address : AddressSource)
    (auth : Option AuthModule) : Timely (fresh settings now address auth) settings where
  toSound := sound_fresh settings now address auth
  current := rfl
  sessions := by
    intro r
    cases r with
    | zero => exact .inl rfl
    | succ r => exact .inl rfl

/-- What an event makes within the horizon has times from there, and what it uses keeps them. -/
theorem Timely.after (ht : Timely h settings) (hnow : h.now ≤ .horizon) (e : Event) :
    Timely (h.after e) settings := by
  refine ⟨ht.toSound.step (.event e), (settings_after h e).trans ht.current, ?_⟩
  intro r
  rcases Nat.lt_or_ge r (h.after e).sessions.length with hlt | hge
  · have hmore : r < (h.step (.event e)).sessions.length := hlt
    rcases lt_length_or_made hmore with hbefore | hmade
    · rcases session_step_cases h (.event e) hbefore with ⟨u, -, hused⟩ | hsame
      · change (h.after e).session r = _ at hused
        rw [hused]
        rcases ht.sessions r with hempty | htimely
        · rw [hempty]
          exact .inl (Session.after_empty ..)
        · exact .inr (htimely.after hnow u)
      · change (h.after e).session r = _ at hsame
        rw [hsame]
        exact ht.sessions r
    · have hservices : h.services.settings = settings := ht.current
      rw [← hservices]
      rcases made_cases hmade with ⟨draw, request, id, -, -, hs⟩ | ⟨record, -, -, hs⟩
      · exact .inr (Session.make_timely hs hnow)
      · exact .inr (Session.ofRecord_timely hs hnow)
  · exact .inl (session_of_length_le hge)

/-! ### What is asked -/

theorem create_ne_overflow (hnow : h.now ≤ .horizon) (draw : Draw) (request : LoginRequest) :
    (h.create draw request).2 ≠ .error .overflow := by
  have haround := sameAround_review h request.login
  unfold create
  split
  · simp
  · rename_i h' heq
    rw [heq] at haround
    have hnow' : h'.now ≤ .horizon := by
      rw [haround.now]
      exact hnow
    dsimp only
    split
    · rename_i hfailed
      exact absurd hfailed (Session.make_ne_error hnow')
    · simp

theorem restore_ne_overflow (hnow : h.now ≤ .horizon) (record : SessionRecord) :
    (h.restore record).2 ≠ .error .overflow := by
  have hend := Instant.exists_add?_minutes hnow h.services.settings.ttlMinutes
  obtain ⟨s, hs⟩ := Session.exists_ofRecord record (Option.isSome_iff_exists.2 hend)
  unfold restore
  split
  · simp
  · rw [hs]
    simp

theorem exists_pendingWarnings {resolve : SessionRef → Session} {time : Instant} {window : Int}
    (h : ∀ r, ∃ due, (resolve r).needsWarning time window = .ok due) (refs : List SessionRef) :
    ∃ reported, Store.pendingWarnings.go resolve time window refs = .ok reported := by
  induction refs with
  | nil => exact ⟨[], rfl⟩
  | cons r refs ih =>
    obtain ⟨due, hdue⟩ := h r
    obtain ⟨rest, hrest⟩ := ih
    unfold Store.pendingWarnings.go
    rw [hdue, hrest]
    exact ⟨_, rfl⟩

theorem Timely.isExpired_iff (ht : Timely h settings) (r : SessionRef) (time : Instant) :
    (h.session r).isExpired time = true ↔
      h.session r = .empty ∧ .last < time ∨ h.session r ≠ .empty ∧
        (h.session r).lastAccessedTime.Lapsed settings.ttlMinutes.toNat time := by
  rcases ht.sessions r with hempty | htimely
  · rw [hempty, Session.isExpired_empty]
    simp
  · have hsomebody : h.session r ≠ .empty := by
      intro hempty
      obtain ⟨services, hservices, -⟩ := htimely.services
      rw [hempty] at hservices
      cases hservices
    rw [htimely.isExpired_iff]
    simp only [hsomebody, false_and, false_or, ne_eq, not_false_eq_true, true_and]

/-- **Within the horizon and under valid settings nothing fails for want of an instant.** -/
theorem Timely.unstrained (ht : Timely h settings) (hnow : h.now ≤ .horizon)
    (hvalid : settings.validate = .ok ()) : Unstrained h settings := by
  have hbegins : ∀ r, ∃ begins, (h.session r).expirationTime.sub?
      (minutes settings.expirationWarningMinutes.toNat) = some begins := by
    intro r
    rcases ht.sessions r with hempty | htimely
    · rw [hempty]
      exact Session.exists_begins_empty _
    · exact htimely.exists_begins hvalid
  have hwarning := fun r time => Session.exists_needsWarning (hbegins r) time
  constructor
  case create => exact create_ne_overflow hnow
  case restore => exact restore_ne_overflow hnow
  case refresh =>
    intro r
    show ((h.session r).refresh h.now h.address.resolve).2 = .ok ()
    rcases ht.sessions r with hempty | htimely
    · rw [hempty]
      rfl
    · exact (htimely.refresh hnow).1
  case countTraffic =>
    intro r incoming outgoing
    have hcounted : ∃ due, ((h.session r).countTraffic h.now incoming outgoing).2 = .ok due := by
      rcases ht.sessions r with hempty | htimely
      · rw [hempty, Session.countTraffic_of_countsNothing (.inl rfl)]
        exact ⟨none, rfl⟩
      · exact (htimely.countTraffic hnow incoming outgoing).1
    obtain ⟨due, hdue⟩ := hcounted
    unfold House.countTraffic
    split
    · rename_i heq
      rw [heq] at hdue
      cases hdue
    · rfl
    · rfl
  case isExpired => exact ht.isExpired_iff
  case needsWarning => exact hwarning
  case pendingWarnings =>
    intro name time
    exact exists_pendingWarnings (fun r => hwarning r time) _
  case evict =>
    intro name time id
    rw [evict_eq ht.toSound, mem_ended_iff ht.toSound]
    refine exists_congr fun r => and_congr_right fun hr => ?_
    have hsomebody : h.session r ≠ .empty := by
      intro hempty
      obtain ⟨hid, hkey⟩ := ht.keyed name id r hr
      rw [← hid, hempty] at hkey
      cases hkey
    exact ((ht.sessions r).resolve_left hsomebody).isExpired_iff

/-! ### Runs -/

theorem run_concat (h : House) (events : List Event) (e : Event) :
    h.run (events ++ [e]) = (h.run events).after e := by
  unfold run
  rw [List.foldl_append]
  rfl

theorem Timely.run (ht : Timely h settings) (events : List Event)
    (hclock : ∀ past, past <+: events → (h.run past).now ≤ .horizon) :
    Timely (h.run events) settings := by
  induction events using List.reverseRecOn with
  | nil => exact ht
  | append_singleton events e ih =>
    have hpast : events <+: events ++ [e] := List.prefix_append _ _
    rw [run_concat]
    exact (ih fun past hbegins => hclock past (hbegins.trans hpast)).after (hclock events hpast) e

/-- A run that is unstrained at every point is one in which the ends of sessions stay in range. -/
theorem inRange_of_unstrained {events : List Event}
    (h : ∀ past, past <+: events → Unstrained (start.run past) settings) :
    start.inRange (events.map .event) = true ∧ start.createsInRange (events.map .event) = true := by
  induction events generalizing start with
  | nil => exact ⟨rfl, rfl⟩
  | cons e rest ih =>
    have hnow : Unstrained start settings := h [] List.nil_prefix
    have hrest : ∀ past, past <+: rest → Unstrained ((start.after e).run past) settings :=
      fun past hbegins => h (e :: past) (List.cons_prefix_cons.2 ⟨rfl, hbegins⟩)
    obtain ⟨hrefreshes, hcreates⟩ := ih hrest
    have hrefresh : start.staysInRange (.event e) = true := by
      unfold staysInRange
      split
      · rename_i r _
        rw [hnow.refresh r]
        rfl
      · rfl
    have hcreate : start.overreaches (.event e) = false := by
      unfold overreaches
      split
      · rename_i draw request heq
        split
        · rename_i hfailed
          exact absurd hfailed (hnow.create draw request)
        · rfl
      · rfl
    refine ⟨Bool.and_eq_true_iff.2 ⟨hrefresh, hrefreshes⟩, Bool.and_eq_true_iff.2 ⟨?_, hcreates⟩⟩
    rw [hcreate]
    rfl

/-- **Under valid settings, and with a clock that keeps within the horizon, no time leaves its range
in a run, nor can it be made to at any point of the run.** -/
theorem nothing_leaves_range (settings : SessionSettings) (hvalid : settings.validate = .ok ())
    (now : Instant) (address : AddressSource) (auth : Option AuthModule) (events : List Event)
    (hclock : ∀ past, past <+: events →
      ((fresh settings now address auth).run past).now ≤ .horizon) :
    let start := fresh settings now address auth
    (∀ past, past <+: events → Unstrained (start.run past) settings) ∧
      start.inRange (events.map .event) = true ∧
      start.createsInRange (events.map .event) = true := by
  intro start
  have hall : ∀ past, past <+: events → Unstrained (start.run past) settings := by
    intro past hbegins
    have htimely := (timely_fresh settings now address auth).run past
      fun earlier hearlier => hclock earlier (hearlier.trans hbegins)
    exact htimely.unstrained (hclock past hbegins) hvalid
  exact ⟨hall, inRange_of_unstrained hall⟩

/-- The longest lifetime, window and interval there are, with the clock at both ends: made at the first
instant, used and counted at the horizon, asked about at the last instant. -/
theorem unstrained_at_both_ends :
    let settings : SessionSettings := ⟨4294967295, 7, 4294967294⟩
    let start := fresh settings .first (.settable "here") (some (.fresh true))
    let events : List Event :=
      [.create ⟨3, 1, by decide, by decide⟩
        ⟨1, "ada", none, ∅, "", none, "", some 4294967295⟩,
       .upkeep .main (.add 1), .circumstance (.clock .horizon), .use 1 .refresh,
       .use 1 (.countTraffic (some 5) none), .circumstance (.advance (minutes (-1)))]
    let h := start.run events
    let window := minutes settings.expirationWarningMinutes.toNat
    settings.validate = .ok () ∧ (∀ past, past <+: events → (start.run past).now ≤ .horizon) ∧
      (h.session 1).expirationTime = .last ∧ (h.refresh 1).2 = .ok () ∧
      (h.countTraffic 1 none (some 1)).2 = .ok () ∧
      (∃ reported, h.pendingWarnings .main .last window = .ok reported) ∧
      ∃ due, (h.session emptyRef).needsWarning .last window = .ok due := by
  intro settings start events h window
  have hvalid : settings.validate = .ok () := rfl
  have hclock : ∀ past ∈ events.inits, (start.run past).now ≤ .horizon := by decide +kernel
  have hclock : ∀ past, past <+: events → (start.run past).now ≤ .horizon :=
    fun past hbegins => hclock past ((List.mem_inits past events).2 hbegins)
  have hall := (nothing_leaves_range settings hvalid .first (.settable "here")
    (some (.fresh true)) events hclock).1 events (List.prefix_refl events)
  refine ⟨hvalid, hclock, by decide +kernel, hall.refresh 1, hall.countTraffic 1 none (some 1),
    hall.pendingWarnings .main .last, ?_⟩
  exact hall.needsWarning emptyRef .last

end Gatehouse.House
