/-
Where the traffic of a session goes.

Every call that counts traffic belongs to one period, and every period ends in one report
or has not ended yet.  Which one it is does not depend on the counts: a call ends its
period if it gives nothing to count, or if the clock has passed the interval since the
period began, and it is itself the last call of what it reports.  So the calls are cut
into periods first (`Carries`), and then the counts are shown to be the sums of the
periods.

The counts stop at the largest number there is.  A count that has stopped stays there, so
it is still the exact sum cut off once (`counted_add`), and not a sum of numbers cut off
on the way.  A report whose due time is beyond the last instant is never due: no clock can
have passed it.
-/
import Gatehouse.Proofs.Session.Use
import Gatehouse.Proofs.Time.LeapSeconds

namespace Gatehouse

/-! ### Calls and periods -/

/-- A call that counts traffic: when it is made and what it gives to count. -/
structure TrafficCall where
  time : Instant
  incoming : Option UInt64
  outgoing : Option UInt64
  deriving DecidableEq

/-- The calls that one report is about.  The last of them is the one that makes it. -/
structure Period where
  before : List TrafficCall
  last : TrafficCall
  deriving DecidableEq

def Period.calls (p : Period) : List TrafficCall := p.before ++ [p.last]

/-- The sum of what calls give to count in one direction. -/
def total (direction : TrafficCall → Option UInt64) : List TrafficCall → Nat
  | [] => 0
  | c :: rest => ((direction c).getD 0).toNat + total direction rest

/-- A sum as it is counted: the largest count if it is larger. -/
def counted (n : Nat) : UInt64 := .ofNat (min n (UInt64.size - 1))

theorem total_concat (direction : TrafficCall → Option UInt64) (calls : List TrafficCall)
    (c : TrafficCall) :
    total direction (calls ++ [c]) = total direction calls + ((direction c).getD 0).toNat := by
  induction calls with
  | nil => simp [total]
  | cons first rest ih =>
    show ((direction first).getD 0).toNat + total direction (rest ++ [c]) = _
    rw [ih, ← Nat.add_assoc]
    rfl

theorem toNat_counted (n : Nat) : (counted n).toNat = min n (UInt64.size - 1) := by
  have hsize : UInt64.size = 2 ^ 64 := rfl
  unfold counted
  rw [UInt64.toNat_ofNat', Nat.mod_eq_of_lt]
  omega

/-- It makes no difference when a count is cut off. -/
theorem counted_add (n : Nat) (a : UInt64) :
    Session.addSaturating (counted n) a = counted (n + a.toNat) := by
  unfold Session.addSaturating
  rw [toNat_counted]
  show UInt64.ofNat _ = UInt64.ofNat _
  congr 1
  omega

namespace Session

variable {s t : Session}

/-! ### When a report is due -/

/-- A call makes a report if it gives nothing to count, or if the clock has passed the interval since
the last report. -/
def IsDue (s : Session) (since : Instant) (c : TrafficCall) : Prop :=
  (c.incoming = none ∧ c.outgoing = none) ∨
    since.Lapsed s.trafficFlushMinutes.toNat c.time

instance (s : Session) (since : Instant) (c : TrafficCall) : Decidable (s.IsDue since c) :=
  inferInstanceAs (Decidable (_ ∨ _))

/-- When the last of some periods ended; before all of them, when the session was made. -/
def lastReport (s : Session) (reported : List Period) : Instant :=
  match reported.getLast? with
  | some p => p.last.time
  | none => s.createdTime

/-- What is reported of a period. -/
def reportOf (s : Session) (p : Period) : TrafficReport :=
  ⟨s.id, s.login, counted (total (·.incoming) p.calls), counted (total (·.outgoing) p.calls),
    p.last.time⟩

/-- What the session has counted, and when it last reported. -/
def traffic (s : Session) : UInt64 × UInt64 × Instant := (s.incoming, s.outgoing, s.lastFlush)

@[simp] theorem lastReport_concat (s : Session) (reported : List Period) (p : Period) :
    s.lastReport (reported ++ [p]) = p.last.time := by
  unfold lastReport
  rw [List.getLast?_concat]

/-- Reports are switched off for the session, or it stands for nobody. -/
def CountsNothing (s : Session) : Prop := s.trafficFlushMinutes = 0 ∨ s.services = none

instance (s : Session) : Decidable s.CountsNothing := inferInstanceAs (Decidable (_ ∨ _))

theorem SameOrigin.countsNothing (h : SameOrigin s t) : t.CountsNothing ↔ s.CountsNothing := by
  unfold CountsNothing
  rw [h.trafficFlushMinutes, h.services]

theorem countTraffic_of_countsNothing (hoff : s.CountsNothing) (now : Instant)
    (incoming outgoing : Option UInt64) :
    s.countTraffic now incoming outgoing = (s, .ok none) := by
  unfold countTraffic
  exact if_pos hoff

/-- A call that is due reports the counts and sets them back. -/
theorem countTraffic_of_due (hon : ¬ s.CountsNothing) {c : TrafficCall}
    (hdue : s.IsDue s.lastFlush c) :
    s.countTraffic c.time c.incoming c.outgoing =
      ({ s with incoming := 0, outgoing := 0, lastFlush := c.time },
        .ok (some ⟨s.id, s.login, addSaturating s.incoming (c.incoming.getD 0),
          addSaturating s.outgoing (c.outgoing.getD 0), c.time⟩)) := by
  unfold CountsNothing at hon
  unfold countTraffic
  rw [if_neg hon]
  dsimp only
  by_cases hforced : c.incoming = none ∧ c.outgoing = none
  · rw [if_pos hforced]
    rfl
  · have hpast := hdue.resolve_left hforced
    -- The clock has got there, so the time at which the report is due is one that can be told.
    obtain ⟨due, hadd, hlate⟩ := Instant.lapsed_iff.1 hpast
    rw [if_neg hforced, hadd]
    dsimp only
    rw [if_neg (Instant.not_le_iff.2 hlate)]
    rfl

/-- Any other call adds to the counts, and there is no report. -/
theorem countTraffic_of_not_due (hon : ¬ s.CountsNothing) {c : TrafficCall}
    (hdue : ¬ s.IsDue s.lastFlush c) :
    (s.countTraffic c.time c.incoming c.outgoing).1 = { s with
        incoming := addSaturating s.incoming (c.incoming.getD 0)
        outgoing := addSaturating s.outgoing (c.outgoing.getD 0) } ∧
      ∀ report, (s.countTraffic c.time c.incoming c.outgoing).2 ≠ .ok (some report) := by
  obtain ⟨hforced, hpast⟩ := not_or.1 hdue
  unfold CountsNothing at hon
  unfold countTraffic
  rw [if_neg hon]
  dsimp only
  rw [if_neg hforced]
  cases hadd : s.lastFlush.add? (minutes s.trafficFlushMinutes.toNat) with
  | none => exact ⟨rfl, fun report h => nomatch h⟩
  | some due =>
    have hearly : ¬ due < c.time := fun hlate => hpast (Instant.lapsed_iff.2 ⟨due, hadd, hlate⟩)
    dsimp only
    rw [if_pos (Instant.not_lt_iff.1 hearly)]
    exact ⟨rfl, fun report h => nomatch h⟩

/-! ### What a session carries -/

/-- Of all calls on a session, those of some periods are reported, and the others are pending. -/
structure Carries (s : Session) (calls : List TrafficCall) (reported : List Period)
    (pending : List TrafficCall) : Prop where
  /-- Every call is in one period or pending, in the order of the calls. -/
  calls : calls = reported.flatMap Period.calls ++ pending
  /-- A report was due at the last call of its period, and not at any call before. -/
  due : ∀ before p after, reported = before ++ p :: after →
    s.IsDue (s.lastReport before) p.last ∧ ∀ c ∈ p.before, ¬ s.IsDue (s.lastReport before) c
  /-- None was due at any call that is pending. -/
  waiting : ∀ c ∈ pending, ¬ s.IsDue (s.lastReport reported) c
  /-- The session knows when the last report was made. -/
  lastFlush : s.lastFlush = s.lastReport reported
  /-- It has counted what is pending. -/
  incoming : s.incoming = counted (total (·.incoming) pending)
  outgoing : s.outgoing = counted (total (·.outgoing) pending)

variable {calls pending : List TrafficCall} {reported : List Period}

/-- Nothing was called yet. -/
theorem carries_nil (htraffic : s.traffic = (0, 0, s.createdTime)) : s.Carries [] [] [] := by
  obtain ⟨hincoming, hrest⟩ := Prod.ext_iff.1 htraffic
  obtain ⟨houtgoing, hlast⟩ := Prod.ext_iff.1 hrest
  refine ⟨rfl, fun before p after h => ?_, fun c hc => ?_, hlast, hincoming, houtgoing⟩
  · simp at h
  · cases hc

/-- Only what a session is made with and what it has counted matter. -/
theorem Carries.of_sameOrigin (h : s.Carries calls reported pending) (horigin : SameOrigin s t)
    (htraffic : t.traffic = s.traffic) : t.Carries calls reported pending := by
  obtain ⟨hincoming, hrest⟩ := Prod.ext_iff.1 htraffic
  obtain ⟨houtgoing, hlast⟩ := Prod.ext_iff.1 hrest
  have hreport : ∀ periods, t.lastReport periods = s.lastReport periods := by
    intro periods
    unfold lastReport
    rw [horigin.createdTime]
  have hdue : ∀ since c, t.IsDue since c ↔ s.IsDue since c := by
    intro since c
    unfold IsDue
    rw [horigin.trafficFlushMinutes]
  constructor
  case calls => exact h.calls
  case due => simpa only [hreport, hdue] using h.due
  case waiting => simpa only [hreport, hdue] using h.waiting
  case lastFlush => exact (hlast.trans h.lastFlush).trans (hreport reported).symm
  case incoming => exact hincoming.trans h.incoming
  case outgoing => exact houtgoing.trans h.outgoing

theorem reportOf_of_sameOrigin (horigin : SameOrigin s t) (p : Period) :
    t.reportOf p = s.reportOf p := by
  unfold reportOf
  rw [horigin.id, horigin.login]

/-- **A call that is due ends the period: it reports all that is pending, itself included, and nothing
is pending afterwards.** -/
theorem Carries.report (h : s.Carries calls reported pending) (hon : ¬ s.CountsNothing)
    {c : TrafficCall} (hdue : s.IsDue (s.lastReport reported) c) :
    (s.countTraffic c.time c.incoming c.outgoing).2 = .ok (some (s.reportOf ⟨pending, c⟩)) ∧
      (s.countTraffic c.time c.incoming c.outgoing).1.traffic = (0, 0, c.time) ∧
      (s.countTraffic c.time c.incoming c.outgoing).1.Carries (calls ++ [c])
        (reported ++ [⟨pending, c⟩]) [] := by
  have hcount := countTraffic_of_due hon (h.lastFlush ▸ hdue)
  rw [h.incoming, h.outgoing, counted_add, counted_add] at hcount
  rw [hcount]
  refine ⟨?_, rfl, ?_⟩
  · unfold reportOf Period.calls
    rw [total_concat, total_concat]
  · constructor
    case calls => simp [h.calls, Period.calls]
    case due =>
      intro before p after hsplit
      rcases concat_eq_split hsplit with ⟨rfl, rfl, -⟩ | ⟨init, -, hinit⟩
      · exact ⟨hdue, h.waiting⟩
      · exact h.due before p init hinit
    case waiting =>
      intro c' hc'
      cases hc'
    case lastFlush => rw [lastReport_concat]
    case incoming => rfl
    case outgoing => rfl

/-- **Any other call is pending afterwards, and nothing is reported.** -/
theorem Carries.count (h : s.Carries calls reported pending) (hon : ¬ s.CountsNothing)
    {c : TrafficCall} (hdue : ¬ s.IsDue (s.lastReport reported) c) :
    (∀ report, (s.countTraffic c.time c.incoming c.outgoing).2 ≠ .ok (some report)) ∧
      (s.countTraffic c.time c.incoming c.outgoing).1.Carries (calls ++ [c]) reported
        (pending ++ [c]) := by
  obtain ⟨hcount, hnone⟩ := countTraffic_of_not_due hon (h.lastFlush ▸ hdue)
  refine ⟨hnone, ?_⟩
  rw [hcount]
  constructor
  case calls => rw [h.calls, List.append_assoc]
  case due => exact h.due
  case waiting =>
    intro c' hc'
    rcases List.mem_append.1 hc' with hbefore | hnow
    · exact h.waiting c' hbefore
    · rw [List.mem_singleton.1 hnow]
      exact hdue
  case lastFlush => exact h.lastFlush
  case incoming => rw [total_concat, ← counted_add, ← h.incoming]
  case outgoing => rw [total_concat, ← counted_add, ← h.outgoing]

/-! ### What else is done with a session -/

/-- Apart from calls that count it, a use does not touch the traffic. -/
theorem traffic_after {now : Instant} {address : String} {u : Use}
    (hu : ∀ incoming outgoing, u ≠ .countTraffic incoming outgoing) :
    (s.after now address u).traffic = s.traffic := by
  cases u with
  | countTraffic incoming outgoing => exact absurd rfl (hu incoming outgoing)
  | refresh =>
    simp only [after, refresh]
    split
    · rfl
    · split <;> rfl
  | markWarned time =>
    simp only [after, markWarned]
    split <;> rfl
  | subscribe types =>
    simp only [after, subscribe]
    split <;> rfl
  | changeData change => rfl
  | changePermissions change => rfl

/-- A session is made with nothing counted. -/
theorem make_traffic {id : SessionId} {r : LoginRequest} {services : Services} {now : Instant}
    {resolved : String} (h : make id r services now resolved = .ok s) :
    s.traffic = (0, 0, s.createdTime) := by
  unfold make at h
  split at h
  · cases h
  · cases h
    rfl

theorem ofRecord_traffic {r : SessionRecord} {services : Services} {now : Instant}
    (h : ofRecord r services now = .ok s) : s.traffic = (0, 0, s.createdTime) := by
  unfold ofRecord at h
  cases hmade : make r.sessionId (requestOfRecord r) services now "" with
  | error e =>
    rw [hmade] at h
    cases h
  | ok made =>
    have htraffic := make_traffic hmade
    rw [hmade] at h
    cases h
    exact htraffic

end Session

end Gatehouse
