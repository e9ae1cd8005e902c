/-
What leap seconds do to sums and to their order.

Whoever goes on from a leap second leaves it as if it were the second before (`folded`).  So
of two instants in one second the later one is overtaken by the earlier one if it lies in the
leap second, and less than a second after it (`Overtakes`): a minute later, their order is
the other way round.  That is the only way in which sums fail to keep the order of instants
(`add?_minutes_lt_iff`).

What is added is a number of minutes throughout.  It moves the second by as many seconds, and
all that becomes of the fraction is that it leaves the leap second.
-/
import Gatehouse.Time.Instant

namespace Gatehouse.Instant

variable {t u v w : Instant} {n : Nat}

/-- The instant falls into a leap second. -/
def InLeapSecond (t : Instant) : Prop := 1000000000 ≤ t.fraction

/-- Nanoseconds since the beginning of 1970, as if a leap second were the second before it. -/
def folded (t : Instant) : Int := t.second * 1000000000 + (t.fraction % 1000000000 : Nat)

/-- The instant comes before another one, and after it when both have left their leap seconds. -/
def Overtakes (t u : Instant) : Prop := t < u ∧ u.folded < t.folded

/-- At another instant, more than so many minutes have passed. -/
def Lapsed (t : Instant) (n : Nat) (u : Instant) : Prop :=
  t.second + 60 * n < u.second ∨
    t.second + 60 * n = u.second ∧
      (if n = 0 then t.fraction else t.fraction % 1000000000) < u.fraction

instance (t : Instant) : Decidable t.InLeapSecond := inferInstanceAs (Decidable (_ ≤ _))
instance (t u : Instant) : Decidable (t.Overtakes u) := inferInstanceAs (Decidable (_ ∧ _))
instance (t u : Instant) (n : Nat) : Decidable (t.Lapsed n u) :=
  inferInstanceAs (Decidable (_ ∨ _))

/-! ### Order -/

theorem le_refl (t : Instant) : t ≤ t := le_iff.2 (Int.le_refl _)

theorem le_trans (htu : t ≤ u) (huv : u ≤ v) : t ≤ v := by
  rw [le_iff] at *
  omega

theorem lt_of_le_of_ne (htu : t ≤ u) (hne : t ≠ u) : t < u := by
  rw [le_iff] at htu
  rw [Ne, eq_iff] at hne
  rw [lt_iff]
  omega

theorem not_lt_iff : ¬ t < u ↔ u ≤ t := by
  rw [lt_iff, le_iff]
  omega

theorem not_le_iff : ¬ t ≤ u ↔ u < t := by
  rw [lt_iff, le_iff]
  omega

theorem max_eq_right (h : t ≤ u) : max t u = u := if_pos h

theorem max_eq_left (h : ¬ t ≤ u) : max t u = t := if_neg h

theorem max_eq_or (t u : Instant) : max t u = t ∨ max t u = u := by
  by_cases h : t ≤ u
  · exact .inr (max_eq_right h)
  · exact .inl (max_eq_left h)

theorem le_max_left (t u : Instant) : t ≤ max t u := by
  rw [le_iff, max_rank]
  omega

theorem second_max (t u : Instant) : (max t u).second = max t.second u.second := by
  have ht := t.fraction_lt
  have hu := u.fraction_lt
  have hmax := max_rank t u
  rcases max_eq_or t u with h | h
  · rw [h] at hmax ⊢
    unfold rank at hmax
    omega
  · rw [h] at hmax ⊢
    unfold rank at hmax
    omega

/-! ### Overtaking -/

/-- An instant overtakes another one in the leap second after it that is less than a second away. -/
theorem overtakes_iff : t.Overtakes u ↔ t.second = u.second ∧ ¬ t.InLeapSecond ∧
    u.InLeapSecond ∧ u.fraction < t.fraction + 1000000000 := by
  have ht := t.fraction_lt
  have hu := u.fraction_lt
  unfold Overtakes InLeapSecond folded
  rw [lt_iff]
  unfold rank
  omega

/-- Outside leap seconds, what is later stays later. -/
theorem folded_lt (hu : ¬ u.InLeapSecond) (htu : t < u) : t.folded < u.folded := by
  have ht := t.fraction_lt
  rw [lt_iff] at htu
  unfold InLeapSecond at hu
  unfold rank at htu
  unfold folded
  omega

/-- The later of two instants folds back behind the first if that overtakes the second... -/
theorem folded_max_lt_iff : (max t u).folded < t.folded ↔ t.Overtakes u := by
  unfold Overtakes
  by_cases htu : t ≤ u
  · rw [max_eq_right htu]
    refine ⟨fun hlt => ⟨lt_of_le_of_ne htu fun heq => ?_, hlt⟩, And.right⟩
    rw [heq] at hlt
    exact Int.lt_irrefl _ hlt
  · rw [max_eq_left htu]
    rw [le_iff] at htu
    rw [lt_iff]
    omega

/-- ... and ahead of it if the second is later in either way. -/
theorem folded_lt_max_iff : t.folded < (max t u).folded ↔ t < u ∧ t.folded < u.folded := by
  by_cases htu : t ≤ u
  · rw [max_eq_right htu]
    refine ⟨fun hlt => ⟨lt_of_le_of_ne htu fun heq => ?_, hlt⟩, And.right⟩
    rw [heq] at hlt
    exact Int.lt_irrefl _ hlt
  · rw [max_eq_left htu]
    rw [le_iff] at htu
    rw [lt_iff]
    omega

/-! ### Minutes later -/

theorem add?_minutes_eq_some_iff : t.add? (minutes n) = some u ↔
    u.second = t.second + 60 * n ∧
      u.fraction = if n = 0 then t.fraction else t.fraction % 1000000000 := by
  have ht := t.fraction_lt
  unfold add? minutes
  by_cases hn : n = 0
  · subst hn
    rw [if_pos rfl]
    split
    · rw [ofNanos?_eq_some_iff]
      unfold nanos
      omega
    · rw [if_pos (by omega), ofParts?_eq_some_iff]
      omega
  · rw [if_neg hn]
    split
    · rw [ofNanos?_eq_some_iff]
      unfold nanos
      omega
    · rw [if_neg (by omega), ofNanos?_eq_some_iff]
      unfold nanos
      omega

/-- Only the second decides whether the sum can be represented. -/
theorem add?_minutes_eq_none_iff :
    t.add? (minutes n) = none ↔ last.second < t.second + 60 * n := by
  have hlast : last.second = 8210266876799 := rfl
  have ht := t.fraction_lt
  have hlower := t.lower
  rw [hlast]
  constructor
  · intro hnone
    refine Int.not_le.1 fun hle => ?_
    have hfraction : (if n = 0 then t.fraction else t.fraction % 1000000000) < 2000000000 := by
      split <;> omega
    have hsome : t.add? (minutes n) = some
        ⟨t.second + 60 * n, if n = 0 then t.fraction else t.fraction % 1000000000,
          by omega, by omega, hfraction⟩ :=
      add?_minutes_eq_some_iff.2 ⟨rfl, rfl⟩
    rw [hnone] at hsome
    cases hsome
  · intro hlate
    refine Option.eq_none_iff_forall_ne_some.2 fun u hu => ?_
    have hsecond := (add?_minutes_eq_some_iff.1 hu).1
    have hupper := u.upper
    omega

/-- The order of sums: that of the instants if nothing is added, and else their order without leap
seconds. -/
theorem add?_minutes_lt_iff (ht : t.add? (minutes n) = some v) (hu : u.add? (minutes n) = some w) :
    v < w ↔ if n = 0 then t < u else t.folded < u.folded := by
  obtain ⟨hvs, hvf⟩ := add?_minutes_eq_some_iff.1 ht
  obtain ⟨hws, hwf⟩ := add?_minutes_eq_some_iff.1 hu
  have htf := t.fraction_lt
  have huf := u.fraction_lt
  rw [lt_iff]
  split
  · rename_i hn
    rw [if_pos hn] at hvf hwf
    rw [lt_iff]
    unfold rank
    omega
  · rename_i hn
    rw [if_neg hn] at hvf hwf
    unfold rank folded
    omega

theorem lapsed_iff : t.Lapsed n u ↔ ∃ due, t.add? (minutes n) = some due ∧ due < u := by
  constructor
  · intro hlapsed
    cases hdue : t.add? (minutes n) with
    | none =>
      have hlast : last.second = 8210266876799 := rfl
      have hlate := add?_minutes_eq_none_iff.1 hdue
      have hupper := u.upper
      unfold Lapsed at hlapsed
      omega
    | some due =>
      obtain ⟨hsecond, hfraction⟩ := add?_minutes_eq_some_iff.1 hdue
      refine ⟨due, rfl, ?_⟩
      show due.second < u.second ∨ due.second = u.second ∧ due.fraction < u.fraction
      rw [hsecond, hfraction]
      exact hlapsed
  · rintro ⟨due, hdue, hlt⟩
    obtain ⟨hsecond, hfraction⟩ := add?_minutes_eq_some_iff.1 hdue
    unfold Lapsed
    rw [← hsecond, ← hfraction]
    exact hlt

theorem le_of_add? {d : Int} (hd : 0 ≤ d) (h : t.add? d = some u) : t ≤ u := by
  have ht := t.fraction_lt
  rw [le_iff]
  unfold add? at h
  unfold rank
  split at h
  · rw [ofNanos?_eq_some_iff] at h
    unfold nanos at h
    omega
  · split at h
    · rw [ofParts?_eq_some_iff] at h
      omega
    · rw [ofNanos?_eq_some_iff] at h
      unfold nanos at h
      omega

/-- Whoever goes back from a sum by no more than was added comes back to the instant at the soonest,
or else to the second of its leap second. -/
theorem le_of_sub? {d : Int} (hadd : t.add? (minutes n) = some v) (hd : d ≤ minutes n)
    (hsub : v.sub? d = some w) (hw : w ≤ u) :
    t ≤ u ∨ t.InLeapSecond ∧ u.second = t.second := by
  have ht := t.fraction_lt
  have hu := u.fraction_lt
  obtain ⟨hsecond, hfraction⟩ := add?_minutes_eq_some_iff.1 hadd
  by_cases hn : n = 0
  · rw [if_pos hn] at hfraction
    have hsame : v = t := Instant.ext (by omega) hfraction
    have hback : 0 ≤ -d := by
      unfold minutes at hd
      omega
    rw [hsame] at hsub
    exact .inl (le_trans (le_of_add? hback hsub) hw)
  · rw [if_neg hn] at hfraction
    unfold sub? at hsub
    rw [add?_eq_some_iff (by omega)] at hsub
    rw [le_iff] at hw ⊢
    unfold nanos minutes at *
    unfold rank at *
    unfold InLeapSecond
    omega

end Gatehouse.Instant
