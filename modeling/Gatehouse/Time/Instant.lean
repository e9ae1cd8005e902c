/-
Instants.

An instant is a second and a fraction of it.  Seconds are counted from the beginning of
1970 on, and leap seconds are not counted: a leap second has the number of the second that
it follows, and fractions of a second and more.  Times range from the beginning of the year
-262143 to the end of the year 262142.  An instant carries the proof that its second lies
there, whatever the fraction is; moving one further than that gives none.

The order is that of the seconds and then of the fractions.  Sums are another matter.  A
leap second is taken into account only by who is in one: leaving it backwards counts it,
and leaving it forwards goes on as from the second that it follows.
-/
namespace Gatehouse

/-- Milliseconds as nanoseconds. -/
def milliseconds (n : Int) : Int := n * 1000000

/-- Minutes as nanoseconds. -/
def minutes (n : Int) : Int := n * 60000000000

/-- A point in time within the range, or in the leap second after it. -/
@[ext] structure Instant where
  /-- Seconds since the beginning of 1970, leap seconds not counted. -/
  second : Int
  /-- Nanoseconds since that second began; from 10^9 on, they fall into a leap second after it. -/
  fraction : Nat
  /-- Not before the first second. -/
  lower : -8334601228800 ≤ second
  /-- Not after the last second. -/
  upper : second ≤ 8210266876799
  /-- Not after the leap second. -/
  fraction_lt : fraction < 2000000000
  deriving DecidableEq

namespace Instant

/-- The first instant of the range. -/
def first : Instant := ⟨-8334601228800, 0, by decide, by decide, by decide⟩

/-- The last instant of the range.  Only a leap second after it could be later. -/
def last : Instant := ⟨8210266876799, 999999999, by decide, by decide, by decide⟩

/-- The beginning of 1970. -/
def epoch : Instant := ⟨0, 0, by decide, by decide, by decide⟩

instance : Inhabited Instant := ⟨epoch⟩

instance : LE Instant :=
  ⟨fun a b => a.second < b.second ∨ a.second = b.second ∧ a.fraction ≤ b.fraction⟩

instance : LT Instant :=
  ⟨fun a b => a.second < b.second ∨ a.second = b.second ∧ a.fraction < b.fraction⟩

instance (a b : Instant) : Decidable (a ≤ b) := inferInstanceAs (Decidable (_ ∨ _))
instance (a b : Instant) : Decidable (a < b) := inferInstanceAs (Decidable (_ ∨ _))
instance : Max Instant := ⟨fun a b => if a ≤ b then b else a⟩

/-- Nanoseconds since the beginning of 1970, as if a leap second were the second after it. -/
def nanos (t : Instant) : Int := t.second * 1000000000 + t.fraction

/-- The instant with a second and a fraction, if it can be represented. -/
def ofParts? (second : Int) (fraction : Nat) : Option Instant :=
  if h : (-8334601228800 ≤ second ∧ second ≤ 8210266876799) ∧ fraction < 2000000000 then
    some ⟨second, fraction, h.1.1, h.1.2, h.2⟩
  else none

/-- The instant at that many nanoseconds, in no leap second, if it can be represented. -/
def ofNanos? (n : Int) : Option Instant := ofParts? (n / 1000000000) (n % 1000000000).toNat

/-- The instant at that many milliseconds, if it can be represented. -/
def ofMillis? (n : Int) : Option Instant := ofNanos? (milliseconds n)

/-- The last whole millisecond that is not after the instant. -/
def millis (t : Instant) : Int := t.nanos / 1000000

/-- The instant so much later, if it can be represented. -/
def add? (t : Instant) (d : Int) : Option Instant :=
  -- One that is not in a leap second, or leaves it backwards; one that stays; one that leaves forwards.
  if t.fraction < 1000000000 ∨ t.fraction + d < 1000000000 then ofNanos? (t.nanos + d)
  else if t.fraction + d < 2000000000 then ofParts? t.second (t.fraction + d).toNat
  else ofNanos? (t.nanos - 1000000000 + d)

/-- The instant so much earlier, if it can be represented. -/
def sub? (t : Instant) (d : Int) : Option Instant := t.add? (-d)

/-! ### Order -/

/-- The place of an instant among all others. -/
def rank (t : Instant) : Int := t.second * 2000000000 + t.fraction

theorem le_iff {a b : Instant} : a ≤ b ↔ a.rank ≤ b.rank := by
  have ha := a.fraction_lt
  have hb := b.fraction_lt
  show a.second < b.second ∨ a.second = b.second ∧ a.fraction ≤ b.fraction ↔ _
  unfold rank
  omega

theorem lt_iff {a b : Instant} : a < b ↔ a.rank < b.rank := by
  have ha := a.fraction_lt
  have hb := b.fraction_lt
  show a.second < b.second ∨ a.second = b.second ∧ a.fraction < b.fraction ↔ _
  unfold rank
  omega

theorem eq_iff {a b : Instant} : a = b ↔ a.rank = b.rank := by
  have ha := a.fraction_lt
  have hb := b.fraction_lt
  unfold rank
  rw [Instant.ext_iff]
  omega

theorem max_rank (a b : Instant) : (max a b).rank = max a.rank b.rank := by
  show (if a ≤ b then b else a).rank = _
  by_cases h : a ≤ b
  · rw [if_pos h, Int.max_eq_right (le_iff.1 h)]
  · rw [if_neg h, Int.max_eq_left (by rw [le_iff] at h; omega)]

/-! ### Sums -/

theorem ofParts?_eq_some_iff {second : Int} {fraction : Nat} {t : Instant} :
    ofParts? second fraction = some t ↔ t.second = second ∧ t.fraction = fraction := by
  unfold ofParts?
  constructor
  · intro h
    split at h
    · cases h
      exact ⟨rfl, rfl⟩
    · cases h
  · rintro ⟨rfl, rfl⟩
    rw [dif_pos ⟨⟨t.lower, t.upper⟩, t.fraction_lt⟩]

theorem ofNanos?_eq_some_iff {n : Int} {t : Instant} :
    ofNanos? n = some t ↔ t.fraction < 1000000000 ∧ t.nanos = n := by
  unfold ofNanos? nanos
  rw [ofParts?_eq_some_iff]
  omega

/-- Outside leap seconds, sums are those of nanoseconds. -/
theorem add?_eq_some_iff {t u : Instant} {d : Int} (ht : t.fraction < 1000000000) :
    t.add? d = some u ↔ u.fraction < 1000000000 ∧ u.nanos = t.nanos + d := by
  unfold add?
  rw [if_pos (.inl ht)]
  exact ofNanos?_eq_some_iff

end Instant

/-- Time was to be moved out of the range that can be represented. -/
inductive DateOverflow where
  /-- The only cause there is. -/
  | outOfRange
  deriving DecidableEq

end Gatehouse
