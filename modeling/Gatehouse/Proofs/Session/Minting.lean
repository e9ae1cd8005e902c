/-
Ids that are minted close to each other differ.

The upper half of an id is the counter after the draw for it, so two ids of one generator
are apart by what the counter has travelled from one to the other.  That is at least
three and at most twelve for each draw in between, and the counter comes back to where it
was only after a whole round.  Within a window of draws that cannot make up a round the
upper halves are therefore different, wherever the counter stood and however often it has
wrapped; the lower halves are not needed for it.

The window is the largest there is: with one draw more a round can be made up exactly, and
then nothing but the lower halves can tell the two ids apart (`exists_repeat_after_window`).
-/
import Gatehouse.Proofs.Session.Use

namespace Gatehouse

/-! ### Halves -/

namespace SessionId

theorem toNat_ofHalves (sequence low : UInt32) :
    (ofHalves sequence low).raw.toNat = sequence.toNat * UInt32.size + low.toNat := by
  have hs := sequence.toNat_lt
  have hl := low.toNat_lt
  -- The lower half fits under the upper one, so there nothing is carried.
  have hor := Nat.two_pow_add_eq_or_of_lt (i := 32) hl sequence.toNat
  simp only [ofHalves, UInt64.toNat_or, UInt64.toNat_shiftLeft, UInt32.toNat_toUInt64,
    UInt64.toNat_ofNat, Nat.shiftLeft_eq, Nat.reducePow, Nat.reduceMod] at hor ⊢
  rw [Nat.mod_eq_of_lt (by omega), Nat.mul_comm, ← hor, Nat.mul_comm]

@[simp] theorem sequence_ofHalves (sequence low : UInt32) :
    (ofHalves sequence low).sequence = sequence := by
  have hs := sequence.toNat_lt
  have hl := low.toNat_lt
  apply UInt32.toNat_inj.1
  rw [SessionId.sequence, UInt64.toNat_toUInt32, UInt64.toNat_shiftRight, toNat_ofHalves,
    Nat.shiftRight_eq_div_pow]
  simp only [UInt64.toNat_ofNat, UInt32.size, Nat.reducePow, Nat.reduceMod]
  omega

end SessionId

namespace IdGenerator

/-! ### What the counter travels -/

/-- How far some draws move the counter. -/
def travel : List Draw → Nat
  | [] => 0
  | d :: ds => d.step.toNat + travel ds

theorem travel_append (ds es : List Draw) : travel (ds ++ es) = travel ds + travel es := by
  induction ds with
  | nil => simp [travel]
  | cons d ds ih =>
    rw [List.cons_append, travel, travel, ih]
    omega

theorem travel_replicate (n : Nat) (d : Draw) :
    travel (List.replicate n d) = n * d.step.toNat := by
  induction n with
  | zero => simp [travel]
  | succ n ih =>
    rw [List.replicate_succ, travel, ih, Nat.succ_mul]
    omega

theorem toNat_step_bounds (d : Draw) : 3 ≤ d.step.toNat ∧ d.step.toNat ≤ 12 := by
  obtain ⟨hleast, hbound⟩ := d.step_mem
  have hleast := UInt32.le_iff_toNat_le.1 hleast
  have hbound := UInt32.lt_iff_toNat_lt.1 hbound
  exact ⟨hleast, Nat.le_of_lt_succ hbound⟩

theorem travel_bounds (ds : List Draw) :
    3 * ds.length ≤ travel ds ∧ travel ds ≤ 12 * ds.length := by
  induction ds with
  | nil => exact ⟨Nat.le_refl _, Nat.le_refl _⟩
  | cons d ds ih =>
    have hd := toNat_step_bounds d
    rw [travel, List.length_cons]
    omega

/-- The draws up to a later one are those up to an earlier one and the ones in between. -/
theorem travel_take_of_le (ds : List Draw) {m n : Nat} (h : m ≤ n) :
    travel (ds.take n) = travel (ds.take m) + travel ((ds.take n).drop m) := by
  have hsplit := List.take_append_drop m (ds.take n)
  rw [List.take_take, Nat.min_eq_left h] at hsplit
  rw [← travel_append, hsplit]

/-! ### What is minted -/

/-- **An id has for its upper half the counter moved by all draws up to its own.** -/
theorem getElem?_mintAll (g : IdGenerator) (ds : List Draw) (i : Nat) :
    (g.mintAll ds)[i]? = ds[i]?.map fun d =>
      .ofHalves (g.counter + .ofNat (travel (ds.take (i + 1)))) d.low := by
  induction ds generalizing g i with
  | nil => rfl
  | cons d ds ih =>
    cases i with
    | zero => simp [mintAll, mint, travel]
    | succ i =>
      simp only [mintAll, List.getElem?_cons_succ, List.take_succ_cons, travel]
      rw [ih, UInt32.ofNat_add, UInt32.ofNat_toNat, ← UInt32.add_assoc]
      rfl

/-- The upper half of an id, and that there was a draw for it. -/
theorem sequence_of_getElem? {g : IdGenerator} {ds : List Draw} {i : Nat} {id : SessionId}
    (h : (g.mintAll ds)[i]? = some id) :
    i < ds.length ∧ id.sequence = g.counter + .ofNat (travel (ds.take (i + 1))) := by
  rw [getElem?_mintAll] at h
  obtain ⟨d, hd, rfl⟩ := Option.map_eq_some_iff.1 h
  exact ⟨(List.getElem?_eq_some_iff.1 hd).1, SessionId.sequence_ofHalves _ _⟩

/-- Nothing that is minted is the id of the Empty session. -/
theorem ne_empty_of_mem_mintAll {g : IdGenerator} {ds : List Draw} {id : SessionId}
    (h : id ∈ g.mintAll ds) : id ≠ .empty := by
  induction ds generalizing g with
  | nil => cases h
  | cons d ds ih =>
    rcases List.mem_cons.1 h with rfl | hrest
    · intro heq
      have hsome := g.mint_isEmpty d
      rw [heq] at hsome
      cases hsome
    · exact ih hrest

/-! ### Within a window -/

/-- The most draws that cannot move the counter by a whole round. -/
def window : Nat := 357913941

/-- Some draws, but no more than the window has, move the counter elsewhere. -/
theorem travel_between {ds : List Draw} {i j : Nat} (hij : i < j) (hj : j < ds.length)
    (hwindow : j - i ≤ window) :
    0 < travel ((ds.take (j + 1)).drop (i + 1)) ∧
      travel ((ds.take (j + 1)).drop (i + 1)) < UInt32.size := by
  have hbounds := travel_bounds ((ds.take (j + 1)).drop (i + 1))
  rw [List.length_drop, List.length_take] at hbounds
  unfold window at hwindow
  unfold UInt32.size
  omega

/-- Numbers that are less than a round apart are different places of the counter. -/
theorem ofNat_ne_of_between {m n : Nat} (hpos : 0 < n) (hlt : n < UInt32.size) :
    UInt32.ofNat (m + n) ≠ UInt32.ofNat m := by
  intro heq
  have hmod := congrArg UInt32.toNat heq
  rw [UInt32.toNat_ofNat', UInt32.toNat_ofNat'] at hmod
  unfold UInt32.size at hlt
  omega

theorem sequence_ne_of_window {g : IdGenerator} {ds : List Draw} {i j : Nat} {a b : SessionId}
    (hij : i < j) (hwindow : j - i ≤ window) (ha : (g.mintAll ds)[i]? = some a)
    (hb : (g.mintAll ds)[j]? = some b) : a.sequence ≠ b.sequence := by
  obtain ⟨-, ha⟩ := sequence_of_getElem? ha
  obtain ⟨hj, hb⟩ := sequence_of_getElem? hb
  obtain ⟨hpos, hlt⟩ := travel_between hij hj hwindow
  intro heq
  rw [ha, hb, UInt32.add_right_inj, travel_take_of_le ds (by omega : i + 1 ≤ j + 1)] at heq
  exact ofNat_ne_of_between hpos hlt heq.symm

/-- From one id to the next the upper half moves by the draw for the latter. -/
theorem sequence_sub_of_succ {g : IdGenerator} {ds : List Draw} {i : Nat} {a b : SessionId}
    (ha : (g.mintAll ds)[i]? = some a) (hb : (g.mintAll ds)[i + 1]? = some b) :
    ∃ d ∈ ds, b.sequence - a.sequence = d.step := by
  obtain ⟨-, ha⟩ := sequence_of_getElem? ha
  obtain ⟨hi, hb⟩ := sequence_of_getElem? hb
  refine ⟨ds[i + 1], List.getElem_mem hi, ?_⟩
  rw [ha, hb, List.take_succ_eq_append_getElem hi, travel_append, UInt32.ofNat_add,
    ← UInt32.add_assoc, UInt32.add_comm, UInt32.add_sub_cancel]
  simp [travel]

theorem followsWithin_of_succ {g : IdGenerator} {ds : List Draw} {i : Nat} {a b : SessionId}
    (ha : (g.mintAll ds)[i]? = some a) (hb : (g.mintAll ds)[i + 1]? = some b) :
    a.followsWithin b = true := by
  obtain ⟨d, -, hd⟩ := sequence_sub_of_succ ha hb
  unfold SessionId.followsWithin
  rw [hd]
  simp [d.step_mem]

/-- A generator that starts from zero does not come round within the window. -/
theorem toNat_sequence_of_fresh {ds : List Draw} {i : Nat} {id : SessionId} (hi : i < window)
    (h : (fresh.mintAll ds)[i]? = some id) :
    id.sequence.toNat = travel (ds.take (i + 1)) := by
  obtain ⟨hlt, h⟩ := sequence_of_getElem? h
  have hbounds := travel_bounds (ds.take (i + 1))
  rw [List.length_take] at hbounds
  unfold window at hi
  rw [h, UInt32.toNat_add, UInt32.toNat_ofNat']
  simp only [fresh, UInt32.toNat_zero]
  omega

theorem sequence_lt_of_fresh {ds : List Draw} {i j : Nat} {a b : SessionId} (hij : i < j)
    (hj : j < window) (ha : (fresh.mintAll ds)[i]? = some a)
    (hb : (fresh.mintAll ds)[j]? = some b) : a.sequence < b.sequence := by
  have hlt := (sequence_of_getElem? hb).1
  have hpos := (travel_between hij hlt (by omega)).1
  rw [UInt32.lt_iff_toNat_lt, toNat_sequence_of_fresh (hij.trans hj) ha,
    toNat_sequence_of_fresh hj hb, travel_take_of_le ds (by omega : i + 1 ≤ j + 1)]
  omega

/-! ### Beyond the window -/

/-- A draw of the given step. -/
def drawOf (step : UInt32) (h : leastStep ≤ step ∧ step < stepBound) : Draw :=
  ⟨step, 1, h, by decide⟩

/-- **With one draw more than the window has, any generator may mint an id twice.** -/
theorem exists_repeat_after_window (g : IdGenerator) :
    ∃ draws id, (g.mintAll draws)[0]? = some id ∧
      (g.mintAll draws)[window + 1]? = some id := by
  let start := drawOf 3 (by decide)
  let most := drawOf 12 (by decide)
  let rest := drawOf 4 (by decide)
  let draws := start :: (List.replicate window most ++ [rest])
  have hround : travel draws = 3 + UInt32.size := by
    have hmost : most.step.toNat = 12 := rfl
    have hrest : travel [rest] = 4 := rfl
    show 3 + travel (List.replicate window most ++ [rest]) = _
    rw [travel_append, travel_replicate, hmost, hrest]
    unfold window UInt32.size
    omega
  have hlast : draws[window + 1]? = some rest := by
    rw [List.getElem?_cons_succ, List.getElem?_append_right (by simp)]
    simp
  have hall : draws.take (window + 1 + 1) = draws := List.take_of_length_le (by simp [draws])
  refine ⟨draws, _, rfl, ?_⟩
  rw [getElem?_mintAll, hlast, hall, hround]
  rfl

/-! ### All together -/

/-- **Ids that one generator mints within a window of each other differ, and none is the id of the
Empty session.**  Each moves on from the one before by a step that is allowed, and from zero the
upper halves grow throughout the first window. -/
theorem minted_ids_differ (g : IdGenerator) (draws : List Draw) :
    (∀ id ∈ g.mintAll draws, id ≠ .empty) ∧
    (∀ i j a b, i < j → j - i ≤ window → (g.mintAll draws)[i]? = some a →
      (g.mintAll draws)[j]? = some b → a ≠ b) ∧
    (∀ i a b, (g.mintAll draws)[i]? = some a → (g.mintAll draws)[i + 1]? = some b →
      a.followsWithin b = true) ∧
    (∀ i j a b, i < j → j < window → (fresh.mintAll draws)[i]? = some a →
      (fresh.mintAll draws)[j]? = some b → a.sequence < b.sequence) := by
  refine ⟨fun id => ne_empty_of_mem_mintAll, fun i j a b hij hwindow ha hb heq => ?_,
    fun i a b => followsWithin_of_succ, fun i j a b => sequence_lt_of_fresh⟩
  exact sequence_ne_of_window hij hwindow ha hb (congrArg SessionId.sequence heq)

/-- Two ids are minted as the counter wraps; the same draws from zero. -/
theorem ids_across_the_wrap :
    let g : IdGenerator := ⟨0xFFFFFFF8⟩
    let draws := [drawOf 6 (by decide), drawOf 3 (by decide)]
    (∃ a b, (g.mintAll draws)[0]? = some a ∧ (g.mintAll draws)[1]? = some b ∧
      a.sequence = 0xFFFFFFFE ∧ b.sequence = 1 ∧ a ≠ .empty ∧ a ≠ b ∧
      a.followsWithin b = true) ∧
    ∃ a b, (fresh.mintAll draws)[0]? = some a ∧ (fresh.mintAll draws)[1]? = some b ∧
      a.sequence < b.sequence := by
  intro g draws
  obtain ⟨hempty, happart, hnext, hgrow⟩ := minted_ids_differ g draws
  have hfirst : (g.mint (drawOf 6 (by decide))).1 ∈ g.mintAll draws := List.mem_cons_self
  refine ⟨⟨_, _, rfl, rfl, by decide, by decide, hempty _ hfirst, ?_, hnext 0 _ _ rfl rfl⟩,
    _, _, rfl, rfl, ?_⟩
  · exact happart 0 1 _ _ Nat.zero_lt_one (by decide) rfl rfl
  · exact hgrow 0 1 _ _ Nat.zero_lt_one (by decide) rfl rfl

end IdGenerator

end Gatehouse
