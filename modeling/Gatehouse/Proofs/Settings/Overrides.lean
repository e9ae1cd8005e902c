/-
Settings that variables override.

Variables are taken one after the other, and each that is known overrides one setting.  So
what a setting is in the end is told by the last value under its variable alone, and that is
all there is to say of the settings as a whole (`Overridden`), whatever order the variables
of different names come in.

The settings are four, and each step changes one of them.  A variable reads its setting
(`Variable.current`) and reads texts (`Variable.parse`); a step is then described for all
variables at once (`override_eq`), and settings are what their variables read
(`ext_current`).

The run is followed from its start, as a value that cannot be read ends it (`merge_append`).
Validity is asked where no variable is left, and nowhere else.
-/
import Gatehouse.Settings.Load
import Mathlib.Data.List.Basic

namespace Gatehouse

/-- Settings of sessions under which a session lives, and longer than it takes to warn. -/
structure SessionSettings.Valid (s : SessionSettings) : Prop where
  /-- A session lives at all. -/
  lives : s.ttlMinutes ≠ 0
  /-- A warning is due before the end. -/
  warned : s.expirationWarningMinutes < s.ttlMinutes

theorem SessionSettings.validate_eq_ok_iff {s : SessionSettings} :
    s.validate = .ok () ↔ s.Valid := by
  unfold validate
  constructor
  · intro h
    split at h
    · cases h
    · rename_i hlives
      split at h
      · cases h
      · rename_i hwarned
        exact ⟨hlives, UInt32.not_le.1 hwarned⟩
  · rintro ⟨hlives, hwarned⟩
    rw [if_neg hlives, if_neg (UInt32.not_le.2 hwarned)]

namespace Settings

/-! ### Variables and their settings -/

namespace Variable

/-- The name of the variable. -/
def fullName (v : Variable) : String := variableStart ++ v.name

/-- What the setting of the variable can be. -/
def Value : Variable → Type
  | .ttl => UInt32
  | .trafficFlush => UInt32
  | .expirationWarning => UInt32
  | .unboundPolicy => UnboundPolicy

/-- What the setting of the variable is. -/
def current (s : Settings) : (v : Variable) → v.Value
  | .ttl => s.session.ttlMinutes
  | .trafficFlush => s.session.trafficFlushMinutes
  | .expirationWarning => s.session.expirationWarningMinutes
  | .unboundPolicy => s.authorization.unboundPolicy

/-- The settings in which that of the variable is another. -/
def put (s : Settings) : (v : Variable) → v.Value → Settings
  | .ttl, (n : UInt32) => { s with session.ttlMinutes := n }
  | .trafficFlush, (n : UInt32) => { s with session.trafficFlushMinutes := n }
  | .expirationWarning, (n : UInt32) => { s with session.expirationWarningMinutes := n }
  | .unboundPolicy, (p : UnboundPolicy) => { s with authorization.unboundPolicy := p }

/-- What a text stands for under the variable. -/
def parse (text : String) : (v : Variable) → Except ServiceError v.Value
  | .ttl => minutes .ttl text
  | .trafficFlush => minutes .trafficFlush text
  | .expirationWarning => minutes .expirationWarning text
  | .unboundPolicy => UnboundPolicy.parse text

variable {v w : Variable}

theorem fullName_injective (h : v.fullName = w.fullName) : v = w := by
  revert h
  cases v <;> cases w <;> decide +kernel

theorem ofName?_eq_some_iff {name : String} : ofName? name = some v ↔ name = v.fullName := by
  constructor
  · intro h
    have hfound := List.find?_some h
    exact beq_iff_eq.1 hfound
  · rintro rfl
    cases v <;> decide +kernel

theorem current_put_self (s : Settings) (v : Variable) (x : v.Value) :
    current (put s v x) v = x := by
  cases v <;> rfl

theorem current_put_of_ne (s : Settings) (x : v.Value) (hw : w ≠ v) :
    current (put s v x) w = current s w := by
  cases v <;> cases w <;> first | rfl | exact absurd rfl hw

end Variable

open Variable

/-- Settings are what their variables say. -/
theorem ext_current {s t : Settings} (h : ∀ v, current s v = current t v) : s = t := by
  obtain ⟨⟨ttl, flush, warning⟩, ⟨policy⟩⟩ := s
  obtain ⟨⟨ttl', flush', warning'⟩, ⟨policy'⟩⟩ := t
  obtain rfl : ttl = ttl' := h .ttl
  obtain rfl : flush = flush' := h .trafficFlush
  obtain rfl : warning = warning' := h .expirationWarning
  obtain rfl : policy = policy' := h .unboundPolicy
  rfl

/-- To override a setting is to read the text and to put what it stands for. -/
theorem override_eq (s : Settings) (v : Variable) (text : String) :
    s.override v text = (v.parse text).map (put s v) := by
  cases v with
  | ttl =>
    unfold override parse
    cases minutes .ttl text <;> rfl
  | trafficFlush =>
    unfold override parse
    cases minutes .trafficFlush text <;> rfl
  | expirationWarning =>
    unfold override parse
    cases minutes .expirationWarning text <;> rfl
  | unboundPolicy =>
    unfold override parse
    cases UnboundPolicy.parse text <;> rfl

/-! ### What variables leave -/

/-- The last text under a variable's name. -/
def lastText (vars : List (String × String)) (v : Variable) : Option String :=
  ((vars.filter fun entry => entry.1 = v.fullName).getLast?).map (·.2)

/-- If an entry is under the name of a variable, its text can be read. -/
def Readable (entry : String × String) : Prop :=
  ∀ v, entry.1 = fullName v → ∃ x, v.parse entry.2 = .ok x

/-- Each setting is what the last text under its variable stands for, or what it was before if there
is none. -/
def Overridden (s : Settings) (vars : List (String × String)) (t : Settings) : Prop :=
  ∀ v, match lastText vars v with
    | none => current t v = current s v
    | some text => v.parse text = .ok (current t v)

/-- The entries are the same but for the order of those with different names. -/
def Reordered (vars vars' : List (String × String)) : Prop :=
  ∀ name, vars'.filter (fun entry => entry.1 = name) = vars.filter (fun entry => entry.1 = name)

variable {s t u : Settings} {vars vars' : List (String × String)}

theorem lastText_cons (name text : String) (vars : List (String × String)) (v : Variable) :
    lastText ((name, text) :: vars) v =
      (lastText vars v).or (if name = v.fullName then some text else none) := by
  unfold lastText
  by_cases hname : name = v.fullName
  · rw [List.filter_cons_of_pos (by simpa using hname), List.getLast?_cons, if_pos hname]
    cases (vars.filter fun entry => entry.1 = v.fullName).getLast? <;> rfl
  · rw [List.filter_cons_of_neg (by simpa using hname), if_neg hname, Option.or_none]

/-- There is one way only for settings to be overridden. -/
theorem Overridden.unique (ht : s.Overridden vars t) (hu : s.Overridden vars u) : t = u := by
  apply ext_current
  intro v
  have htv := ht v
  have huv := hu v
  cases hlast : lastText vars v with
  | none =>
    simp only [hlast] at htv huv
    rw [htv, huv]
  | some text =>
    simp only [hlast] at htv huv
    exact Except.ok.inj (htv.symm.trans huv)

theorem overridden_nil (s : Settings) : s.Overridden [] s := fun _ => rfl

/-- An entry that is no variable's is passed over. -/
theorem Overridden.cons_unknown {name text : String} (hname : ofName? name = none)
    (h : s.Overridden vars t) : s.Overridden ((name, text) :: vars) t := by
  intro v
  have hne : name ≠ v.fullName := by
    rintro rfl
    cases hname.symm.trans (ofName?_eq_some_iff.2 rfl)
  rw [lastText_cons, if_neg hne, Option.or_none]
  exact h v

/-- An entry of a variable counts unless there is a later one. -/
theorem Overridden.cons_known {v : Variable} {text : String} {x : v.Value}
    (hx : v.parse text = .ok x) (h : (put s v x).Overridden vars t) :
    s.Overridden ((v.fullName, text) :: vars) t := by
  intro w
  have hw := h w
  rw [lastText_cons]
  cases hlast : lastText vars w with
  | some later =>
    simp only [hlast] at hw
    exact hw
  | none =>
    simp only [hlast] at hw
    by_cases hvw : w = v
    · subst hvw
      rw [if_pos rfl]
      show w.parse text = .ok (current t w)
      rw [hx, hw, current_put_self]
    · rw [if_neg fun hname => hvw (fullName_injective hname).symm]
      show current t w = current s w
      rw [hw, current_put_of_ne s x hvw]

/-! ### A run -/

theorem merge_of_unknown (s : Settings) {name text : String} (hname : ofName? name = none)
    (rest : List (String × String)) : s.merge ((name, text) :: rest) = s.merge rest := by
  simp only [merge, hname]

theorem merge_of_ok (s : Settings) {v : Variable} {text : String} {x : v.Value}
    (hx : v.parse text = .ok x) (rest : List (String × String)) :
    s.merge ((v.fullName, text) :: rest) = (put s v x).merge rest := by
  have hname : ofName? v.fullName = some v := ofName?_eq_some_iff.2 rfl
  have hstep : s.override v text = .ok (put s v x) := by
    rw [override_eq, hx]
    rfl
  simp only [merge, hname, hstep]

theorem merge_of_error (s : Settings) {v : Variable} {text : String} {e : ServiceError}
    (he : v.parse text = .error e) (rest : List (String × String)) :
    s.merge ((v.fullName, text) :: rest) = (s, .error e) := by
  have hname : ofName? v.fullName = some v := ofName?_eq_some_iff.2 rfl
  have hstep : s.override v text = .error e := by
    rw [override_eq, he]
    rfl
  simp only [merge, hname, hstep]

/-- **While texts can be read, the run goes on with all of them in force.** -/
theorem merge_append (s : Settings) (hvars : ∀ entry ∈ vars, Readable entry) :
    ∃ t, s.Overridden vars t ∧ ∀ rest, s.merge (vars ++ rest) = t.merge rest := by
  induction vars generalizing s with
  | nil => exact ⟨s, overridden_nil s, fun _ => rfl⟩
  | cons entry vars ih =>
    obtain ⟨name, text⟩ := entry
    have hrest : ∀ entry ∈ vars, Readable entry := fun entry he => hvars entry (by simp [he])
    cases hname : ofName? name with
    | none =>
      obtain ⟨t, ht, hrun⟩ := ih s hrest
      refine ⟨t, ht.cons_unknown hname, fun rest => ?_⟩
      rw [List.cons_append, merge_of_unknown s hname, hrun]
    | some v =>
      obtain rfl := ofName?_eq_some_iff.1 hname
      obtain ⟨x, hx⟩ := hvars (v.fullName, text) (by simp) v rfl
      obtain ⟨t, ht, hrun⟩ := ih (put s v x) hrest
      refine ⟨t, ht.cons_known hx, fun rest => ?_⟩
      rw [List.cons_append, merge_of_ok s hx, hrun]

/-- If all texts can be read, validity is asked with all of them in force. -/
theorem merge_of_readable (s : Settings) (hvars : ∀ entry ∈ vars, Readable entry) :
    ∃ t, s.Overridden vars t ∧ s.merge vars = (t, t.validate) := by
  obtain ⟨t, ht, hrun⟩ := merge_append s hvars
  refine ⟨t, ht, ?_⟩
  rw [← List.append_nil vars, hrun]
  rfl

/-- A text that cannot be read ends the run, with the earlier ones in force. -/
theorem merge_of_unreadable (s : Settings) (hvars : ∀ entry ∈ vars, Readable entry) {v : Variable}
    {text : String} {e : ServiceError} (he : v.parse text = .error e)
    (rest : List (String × String)) :
    ∃ t, s.Overridden vars t ∧ s.merge (vars ++ (v.fullName, text) :: rest) = (t, .error e) := by
  obtain ⟨t, ht, hrun⟩ := merge_append s hvars
  refine ⟨t, ht, ?_⟩
  rw [hrun, merge_of_error t he]

/-- A list has a first entry that cannot be read, if it has one. -/
theorem readable_or_split (vars : List (String × String)) :
    (∀ entry ∈ vars, Readable entry) ∨
      ∃ before v text rest e, vars = before ++ (fullName v, text) :: rest ∧
        (∀ entry ∈ before, Readable entry) ∧ v.parse text = .error e := by
  induction vars with
  | nil => exact .inl fun _ he => nomatch he
  | cons entry vars ih =>
    by_cases hentry : Readable entry
    · rcases ih with hall | ⟨before, v, text, rest, e, rfl, hbefore, he⟩
      · exact .inl (List.forall_mem_cons.2 ⟨hentry, hall⟩)
      · exact .inr ⟨entry :: before, v, text, rest, e, rfl,
          List.forall_mem_cons.2 ⟨hentry, hbefore⟩, he⟩
    · obtain ⟨name, text⟩ := entry
      unfold Readable at hentry
      push Not at hentry
      obtain ⟨v, hname, hfails⟩ := hentry
      dsimp only at hname hfails
      subst hname
      cases he : v.parse text with
      | error e => exact .inr ⟨[], v, text, vars, e, rfl, by simp, he⟩
      | ok x => exact absurd he (hfails x)

/-- What passes can be read throughout, and is valid in the end. -/
theorem merge_eq_ok_iff :
    s.merge vars = (t, .ok ()) ↔
      (∀ entry ∈ vars, Readable entry) ∧ s.Overridden vars t ∧ t.session.Valid := by
  constructor
  · intro hok
    rcases readable_or_split vars with hvars | ⟨before, v, text, rest, e, rfl, hbefore, he⟩
    · obtain ⟨t', ht', hrun⟩ := merge_of_readable s hvars
      obtain ⟨rfl, hvalid⟩ := Prod.ext_iff.1 (hrun.symm.trans hok)
      exact ⟨hvars, ht', SessionSettings.validate_eq_ok_iff.1 hvalid⟩
    · obtain ⟨t', -, hrun⟩ := merge_of_unreadable s hbefore he rest
      cases (Prod.ext_iff.1 (hrun.symm.trans hok)).2
  · rintro ⟨hvars, ht, hvalid⟩
    obtain ⟨t', ht', hrun⟩ := merge_of_readable s hvars
    obtain rfl := ht'.unique ht
    rw [hrun]
    exact Prod.ext rfl (SessionSettings.validate_eq_ok_iff.2 hvalid)

/-- Entries that are no variable's have no effect. -/
theorem merge_filter_known (s : Settings) (vars : List (String × String)) :
    s.merge (vars.filter fun entry => (ofName? entry.1).isSome) = s.merge vars := by
  induction vars generalizing s with
  | nil => rfl
  | cons entry vars ih =>
    obtain ⟨name, text⟩ := entry
    cases hname : ofName? name with
    | none =>
      rw [List.filter_cons_of_neg (by simp [hname]), ih, merge_of_unknown s hname]
    | some v =>
      obtain rfl := ofName?_eq_some_iff.1 hname
      rw [List.filter_cons_of_pos (by simp [hname])]
      cases hx : v.parse text with
      | ok x => rw [merge_of_ok s hx, merge_of_ok s hx, ih]
      | error e => rw [merge_of_error s hx, merge_of_error s hx]

/-! ### Entries in another order -/

theorem Reordered.mem_iff (h : Reordered vars vars') (entry : String × String) :
    entry ∈ vars' ↔ entry ∈ vars := by
  have hmem : entry ∈ vars'.filter (fun e => e.1 = entry.1) ↔
      entry ∈ vars.filter (fun e => e.1 = entry.1) := by rw [h]
  simpa using hmem

theorem Reordered.overridden (h : Reordered vars vars') (ht : s.Overridden vars t) :
    s.Overridden vars' t := by
  intro v
  have hlast : lastText vars' v = lastText vars v := by
    unfold lastText
    rw [h]
  rw [hlast]
  exact ht v

/-- **Variables override settings by their last values: whether settings come out, and which,
depends neither on the order of different variables nor on what would hold in between.** -/
theorem overridden_by_last_texts (s : Settings) (vars : List (String × String)) :
    -- Settings come out if all texts under the names of variables can be read and what they leave
    -- is valid.  Each is then what the last text under its variable stands for, or what it was.
    (∀ t, s.merge vars = (t, .ok ()) ↔
      (∀ entry ∈ vars, Readable entry) ∧ s.Overridden vars t ∧ t.session.Valid) ∧
    -- Other names have no effect.
    s.merge (vars.filter fun entry => (ofName? entry.1).isSome) = s.merge vars ∧
    -- Nor has the order, as long as the texts under each name keep theirs.
    (∀ vars' t, Reordered vars vars' → s.merge vars = (t, .ok ()) →
      s.merge vars' = (t, .ok ())) ∧
    -- The first text that cannot be read is the error, and the texts before it are in force.
    (∀ before v text rest e, vars = before ++ (fullName v, text) :: rest →
      (∀ entry ∈ before, Readable entry) → v.parse text = .error e →
      ∃ t, s.Overridden before t ∧ s.merge vars = (t, .error e)) ∧
    -- If there is none, validity is asked of what all texts leave together.
    ((∀ entry ∈ vars, Readable entry) →
      ∃ t, s.Overridden vars t ∧ s.merge vars = (t, t.session.validate)) := by
  refine ⟨fun t => merge_eq_ok_iff, merge_filter_known s vars, ?_, ?_, merge_of_readable s⟩
  · intro vars' t hreordered hok
    obtain ⟨hvars, ht, hvalid⟩ := merge_eq_ok_iff.1 hok
    refine merge_eq_ok_iff.2 ⟨fun entry he => ?_, hreordered.overridden ht, hvalid⟩
    exact hvars entry ((hreordered.mem_iff entry).1 he)
  · rintro before v text rest e rfl hbefore he
    exact merge_of_unreadable s hbefore he rest

/-- A window longer than the lifetime so far is fine if the lifetime is made longer too, before or
after.  What is no number ends the run, and the policy that comes behind it is not looked at. -/
theorem window_with_longer_lifetime :
    let vars := [("KEYSTONE_SESSION_EXPIRATION_WARNING_MINUTES", "30"), ("PATH", "/usr/bin"),
      ("KEYSTONE_SESSION_TTL_MINUTES", " +45 ")]
    let vars' := [("KEYSTONE_SESSION_TTL_MINUTES", " +45 "),
      ("KEYSTONE_SESSION_EXPIRATION_WARNING_MINUTES", "30"), ("PATH", "/usr/bin")]
    let soon := ("KEYSTONE_SESSION_TTL_MINUTES", "soon")
    let policy := ("KEYSTONE_AUTHORIZATION_UNBOUND_POLICY", "perhaps")
    default.merge vars' = (⟨⟨45, 0, 30⟩, .default⟩, .ok ()) ∧
      (∀ entry ∈ vars, Readable entry) ∧
      ∃ t e, default.Overridden vars t ∧
        default.merge (vars ++ [soon, policy]) = (t, .error e) := by
  intro vars vars' soon policy
  have hok : default.merge vars = (⟨⟨45, 0, 30⟩, .default⟩, .ok ()) := by decide +kernel
  obtain ⟨hpasses, -, horder, -, -⟩ := overridden_by_last_texts default vars
  obtain ⟨-, -, -, hends, -⟩ := overridden_by_last_texts default (vars ++ [soon, policy])
  have hreordered : Reordered vars vars' := by
    intro name
    by_cases hname : "KEYSTONE_SESSION_TTL_MINUTES" = name
    · subst hname
      decide +kernel
    · simp [vars, vars', List.filter_cons, hname]
  have hvars : ∀ entry ∈ vars, Readable entry := ((hpasses _).1 hok).1
  refine ⟨horder vars' _ hreordered hok, hvars, ?_⟩
  obtain ⟨t, ht, hrun⟩ := hends vars .ttl "soon" [policy] _ rfl hvars rfl
  exact ⟨t, _, ht, hrun⟩

end Settings

end Gatehouse
