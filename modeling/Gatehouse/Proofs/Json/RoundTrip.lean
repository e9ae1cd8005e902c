/-
What is written in JSON reads back.

The text of a value ends where the value ends: what follows it is a comma, a bracket that
closes, or nothing (`Closes`), and none of these can go on with a number.  So reading at
the head of a longer text takes off exactly what was written (`readValue_write`), by an
induction on the value whose lists are worked off item by item.  Reading is bounded by a
fuel, of which a value needs no more than twice the length of its text.

A number that was kept as it was written is left out (`Value.Whole`): nothing says that it
is one.  No record holds any.
-/
import Gatehouse.Json.Reader
import Gatehouse.Json.Writer
import Mathlib.Data.List.Basic

namespace Gatehouse

/-! ### Digits -/

namespace Text

/-- Only zero begins with a zero. -/
theorem head?_toDigits_ne {n : Nat} (h : n ≠ 0) : (Nat.toDigits 10 n).head? ≠ some '0' := by
  induction n using Nat.strongRecOn with
  | ind n ih =>
    rcases Nat.lt_or_ge n 10 with hlt | hge
    · rw [Nat.toDigits_of_lt_base hlt]
      simpa [Nat.digitChar_eq_zero] using h
    · rw [Nat.toDigits_of_base_le (by decide) hge, List.head?_append_of_ne_nil _ Nat.toDigits_ne_nil]
      exact ih (n / 10) (by omega) (by omega)

/-- Digits are taken off up to what is no digit. -/
theorem spanDigits_append {ds rest : List Char} (hds : ∀ d ∈ ds, d.isDigit = true)
    (hrest : ∀ c, rest.head? = some c → c.isDigit = false) : spanDigits (ds ++ rest) = (ds, rest) := by
  have hnone : rest.takeWhile Char.isDigit = [] ∧ rest.dropWhile Char.isDigit = rest := by
    cases rest with
    | nil => exact ⟨rfl, rfl⟩
    | cons c cs => simp [hrest c rfl]
  unfold spanDigits
  rw [List.takeWhile_append_of_pos hds, List.dropWhile_append_of_pos hds, hnone.1, hnone.2,
    List.append_nil]

end Text

namespace Json

/-- What may follow a value inside a text. -/
def Closes (rest : List Char) : Prop :=
  ∀ c, rest.head? = some c → c = ',' ∨ c = ']' ∨ c = '\x7d'

theorem closes_nil : Closes [] := by
  intro c hc
  cases hc

theorem closes_cons {c : Char} (hc : c = ',' ∨ c = ']' ∨ c = '\x7d') (rest : List Char) :
    Closes (c :: rest) := by
  intro d hd
  cases hd
  exact hc

/-! ### Strings -/

theorem hexUnit?_control :
    ∀ n < 32, hexUnit? '0' '0' (hexDigit (n / 16)) (hexDigit (n % 16)) = some n := by
  decide

theorem Piece.ofUnit_control : ∀ n < 32, Piece.ofUnit n = .char (Char.ofNat n) := by
  intro n hn
  have hlow : ¬ (decide (0xD800 ≤ n) && decide (n ≤ 0xDFFF)) = true := by
    rw [Bool.and_eq_true, decide_eq_true_iff]
    omega
  exact if_neg hlow

/-- An escape by a letter stands for its character. -/
theorem readPieces_letter {e c : Char} (hu : e ≠ 'u') (he : escapeLetter? e = some c)
    (rest : List Char) :
    readPieces ('\\' :: e :: rest) = (readPieces rest).map fun p => (.char c :: p.1, p.2) := by
  rw [readPieces]
  · rw [he]
    cases readPieces rest <;> rfl
  · intro a b d f rest' heq
    exact absurd heq hu

/-- A character is escaped by a letter or by its number, or stands as it is. -/
theorem escaped_cases (c : Char) :
    (∃ e, e ≠ 'u' ∧ escapeLetter? e = some c ∧ escaped c = ['\\', e]) ∨
    (c.toNat < 32 ∧ escaped c =
      ['\\', 'u', '0', '0', hexDigit (c.toNat / 16), hexDigit (c.toNat % 16)]) ∨
    (c ≠ '"' ∧ c ≠ '\\' ∧ ¬ c.toNat < 32 ∧ escaped c = [c]) := by
  unfold escaped
  split_ifs with hquote hback _ _ _ _ _ hcontrol
  -- All but the last two ways are letters, each of which stands for its character.
  on_goal 9 => exact .inr (.inr ⟨hquote, hback, hcontrol, rfl⟩)
  on_goal 8 => exact .inr (.inl ⟨hcontrol, rfl⟩)
  all_goals
    subst c
    exact .inl ⟨_, by decide, rfl, rfl⟩

/-- However a character is escaped, it is read back. -/
theorem readPieces_escaped (c : Char) (rest : List Char) :
    readPieces (escaped c ++ rest) = (readPieces rest).map fun p => (.char c :: p.1, p.2) := by
  rcases escaped_cases c with
    ⟨e, hu, he, hescaped⟩ | ⟨hcontrol, hescaped⟩ | ⟨hquote, hback, hplain, hescaped⟩
  · rw [hescaped]
    exact readPieces_letter hu he rest
  · have hunit : Piece.ofUnit c.toNat = .char c := by
      rw [Piece.ofUnit_control _ hcontrol, Char.ofNat_toNat]
    rw [hescaped]
    simp only [List.cons_append, List.nil_append]
    rw [readPieces, hexUnit?_control _ hcontrol]
    cases readPieces rest with
    | none => rfl
    | some p => simp [hunit]
  · rw [hescaped, List.singleton_append, readPieces]
    · simp [hplain, hback]
    · exact hquote
    · intro a b d f rest' heq
      exact absurd heq hback
    · intro e rest' heq
      exact absurd heq hback

theorem readPieces_flatMap (cs rest : List Char) :
    readPieces (cs.flatMap escaped ++ '"' :: rest) = some (cs.map .char, rest) := by
  induction cs with
  | nil => rfl
  | cons c cs ih =>
    rw [List.flatMap_cons, List.append_assoc, readPieces_escaped, ih]
    rfl

theorem joinPieces_chars (cs : List Char) : joinPieces (cs.map .char) = some cs := by
  induction cs with
  | nil => rfl
  | cons c cs ih => rw [List.map_cons, joinPieces, ih]; rfl

/-- A string reads back after its quote, whatever follows. -/
theorem readString_writeString (s : Option String) (rest : List Char) :
    ∃ body, writeString s = '"' :: body ∧ readString (body ++ rest) = some (s, rest) := by
  cases s with
  | none => exact ⟨_, rfl, rfl⟩
  | some s =>
    refine ⟨s.toList.flatMap escaped ++ ['"'], rfl, ?_⟩
    rw [List.append_assoc, List.singleton_append, readString, readPieces_flatMap, Option.map_some,
      joinPieces_chars, Option.map_some, String.ofList_toList]

/-! ### Numbers -/

/-- What may follow a value is no digit, nor does it begin a fraction or an exponent. -/
theorem Closes.isDigit {rest : List Char} (h : Closes rest) :
    ∀ c, rest.head? = some c → c.isDigit = false := by
  intro c hc
  rcases h c hc with rfl | rfl | rfl <;> decide

theorem Closes.readFraction {rest : List Char} (h : Closes rest) :
    readFraction rest = some ([], rest) := by
  cases rest with
  | nil => rfl
  | cons c cs => rcases h c rfl with rfl | rfl | rfl <;> rfl

theorem Closes.readExponent {rest : List Char} (h : Closes rest) :
    readExponent rest = some ([], rest) := by
  cases rest with
  | nil => rfl
  | cons c cs => rcases h c rfl with rfl | rfl | rfl <;> rfl

theorem readWhole_toDigits (n : Nat) {rest : List Char} (hrest : Closes rest) :
    readWhole (Nat.toDigits 10 n ++ rest) = some (Nat.toDigits 10 n, rest) := by
  have hspan : Text.spanDigits (Nat.toDigits 10 n ++ rest) = (Nat.toDigits 10 n, rest) :=
    Text.spanDigits_append (fun d => Nat.isDigit_of_mem_toDigits (by decide) (by decide))
      hrest.isDigit
  unfold readWhole
  rw [hspan]
  by_cases hzero : n = 0
  · subst hzero
    rfl
  · -- Digits of another number are not refused for a zero at their head.
    have hhead := Text.head?_toDigits_ne hzero
    split
    · rename_i heq
      exact absurd (Prod.mk.inj heq).1 Nat.toDigits_ne_nil
    · rename_i heq
      rw [(Prod.mk.inj heq).1] at hhead
      exact absurd rfl hhead
    · rename_i heq
      rw [(Prod.mk.inj heq).1] at hhead
      exact absurd rfl hhead
    · rename_i heq
      obtain ⟨rfl, rfl⟩ := Prod.mk.inj heq
      rfl

theorem readNumber_decimal (n : Int) {rest : List Char} (hrest : Closes rest) :
    readNumber (Text.decimal n ++ rest) = some (.int n, rest) := by
  have hwhole := readWhole_toDigits n.natAbs hrest
  unfold Text.decimal
  by_cases hneg : n < 0
  · -- Minus zero would not be a whole number, but what is below zero is not written so.
    have hds : Nat.toDigits 10 n.natAbs ≠ ['0'] := by
      intro hds
      exact Text.head?_toDigits_ne (n := n.natAbs) (by omega) (by rw [hds]; rfl)
    have hvalue : -(Text.digitsValue (Nat.toDigits 10 n.natAbs) : Int) = n := by
      rw [Text.digitsValue_toDigits]
      omega
    rw [if_pos hneg]
    simp only [readNumber, List.cons_append, List.head?_cons, if_true, List.length_cons,
      List.length_nil, Nat.zero_add, List.drop_succ_cons, List.drop_zero, hwhole,
      hrest.readFraction, hrest.readExponent, hds, and_false, not_false_eq_true, and_self,
      List.cons_ne_self, if_false, hvalue]
  · have hhead : (Nat.toDigits 10 n.natAbs ++ rest).head? ≠ some '-' := by
      intro hhead
      rw [List.head?_append_of_ne_nil _ Nat.toDigits_ne_nil] at hhead
      have hdigit := Nat.isDigit_of_mem_toDigits (by decide) (by decide) (List.mem_of_head? hhead)
      cases hdigit
    have hvalue : (Text.digitsValue (Nat.toDigits 10 n.natAbs) : Int) = n := by
      rw [Text.digitsValue_toDigits]
      omega
    rw [if_neg hneg]
    simp only [readNumber, if_neg hhead, List.length_nil, List.drop_zero, hwhole,
      hrest.readFraction, hrest.readExponent]
    simp only [List.ne_cons_self, false_and, not_false_eq_true, and_self, if_true, hvalue]

/-! ### Values -/

/-- A value all of whose numbers are whole. -/
inductive Value.Whole : Value → Prop where
  | null : Whole .null
  | bool (b : Bool) : Whole (.bool b)
  | int (n : Int) : Whole (.int n)
  | str (s : Option String) : Whole (.str s)
  | arr {vs : List Value} (h : ∀ v ∈ vs, Whole v) : Whole (.arr vs)
  | obj {ms : List (Option String × Value)} (h : ∀ m ∈ ms, Whole m.2) : Whole (.obj ms)

theorem skipBlanks_cons {c : Char} (h : isBlank c = false) (cs : List Char) :
    skipBlanks (c :: cs) = c :: cs := by
  simp [skipBlanks, h]

/-- The characters that a number may begin with. -/
def BeginsNumber (c : Char) : Prop := c = '-' ∨ c.isDigit = true

instance (c : Char) : Decidable (BeginsNumber c) :=
  inferInstanceAs (Decidable (c = '-' ∨ c.isDigit = true))

theorem BeginsNumber.ne {c d : Char} (hc : BeginsNumber c) (hd : ¬ BeginsNumber d) : c ≠ d := by
  rintro rfl
  exact hd hc

theorem BeginsNumber.isBlank {c : Char} (hc : BeginsNumber c) : isBlank c = false := by
  have hspace := hc.ne (d := ' ') (by decide)
  have hline := hc.ne (d := '\n') (by decide)
  have htab := hc.ne (d := '\t') (by decide)
  have hreturn := hc.ne (d := '\r') (by decide)
  simp [Json.isBlank, hspace, hline, htab, hreturn]

theorem decimal_eq_cons (n : Int) : ∃ c cs, Text.decimal n = c :: cs ∧ BeginsNumber c := by
  unfold Text.decimal
  split
  · exact ⟨_, _, rfl, .inl rfl⟩
  · obtain ⟨c, cs, hds⟩ := List.exists_cons_of_ne_nil (Nat.toDigits_ne_nil (b := 10) (n := n.natAbs))
    refine ⟨c, cs, hds, .inr ?_⟩
    exact Nat.isDigit_of_mem_toDigits (by decide) (by decide) (hds ▸ List.mem_cons_self)

/-- No value begins with a blank, or with a bracket that closes. -/
theorem write_eq_cons {v : Value} (hv : v.Whole) :
    ∃ c cs, write v = c :: cs ∧ isBlank c = false ∧ c ≠ ']' := by
  cases hv with
  | null => exact ⟨_, _, rfl, rfl, by decide⟩
  | bool b => cases b <;> exact ⟨_, _, rfl, rfl, by decide⟩
  | int n =>
    obtain ⟨c, cs, hcs, hc⟩ := decimal_eq_cons n
    exact ⟨c, cs, hcs, hc.isBlank, hc.ne (by decide)⟩
  | str s => cases s <;> exact ⟨_, _, rfl, rfl, by decide⟩
  | @arr vs => cases vs <;> exact ⟨_, _, rfl, rfl, by decide⟩
  | @obj ms => cases ms <;> exact ⟨_, _, rfl, rfl, by decide⟩

theorem writeMember_eq_cons (m : Option String × Value) : ∃ cs, writeMember m = '"' :: cs := by
  obtain ⟨name, v⟩ := m
  cases name <;> exact ⟨_, rfl⟩

/-- What begins like a number is read as one. -/
theorem readValue_number {c : Char} (hc : BeginsNumber c) (cs : List Char) (fuel : Nat) :
    readValue (fuel + 1) (c :: cs) = readNumber (c :: cs) := by
  have hother : ∀ d ds, c :: cs = d :: ds → BeginsNumber d := by
    rintro d ds heq
    exact (List.cons.inj heq).1 ▸ hc
  rw [readValue, skipBlanks_cons hc.isBlank]
  split
  case h_7 => rfl
  all_goals
    rename_i heq
    exact absurd (hother _ _ heq) (by decide)

/-- The text of a value reads back at the head of a text that closes it, given fuel enough. -/
def ReadsBack (v : Value) : Prop :=
  ∀ fuel rest, 2 * (write v).length ≤ fuel → Closes rest →
    readValue fuel (write v ++ rest) = some (v, rest)

theorem ReadsBack.of_succ {v : Value} (hne : write v ≠ [])
    (h : ∀ fuel rest, 2 * (write v).length ≤ fuel + 1 → Closes rest →
      readValue (fuel + 1) (write v ++ rest) = some (v, rest)) : ReadsBack v := by
  intro fuel rest hfuel hrest
  have hpos := List.length_pos_of_ne_nil hne
  obtain ⟨fuel, rfl⟩ := Nat.exists_eq_add_of_lt (show 0 < fuel by omega)
  rw [Nat.zero_add] at hfuel ⊢
  exact h fuel rest hfuel hrest

theorem closes_writeItems (vs : List Value) (rest : List Char) : Closes (writeItems vs ++ rest) := by
  cases vs with
  | nil => exact closes_cons (by decide) _
  | cons v vs => exact closes_cons (by decide) _

/-- The items of an array read back if each of them does. -/
theorem readItems_write {v : Value} {vs : List Value} (hback : ∀ w ∈ v :: vs, ReadsBack w)
    (fuel : Nat) (hfuel : 2 * ((write v).length + (writeItems vs).length) ≤ fuel)
    (rest : List Char) :
    readItems fuel (write v ++ (writeItems vs ++ rest)) = some (v :: vs, rest) := by
  induction vs generalizing v fuel with
  | nil =>
    rw [writeItems, List.length_singleton] at hfuel
    obtain ⟨fuel, rfl⟩ := Nat.exists_eq_add_of_lt (show 0 < fuel by omega)
    rw [Nat.zero_add, readItems,
      hback v List.mem_cons_self fuel _ (by omega) (closes_writeItems [] rest)]
    rfl
  | cons w vs ih =>
    rw [writeItems, List.length_append, List.length_cons] at hfuel
    obtain ⟨fuel, rfl⟩ := Nat.exists_eq_add_of_lt (show 0 < fuel by omega)
    have hmore := ih (fun u hu => hback u (List.mem_cons_of_mem _ hu)) fuel (by omega)
    rw [Nat.zero_add, readItems,
      hback v List.mem_cons_self fuel _ (by omega) (closes_writeItems (w :: vs) rest), writeItems,
      List.append_assoc, List.cons_append]
    simp only [skipBlanks_cons (c := ',') rfl, hmore, Option.map_some]

/-- A member reads back if its value does, and a brace or a comma says how it goes on. -/
theorem readMembers_member {m : Option String × Value} (hback : ReadsBack m.2) {fuel : Nat}
    (hfuel : 2 * (writeMember m).length ≤ fuel) :
    (∀ rest, readMembers (fuel + 1) (writeMember m ++ '\x7d' :: rest) = some ([m], rest)) ∧
    ∀ more, readMembers (fuel + 1) (writeMember m ++ ',' :: more) =
      (readMembers fuel more).map fun p => (m :: p.1, p.2) := by
  obtain ⟨name, v⟩ := m
  simp only [writeMember, List.length_append, List.length_cons] at hfuel
  have hv : ∀ c rest, c = ',' ∨ c = ']' ∨ c = '\x7d' →
      readValue fuel (write v ++ c :: rest) = some (v, c :: rest) := by
    intro c rest hc
    have hback : ReadsBack v := hback
    exact hback fuel (c :: rest) (by omega) (closes_cons hc rest)
  refine ⟨fun rest => ?_, fun more => ?_⟩
  · obtain ⟨body, hbody, hname⟩ := readString_writeString name (':' :: (write v ++ '\x7d' :: rest))
    simp only [writeMember, hbody, List.append_assoc, List.cons_append, readMembers,
      skipBlanks_cons (c := '"') rfl, hname, skipBlanks_cons (c := ':') rfl,
      hv '\x7d' rest (by decide), skipBlanks_cons (c := '\x7d') rfl]
  · obtain ⟨body, hbody, hname⟩ := readString_writeString name (':' :: (write v ++ ',' :: more))
    simp only [writeMember, hbody, List.append_assoc, List.cons_append, readMembers,
      skipBlanks_cons (c := '"') rfl, hname, skipBlanks_cons (c := ':') rfl,
      hv ',' more (by decide), skipBlanks_cons (c := ',') rfl]

/-- The members of an object read back if the value of each of them does. -/
theorem readMembers_write {m : Option String × Value} {ms : List (Option String × Value)}
    (hback : ∀ m' ∈ m :: ms, ReadsBack m'.2) (fuel : Nat)
    (hfuel : 2 * ((writeMember m).length + (writeMembers ms).length) ≤ fuel) (rest : List Char) :
    readMembers fuel (writeMember m ++ (writeMembers ms ++ rest)) = some (m :: ms, rest) := by
  induction ms generalizing m fuel with
  | nil =>
    rw [writeMembers, List.length_singleton] at hfuel
    obtain ⟨fuel, rfl⟩ := Nat.exists_eq_add_of_lt (show 0 < fuel by omega)
    rw [Nat.zero_add]
    exact (readMembers_member (hback m List.mem_cons_self) (by omega)).1 rest
  | cons m' ms ih =>
    rw [writeMembers, List.length_append, List.length_cons] at hfuel
    obtain ⟨fuel, rfl⟩ := Nat.exists_eq_add_of_lt (show 0 < fuel by omega)
    have hmore := ih (fun n hn => hback n (List.mem_cons_of_mem _ hn)) fuel (by omega)
    rw [Nat.zero_add, writeMembers, List.append_assoc, List.cons_append,
      (readMembers_member (hback m List.mem_cons_self) (by omega)).2, hmore]
    rfl

/-- **The text of a value whose numbers are whole reads back, whatever closes it.** -/
theorem readValue_write {v : Value} (hv : v.Whole) : ReadsBack v := by
  induction hv with
  | null => exact .of_succ (by simp [write]) fun fuel rest _ _ => rfl
  | bool b => cases b <;> exact .of_succ (by simp [write]) fun fuel rest _ _ => rfl
  | int n =>
    obtain ⟨c, cs, hcs, hc⟩ := decimal_eq_cons n
    refine .of_succ (by simp [write, hcs]) fun fuel rest _ hrest => ?_
    have hnumber := readNumber_decimal n hrest
    rw [hcs, List.cons_append] at hnumber
    rw [write, hcs, List.cons_append, readValue_number hc, hnumber]
  | str s =>
    refine .of_succ (by cases s <;> simp [write, writeString]) fun fuel rest _ _ => ?_
    obtain ⟨body, hbody, hread⟩ := readString_writeString s rest
    rw [write, hbody, List.cons_append, readValue, skipBlanks_cons rfl]
    simp only [hread, Option.map_some]
  | @arr vs hwhole ih =>
    cases vs with
    | nil => exact .of_succ (by simp [write]) fun fuel rest _ _ => rfl
    | cons v vs =>
      refine .of_succ (by simp [write]) fun fuel rest hfuel _ => ?_
      obtain ⟨c, cs, hcs, hblank, hbracket⟩ := write_eq_cons (hwhole v List.mem_cons_self)
      rw [write, List.length_append, List.length_cons] at hfuel
      have hitems := readItems_write ih fuel (by omega) rest
      rw [hcs, List.cons_append] at hitems
      rw [write, hcs, List.append_assoc, List.cons_append, List.cons_append, readValue,
        skipBlanks_cons rfl]
      simp only [skipBlanks_cons hblank]
      -- The first item does not begin with a bracket, so the array is not taken for an empty one.
      split
      · rename_i heq
        exact absurd (List.cons.inj heq).1 hbracket
      · rw [hitems]
        rfl
  | @obj ms hwhole ih =>
    cases ms with
    | nil => exact .of_succ (by simp [write]) fun fuel rest _ _ => rfl
    | cons m ms =>
      refine .of_succ (by simp [write]) fun fuel rest hfuel _ => ?_
      rw [write, List.length_append, List.length_cons] at hfuel
      have hmembers := readMembers_write ih fuel (by omega) rest
      obtain ⟨body, hbody⟩ := writeMember_eq_cons m
      rw [hbody, List.cons_append] at hmembers
      rw [write, hbody, List.append_assoc, List.cons_append, List.cons_append, readValue,
        skipBlanks_cons rfl]
      -- A member begins with a quote, and so with no brace.
      show (readMembers fuel _).map _ = _
      rw [hmembers]
      rfl

/-- **What is written reads back.** -/
theorem read?_render {v : Value} (hv : v.Whole) : Value.read? v.render = some v := by
  have hread := readValue_write hv (2 * (write v).length + 2) [] (by omega) closes_nil
  rw [List.append_nil] at hread
  simp only [Value.read?, Value.render, String.toList_ofList, hread]
  rfl

end Json

end Gatehouse
