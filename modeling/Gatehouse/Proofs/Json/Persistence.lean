/-
What is kept in JSON is read back.

Each kind of value that is kept has a writer and a reader.  The reader undoes the writer,
from the text on: the value that is written holds no number but whole ones, so its text
reads back as that value; and the reader finds each field by its name, so that neither the
order of the fields nor anything else that a text is free in matters (`Persists`).

A record of a session that was kept before there were products has no name of a product.
It is read as one whose name is empty.
-/
import Gatehouse.Access.Fault
import Gatehouse.Permission.Registry
import Gatehouse.Session.Record
import Gatehouse.Settings.Basic
import Gatehouse.Proofs.Json.Order
import Gatehouse.Proofs.Json.RoundTrip
import Mathlib.Data.List.Nodup

namespace Gatehouse

namespace Json

/-! ### Values of whole numbers -/

namespace Value

theorem whole_ofText (s : String) : (ofText s).Whole := .str _

theorem whole_ofTexts (ss : List String) : (ofTexts ss).Whole := by
  refine .arr fun v hv => ?_
  obtain ⟨s, -, rfl⟩ := List.mem_map.1 hv
  exact whole_ofText s

theorem whole_ofOption {o : Option Value} (h : ∀ v, o = some v → v.Whole) : (ofOption o).Whole := by
  cases o with
  | none => exact .null
  | some v => exact h v rfl

theorem whole_ofMembers {ms : List (String × Value)} (h : ∀ m ∈ ms, m.2.Whole) :
    (ofMembers ms).Whole := by
  refine .obj fun m hm => ?_
  obtain ⟨m, hmem, rfl⟩ := List.mem_map.1 hm
  exact h m hmem

theorem Whole.moved {v w : Value} (h : v.Moved w) (hv : v.Whole) : w.Whole := by
  induction h with
  | members hperm =>
    cases hv with
    | obj hms => exact .obj fun m hm => hms m (hperm.mem_iff.2 hm)
  | item before after _ ih =>
    cases hv with
    | arr hvs =>
      simp only [List.mem_append, List.mem_cons] at hvs
      refine .arr fun u hu => ?_
      rcases List.mem_append.1 hu with hu | hu
      · exact hvs u (.inl hu)
      · rcases List.mem_cons.1 hu with rfl | hu
        · exact ih (hvs _ (.inr (.inl rfl)))
        · exact hvs u (.inr (.inr hu))
  | value name before after _ ih =>
    cases hv with
    | obj hms =>
      simp only [List.mem_append, List.mem_cons] at hms
      refine .obj fun m hm => ?_
      rcases List.mem_append.1 hm with hm | hm
      · exact hms m (.inl hm)
      · rcases List.mem_cons.1 hm with rfl | hm
        · exact ih (hms _ (.inr (.inl rfl)))
        · exact hms m (.inr (.inr hm))

theorem Whole.reordered {v w : Value} (h : v.Reordered w) (hv : v.Whole) : w.Whole := by
  induction h with
  | refl => exact hv
  | tail _ hmoved ih => exact ih.moved hmoved

/-! ### Parts that are written and read -/

theorem texts?_ofTexts (ss : List String) : (ofTexts ss).texts? = some ss := by
  simp only [ofTexts, texts?, items?, Option.bind_eq_bind, Option.bind_some]
  induction ss with
  | nil => rfl
  | cons s ss ih => rw [List.map_cons, List.mapM_cons, ih]; rfl

theorem intWithin?_int {lo hi n : Int} (hlo : lo ≤ n) (hhi : n ≤ hi) :
    (Value.int n).intWithin? lo hi = some n := by
  simp [intWithin?, int?, hlo, hhi]

theorem uint32?_int (n : UInt32) : (Value.int n.toNat).uint32? = some n := by
  have hlt := n.toNat_lt
  rw [uint32?, intWithin?_int (by omega) (by omega), Option.map_some, Int.toNat_natCast,
    UInt32.ofNat_toNat]

theorem uint64?_int (n : UInt64) : (Value.int n.toNat).uint64? = some n := by
  have hlt := n.toNat_lt
  rw [uint64?, intWithin?_int (by omega) (by omega), Option.map_some, Int.toNat_natCast,
    UInt64.ofNat_toNat]

theorem int32?_int (n : Int32) : (Value.int n.toInt).int32? = some n := by
  have hle := n.le_toInt
  have hlt := n.toInt_lt
  rw [int32?, intWithin?_int (by omega) (by omega), Option.map_some, Int32.ofInt_toInt]

theorem nullable?_ofOption {α : Type} (read : Value → Option α) (write : α → Value)
    (hread : ∀ a, read (write a) = some a) (hnull : read .null = none) (o : Option α) :
    (ofOption (o.map write)).nullable? read = some o := by
  cases o with
  | none => rfl
  | some a =>
    show (write a).nullable? read = some (some a)
    have ha := hread a
    cases hw : write a with
    | null =>
      rw [hw, hnull] at ha
      cases ha
    | _ =>
      rw [hw] at ha
      exact congrArg (Option.map some) ha

end Value

/-- An object of the declared names in their order has the values for fields. -/
theorem fields?_ofMembers {fs : List Field} {ms : List (String × Value)}
    (hdistinct : (fs.map Field.name).Nodup) (hnames : ms.map Prod.fst = fs.map Field.name) :
    (Value.ofMembers ms).fields? fs = some (ms.map fun m => some m.2) := by
  have hkeys : (ms.map fun m => Value.member m.1 m.2).map Prod.fst =
      (fs.map Field.name).map some := by
    rw [← hnames, List.map_map, List.map_map]
    rfl
  have hcount : ∀ name, ((fs.map Field.name).map some).count (some name) ≤ 1 := fun name =>
    List.nodup_iff_count_le_one.1 (hdistinct.map (Option.some_injective _)) (some name)
  refine fieldsOfMembers?_eq_some_iff.2 ⟨?_, ?_⟩
  · rw [hkeys]
    refine ⟨fun name hname => ?_, fun f _ => hcount f.name, fun f hf _ => ?_⟩
    · obtain ⟨s, -, rfl⟩ := List.mem_map.1 hname
      rfl
    · exact List.mem_map_of_mem (List.mem_map_of_mem hf)
  · calc ms.map (fun m => some m.2)
        = ms.map fun m => lookup m.1 (ms.map fun m => Value.member m.1 m.2) := by
          refine List.map_congr_left fun m hm => ?_
          refine ((lookup_eq_some_iff ?_).2 ?_).symm
          · rw [hkeys]
            exact hcount m.1
          · exact List.mem_map_of_mem (f := fun m => Value.member m.1 m.2) hm
      _ = (fs.map Field.name).map fun name =>
            lookup name (ms.map fun m => Value.member m.1 m.2) := by
          rw [← hnames, List.map_map]
          rfl
      _ = fs.map fun f => lookup f.name (ms.map fun m => Value.member m.1 m.2) := by
          rw [List.map_map]
          rfl

/-- An object without the members of a name. -/
def Value.without (name : String) : Value → Value
  | .obj ms => .obj (ms.filter fun m => m.1 ≠ some name)
  | v => v

theorem Value.Whole.without {v : Value} (hv : v.Whole) (name : String) : (v.without name).Whole := by
  cases hv with
  | obj hms => exact .obj fun m hm => hms m (List.mem_filter.1 hm).1
  | null => exact .null
  | bool b => exact .bool b
  | int n => exact .int n
  | str s => exact .str s
  | arr hvs => exact .arr hvs

theorem lookup_without_of_ne {name other : String} (h : other ≠ name)
    (ms : List (Option String × Value)) :
    lookup other (ms.filter fun m => m.1 ≠ some name) = lookup other ms := by
  induction ms with
  | nil => rfl
  | cons m ms ih =>
    by_cases hname : m.1 = some name
    · have hother : m.1 ≠ some other := by
        rw [hname]
        exact fun heq => h (Option.some.inj heq).symm
      rw [List.filter_cons_of_neg (by simp [hname]), ih, lookup, if_neg hother]
    · rw [List.filter_cons_of_pos (by simp [hname]), lookup, lookup, ih]

theorem lookup_without_self (name : String) (ms : List (Option String × Value)) :
    lookup name (ms.filter fun m => m.1 ≠ some name) = none := by
  rw [← Option.not_isSome_iff_eq_none, isSome_lookup_iff]
  intro hmem
  obtain ⟨m, hm, hname⟩ := List.mem_map.1 hmem
  simpa [hname] using (List.mem_filter.1 hm).2

/-- Without a field that is not required an object makes up the same record, but for that field. -/
theorem fields?_without {fs : List Field} (name : String)
    (hoptional : ∀ f ∈ fs, f.presence = .required → f.name ≠ name)
    {ms : List (Option String × Value)} {values : List (Option Value)}
    (h : (Value.obj ms).fields? fs = some values) :
    values = fs.map (fun f => lookup f.name ms) ∧
    ((Value.obj ms).without name).fields? fs =
      some (fs.map fun f => if f.name = name then none else lookup f.name ms) := by
  obtain ⟨hfits, hvalues⟩ := fieldsOfMembers?_eq_some_iff.1 h
  have hsublist : ((ms.filter fun m => m.1 ≠ some name).map Prod.fst).Sublist (ms.map Prod.fst) :=
    List.filter_sublist.map Prod.fst
  refine ⟨hvalues, fieldsOfMembers?_eq_some_iff.2 ⟨⟨?_, ?_, ?_⟩, ?_⟩⟩
  · exact fun key hkey => hfits.named key (hsublist.subset hkey)
  · exact fun f hf => Nat.le_trans (hsublist.count_le _) (hfits.once f hf)
  · intro f hf hrequired
    rw [← isSome_lookup_iff, lookup_without_of_ne (hoptional f hf hrequired), isSome_lookup_iff]
    exact hfits.present f hf hrequired
  · refine List.map_congr_left fun f _ => ?_
    by_cases hname : f.name = name
    · rw [if_pos hname, hname, lookup_without_self]
    · rw [if_neg hname, lookup_without_of_ne hname]

/-- A record of one text is read as that text. -/
theorem soleText?_ofMembers (field text : String) :
    (Value.ofMembers [(field, .ofText text)]).soleText? field = some text := by
  have hfields : (Value.ofMembers [(field, .ofText text)]).fields? [⟨field, .required⟩] =
      some [some (.ofText text)] := fields?_ofMembers (by simp) rfl
  unfold Value.soleText?
  rw [hfields]
  rfl

/-! ### Persistence -/

/-- What is written is read back from its text, with the members of its objects in any order. -/
structure Persists {α : Type} (write : α → Value) (read : Value → Option α) : Prop where
  /-- The text of what is written reads back... -/
  reads_back : ∀ a, (Value.read? (write a).render).bind read = some a
  /-- ... also with its members in any other order. -/
  reordered : ∀ a w, (write a).Reordered w → (Value.read? w.render).bind read = some a
  /-- The order does not matter for other texts either, also for those that are refused. -/
  blind : ∀ text text' v v', Value.read? text = some v → Value.read? text' = some v' →
    v.Reordered v' → read v' = read v

theorem Persists.of {α : Type} {write : α → Value} {read : Value → Option α}
    (hwhole : ∀ a, (write a).Whole) (hread : ∀ a, read (write a) = some a) (hblind : Blind read) :
    Persists write read where
  reads_back := fun a => by
    rw [read?_render (hwhole a)]
    exact hread a
  reordered := fun a w hw => by
    rw [read?_render ((hwhole a).reordered hw), Option.bind_some, ← hblind.reordered hw]
    exact hread a
  blind := fun _ _ _ _ _ _ h => (hblind.reordered h).symm

end Json

open Json

/-! ### Denials and faults -/

namespace Denial

theorem whole_toJson (d : Denial) : d.toJson.Whole :=
  Value.whole_ofMembers (by simp [Value.whole_ofText])

theorem ofJson?_toJson (d : Denial) : ofJson? d.toJson = some d := by
  unfold ofJson? toJson
  rw [fields?_ofMembers (by decide) rfl]
  rfl

theorem blind_ofJson? : Blind ofJson? := by
  intro v w h
  unfold ofJson?
  rcases fields?_moved fields h with ⟨hv, hw⟩ | ⟨_, _, hv, hw, halike⟩
  · rw [hv, hw]
  · rw [hv, hw]
    rcases halike with _ | ⟨hcode | _, _ | ⟨hmessage | _, _ | ⟨_, _⟩⟩⟩
    case cons.some.cons.some.nil =>
      simp only [blind_text?.stirred hcode, blind_text?.stirred hmessage]
    all_goals rfl

end Denial

namespace Fault

theorem whole_toJson (f : Fault) : f.toJson.Whole := by
  cases f with
  | notLoggedOn => exact Value.whole_ofText _
  | denied d => exact Value.whole_ofMembers (by simp [d.whole_toJson])
  | licenseExhausted reason =>
    exact Value.whole_ofMembers (by simp [Value.whole_ofMembers, Value.whole_ofText])

theorem ofJson?_toJson (f : Fault) : ofJson? f.toJson = some f := by
  cases f with
  | notLoggedOn => rfl
  | denied d =>
    have hd := d.ofJson?_toJson
    simp only [toJson, ofJson?, Value.ofMembers, Value.member, List.map_cons, List.map_nil,
      Value.choice?, Option.bind_eq_bind, Option.bind_some, hd]
    rfl
  | licenseExhausted reason =>
    have hreason := soleText?_ofMembers "reason" reason
    simp only [Value.ofMembers, Value.member, List.map_cons, List.map_nil] at hreason
    simp only [toJson, ofJson?, Value.ofMembers, Value.member, List.map_cons, List.map_nil,
      Value.choice?, Option.bind_eq_bind, Option.bind_some, hreason]
    rfl

theorem blind_ofJson? : Blind ofJson? := by
  intro v w h
  unfold ofJson?
  rcases choice?_moved h with hsame | ⟨name, body, body', hv, hw, hmoved⟩
  · rw [hsame]
  · rw [hv, hw]
    simp only [Option.bind_eq_bind, Option.bind_some]
    have hnothing := carriesNothing_of_moved hmoved
    have hdenial := Denial.blind_ofJson? body body' hmoved
    have hreason := blind_soleText? "reason" body body' hmoved
    split
    case h_1 heq =>
      cases heq
      rw [hnothing]
      rfl
    case h_2 heq =>
      cases heq
      rw [hdenial]
      rfl
    case h_3 heq =>
      cases heq
      rw [hreason]
      rfl
    case h_4 hfirst hsecond hthird =>
      -- The name is that of no alternative, and it is the same name after the move.
      split
      case h_1 heq =>
        cases heq
        exact absurd rfl (hfirst _)
      case h_2 heq =>
        cases heq
        exact absurd rfl (hsecond _)
      case h_3 heq =>
        cases heq
        exact absurd rfl (hthird _)
      case h_4 => rfl

end Fault

/-! ### Errors -/

namespace ServiceError

theorem ofKind?_detail (e : ServiceError) : ofKind? e.kind e.detail = some e := by
  cases e <;> rfl

/-- What an error of a kind is about stands in the field that the kind says. -/
theorem ofKind?_detailField (e : ServiceError) :
    ∃ sample, ofKind? e.kind "" = some sample ∧ sample.detailField = e.detailField := by
  cases e <;> exact ⟨_, rfl, rfl⟩

theorem whole_toJson (e : ServiceError) : e.toJson.Whole :=
  Value.whole_ofMembers (by simp [Value.whole_ofMembers, Value.whole_ofText])

theorem ofJson?_toJson (e : ServiceError) : ofJson? e.toJson = some e := by
  obtain ⟨sample, hsample, hfield⟩ := ofKind?_detailField e
  have hchoice : e.toJson.choice? =
      some (e.kind, some (.ofMembers [(e.detailField, .ofText e.detail)])) := rfl
  unfold ofJson?
  rw [hchoice]
  simp only [Option.bind_eq_bind, Option.bind_some, hsample, hfield, soleText?_ofMembers,
    ofKind?_detail]

theorem blind_ofJson? : Blind ofJson? := by
  intro v w h
  unfold ofJson?
  rcases choice?_moved h with hsame | ⟨name, body, body', hv, hw, hmoved⟩
  · rw [hsame]
  · rw [hv, hw]
    simp only [Option.bind_eq_bind, Option.bind_some, fun field => blind_soleText? field body body' hmoved]

end ServiceError

/-! ### Settings -/

namespace UnboundPolicy

theorem ofJson?_toJson (p : UnboundPolicy) : ofJson? p.toJson = some p := by
  cases p <;> rfl

theorem blind_ofJson? : Blind ofJson? := by
  intro v w h
  unfold ofJson?
  rcases choice?_moved h with hsame | ⟨name, body, body', hv, hw, hmoved⟩
  · rw [hsame]
  · rw [hv, hw]
    simp only [Option.bind_eq_bind, Option.bind_some, carriesNothing_of_moved hmoved]

end UnboundPolicy

namespace SessionSettings

/-- A setting that may be left out is read alike if its value is. -/
theorem setting_alike {α : Type} {read : Value → Option α} (hread : Blind read) (fallback : α)
    {found found' : Option Value} (h : Option.Rel Value.Stirred found found') :
    setting read fallback found = setting read fallback found' := by
  cases h with
  | none => rfl
  | some hstirred => exact hread.stirred hstirred

theorem whole_toJson (s : SessionSettings) : s.toJson.Whole :=
  Value.whole_ofMembers (by simp [Value.Whole.int])

theorem ofJson?_toJson (s : SessionSettings) : ofJson? s.toJson = some s := by
  have hfields : s.toJson.fields? (fieldNames.map (⟨·, .defaulted⟩)) = some _ :=
    fields?_ofMembers (by decide) rfl
  unfold ofJson?
  rw [hfields]
  simp only [List.map_cons, List.map_nil, Option.bind_eq_bind, Option.bind_some, ofFields?, setting,
    Value.uint32?_int]
  rfl

theorem blind_ofJson? : Blind ofJson? := by
  intro v w h
  unfold ofJson?
  rcases fields?_moved (fieldNames.map (⟨·, .defaulted⟩)) h with
    ⟨hv, hw⟩ | ⟨_, _, hv, hw, halike⟩
  · rw [hv, hw]
  · rw [hv, hw]
    rcases halike with _ | ⟨httl, _ | ⟨hflush, _ | ⟨hwarning, _ | ⟨_, _⟩⟩⟩⟩
    case cons.cons.cons.nil =>
      simp only [Option.bind_eq_bind, Option.bind_some, ofFields?,
        setting_alike blind_uint32? _ httl, setting_alike blind_uint32? _ hflush,
        setting_alike blind_uint32? _ hwarning]
    all_goals rfl

end SessionSettings

namespace AuthorizationSettings

theorem whole_toJson (s : AuthorizationSettings) : s.toJson.Whole :=
  Value.whole_ofMembers (by simp [UnboundPolicy.toJson, Value.whole_ofText])

theorem ofJson?_toJson (s : AuthorizationSettings) : ofJson? s.toJson = some s := by
  have hfields : s.toJson.fields? [⟨"unbound_policy", .defaulted⟩] = some _ :=
    fields?_ofMembers (by decide) rfl
  unfold ofJson?
  rw [hfields]
  simp only [List.map_cons, List.map_nil, Option.bind_eq_bind, Option.bind_some,
    SessionSettings.setting, UnboundPolicy.ofJson?_toJson]
  rfl

theorem blind_ofJson? : Blind ofJson? := by
  intro v w h
  unfold ofJson?
  rcases fields?_moved [⟨"unbound_policy", .defaulted⟩] h with
    ⟨hv, hw⟩ | ⟨_, _, hv, hw, halike⟩
  · rw [hv, hw]
  · rw [hv, hw]
    rcases halike with _ | ⟨hpolicy, _ | ⟨_, _⟩⟩
    case cons.nil =>
      simp only [Option.bind_eq_bind, Option.bind_some,
        SessionSettings.setting_alike UnboundPolicy.blind_ofJson? _ hpolicy]
    all_goals rfl

end AuthorizationSettings

namespace Settings

theorem whole_toJson (s : Settings) : s.toJson.Whole :=
  Value.whole_ofMembers (by
    simp [s.session.whole_toJson, s.authorization.whole_toJson])

theorem ofJson?_toJson (s : Settings) : ofJson? s.toJson = some s := by
  have hfields : s.toJson.fields? [⟨"session", .defaulted⟩, ⟨"authorization", .defaulted⟩] =
      some _ := fields?_ofMembers (by decide) rfl
  unfold ofJson?
  rw [hfields]
  simp only [List.map_cons, List.map_nil, Option.bind_eq_bind, Option.bind_some,
    SessionSettings.setting, SessionSettings.ofJson?_toJson, AuthorizationSettings.ofJson?_toJson]
  rfl

theorem blind_ofJson? : Blind ofJson? := by
  intro v w h
  unfold ofJson?
  rcases fields?_moved [⟨"session", .defaulted⟩, ⟨"authorization", .defaulted⟩] h with
    ⟨hv, hw⟩ | ⟨_, _, hv, hw, halike⟩
  · rw [hv, hw]
  · rw [hv, hw]
    rcases halike with _ | ⟨hsession, _ | ⟨hauthorization, _ | ⟨_, _⟩⟩⟩
    case cons.cons.nil =>
      simp only [Option.bind_eq_bind, Option.bind_some,
        SessionSettings.setting_alike SessionSettings.blind_ofJson? _ hsession,
        SessionSettings.setting_alike AuthorizationSettings.blind_ofJson? _ hauthorization]
    all_goals rfl

end Settings

/-! ### Descriptors -/

namespace Descriptor

theorem whole_toJson (d : Descriptor) : d.toJson.Whole := by
  refine Value.whole_ofMembers ?_
  have hdescription : (Value.ofOption (d.description.map .ofText)).Whole := by
    refine Value.whole_ofOption fun v hv => ?_
    obtain ⟨s, -, rfl⟩ := Option.map_eq_some_iff.1 hv
    exact Value.whole_ofText s
  simp [Value.whole_ofText, hdescription]

theorem ofJson?_toJson (d : Descriptor) : ofJson? d.toJson = some d := by
  have hfields : d.toJson.fields? fields = some _ := fields?_ofMembers (by decide) rfl
  unfold ofJson?
  rw [hfields]
  have hdescription := Value.nullable?_ofOption Value.text? Value.ofText (fun _ => rfl) rfl d.description
  simp only [List.map_cons, List.map_nil, Option.getD_some, hdescription]
  rfl

theorem blind_ofJson? : Blind ofJson? := by
  intro v w h
  unfold ofJson?
  rcases fields?_moved fields h with ⟨hv, hw⟩ | ⟨_, _, hv, hw, halike⟩
  · rw [hv, hw]
  · rw [hv, hw]
    rcases halike with _ | ⟨hcode | _, _ | ⟨hname | _, _ | ⟨hdescription, _ | ⟨_, _⟩⟩⟩⟩
    case cons.some.cons.some.cons.nil =>
      simp only [blind_text?.stirred hcode, blind_text?.stirred hname,
        blind_text?.nullable?.stirred (stirred_getD hdescription .null)]
    all_goals rfl

end Descriptor

/-! ### Records of sessions -/

namespace SessionRecord

theorem whole_toJson (r : SessionRecord) : r.toJson.Whole := by
  refine Value.whole_ofMembers ?_
  have hgroup : (Value.ofOption (r.orgGroupId.map fun g => .int g.toInt)).Whole := by
    refine Value.whole_ofOption fun v hv => ?_
    obtain ⟨g, -, rfl⟩ := Option.map_eq_some_iff.1 hv
    exact .int _
  simp [Value.whole_ofText, Value.whole_ofTexts, Value.Whole.int, hgroup]

theorem ofJson?_toJson (r : SessionRecord) : ofJson? r.toJson = some r := by
  have hfields : r.toJson.fields? fields = some _ := fields?_ofMembers (by decide) rfl
  have hgroup := Value.nullable?_ofOption Value.int32? (fun g => .int g.toInt) Value.int32?_int rfl
    r.orgGroupId
  unfold ofJson?
  rw [hfields]
  simp only [List.map_cons, List.map_nil, Option.bind_eq_bind, Option.bind_some, Option.getD_some,
    Value.uint64?_int, Value.int32?_int, Value.texts?_ofTexts, hgroup]
  rfl

theorem blind_ofJson? : Blind ofJson? := by
  intro v w h
  unfold ofJson?
  rcases fields?_moved fields h with ⟨hv, hw⟩ | ⟨_, _, hv, hw, halike⟩
  · rw [hv, hw]
  · rw [hv, hw]
    -- Where something required is missing, or there are more fields, nothing is read of either.
    rcases halike with _ | ⟨hid | _, _ | ⟨huser | _, _ | ⟨hlogin | _, _ | ⟨hip | _, _ | ⟨hgroup,
      _ | ⟨hpermissions | _, _ | ⟨hculture | _, _ | ⟨htypes | _, _ | ⟨hproduct,
      _ | ⟨_, _⟩⟩⟩⟩⟩⟩⟩⟩⟩⟩
    case cons.some.cons.some.cons.some.cons.some.cons.cons.some.cons.some.cons.some.cons.nil =>
      simp only [Option.bind_eq_bind, Option.bind_some, blind_uint64?.stirred hid,
        blind_int32?.stirred huser, blind_text?.stirred hlogin, blind_text?.stirred hip,
        blind_int32?.nullable?.stirred (stirred_getD hgroup .null),
        blind_texts?.stirred hpermissions, blind_text?.stirred hculture,
        blind_texts?.stirred htypes, blind_text?.stirred (stirred_getD hproduct (.ofText ""))]
    all_goals rfl

/-- **A record without a product is read as one whose product has no name.** -/
theorem ofJson?_without {ms : List (Option String × Value)} {r : SessionRecord}
    (h : ofJson? (.obj ms) = some r) :
    ofJson? ((Value.obj ms).without "ProductName") = some { r with productName := "" } := by
  unfold ofJson? at h ⊢
  cases hvalues : (Value.obj ms).fields? fields with
  | none =>
    rw [hvalues] at h
    cases h
  | some values =>
    obtain ⟨rfl, hwithout⟩ := fields?_without "ProductName" (by decide) hvalues
    rw [hvalues] at h
    rw [hwithout]
    simp only [fields, List.map_cons, List.map_nil, Option.bind_eq_bind, Option.bind_some] at h ⊢
    split at h
    · rename_i heq
      simp only [List.cons.injEq, and_true] at heq
      obtain ⟨hid, huser, hlogin, hip, rfl, hpermissions, hculture, htypes, rfl⟩ := heq
      simp only [Option.bind_eq_some_iff, Option.pure_def, Option.some.injEq] at h
      obtain ⟨id, hread, user, huser', login, hlogin', ip, hip', group, hgroup', permissions,
        hpermissions', culture, hculture', types, htypes', product, -, rfl⟩ := h
      simp only [String.reduceEq, if_false, if_true, hid, huser, hlogin, hip, hpermissions, hculture,
        htypes, hread, huser', hlogin', hip', hgroup', hpermissions', hculture', htypes',
        Option.bind_some]
      rfl
    · cases h

end SessionRecord

/-- **What is kept in JSON reads back as it was**, for records of sessions, descriptors, denials,
faults, errors and settings, in whatever order the fields stand.  A record of a session in which the
product is left out reads as the same record with an empty name for it. -/
theorem kept_values_read_back :
    Persists SessionRecord.toJson SessionRecord.ofJson? ∧
    Persists Descriptor.toJson Descriptor.ofJson? ∧
    Persists Denial.toJson Denial.ofJson? ∧
    Persists Fault.toJson Fault.ofJson? ∧
    Persists ServiceError.toJson ServiceError.ofJson? ∧
    Persists Settings.toJson Settings.ofJson? ∧
    (∀ (r : SessionRecord) (w : Value), (r.toJson.without "ProductName").Reordered w →
      (Value.read? w.render).bind SessionRecord.ofJson? = some { r with productName := "" }) ∧
    ∀ (ms : List (Option String × Value)) (r : SessionRecord),
      SessionRecord.ofJson? (.obj ms) = some r →
      SessionRecord.ofJson? ((Value.obj ms).without "ProductName") =
        some { r with productName := "" } := by
  refine ⟨.of SessionRecord.whole_toJson SessionRecord.ofJson?_toJson SessionRecord.blind_ofJson?,
    .of Descriptor.whole_toJson Descriptor.ofJson?_toJson Descriptor.blind_ofJson?,
    .of Denial.whole_toJson Denial.ofJson?_toJson Denial.blind_ofJson?,
    .of Fault.whole_toJson Fault.ofJson?_toJson Fault.blind_ofJson?,
    .of ServiceError.whole_toJson ServiceError.ofJson?_toJson ServiceError.blind_ofJson?,
    .of Settings.whole_toJson Settings.ofJson?_toJson Settings.blind_ofJson?, fun r w hw => ?_,
    fun _ _ => SessionRecord.ofJson?_without⟩
  have hwhole := r.whole_toJson.without "ProductName"
  have hread : SessionRecord.ofJson? (r.toJson.without "ProductName") =
      some { r with productName := "" } := SessionRecord.ofJson?_without r.ofJson?_toJson
  rw [read?_render (hwhole.reordered hw), Option.bind_some,
    ← SessionRecord.blind_ofJson?.reordered hw, hread]

/-- A record of the greatest id and the least user, and of a name with all that is escaped, reads back;
without the product, and with its fields from the last to the first, it has no name for one. -/
theorem escaped_record_reads_back :
    let r : SessionRecord := ⟨⟨0xFFFFFFFFFFFFFFFF⟩, -0x80000000, "\"\\\n\x01é", "::1", none,
      ["VIEW", ""], "en", [], "Suite"⟩
    (Value.read? r.toJson.render).bind SessionRecord.ofJson? = some r ∧
    (Value.read? (Value.ofMembers [("MessageTypes", .ofTexts []), ("Culture", .ofText "en"),
      ("Permissions", .ofTexts ["VIEW", ""]), ("OrgGroupId", .null), ("CreatedIP", .ofText "::1"),
      ("Login", .ofText r.login), ("UserId", .int (-0x80000000)),
      ("SessionId", .int 0xFFFFFFFFFFFFFFFF)]).render).bind SessionRecord.ofJson? =
        some { r with productName := "" } := by
  intro r
  obtain ⟨hrecord, -, -, -, -, -, hwithout, -⟩ := kept_values_read_back
  refine ⟨hrecord.reads_back r, hwithout r _ (.single ?_)⟩
  exact .members (List.reverse_perm _).symm

end Gatehouse
