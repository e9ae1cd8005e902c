/-
What comes back of a session that is restored from its record.

A record may list a code in several spellings and a message type several times, in any
order.  A session keeps the first spelling of each code and each type once, and lists both
in order; so what its record says is what the record it was made from says, in canonical
form (`toRecord_ofRecord`).

A record that a session gives is in that form already, and the session that is made of it
has the same codes in the same spelling and the same types: a set is what adding its own
listing makes of nothing, and so are message types.  Bringing a session back is therefore
done with once; doing it again, later, elsewhere and under other settings, gives the same
rights, the same subscriptions and the same record (`RestoredFrom.alike`).
-/
import Gatehouse.Proofs.House.Making
import Gatehouse.Proofs.Text.Listing

namespace Gatehouse

/-! ### Codes and message types as listings -/

namespace PermissionSet

/-- The set of some codes lists the first spelling of each, in the order of their upper case. -/
theorem texts_ofCodes (ts : List String) :
    (ofCodes (ts.map Code.mk)).codes.map Code.text = Text.listing Text.upper ts := by
  refine (Text.listing_eq ?_ fun t => ?_).symm
  · have hforms := (ofCodes (ts.map Code.mk)).spellings.pairwise_forms
    rw [Catalog.forms_eq, List.pairwise_map] at hforms
    rw [List.pairwise_map]
    exact hforms.imp fun hlt => Text.utf8_lt_iff.2 hlt
  · have hlisted : t ∈ (ofCodes (ts.map Code.mk)).codes.map Code.text ↔
        ⟨t⟩ ∈ (ofCodes (ts.map Code.mk)).codes := by
      rw [List.mem_map]
      exact ⟨fun ⟨c, hc, ht⟩ => ht ▸ hc, fun h => ⟨_, h, rfl⟩⟩
    have hfound : (ts.map Code.mk).find? (fun c => c.normalized == Text.upper t) =
        (ts.find? fun u => Text.upper u == Text.upper t).map Code.mk := List.find?_map
    rw [hlisted, codes, Catalog.mem_items_iff]
    show (Catalog.addAll ∅ (ts.map Code.mk)).get? (Text.upper t) = _ ↔ _
    rw [Catalog.get?_addAll, Catalog.get?_empty, Option.none_or, hfound, Option.map_eq_some_iff]
    exact ⟨fun ⟨u, hu, heq⟩ => hu.trans (congrArg some (Code.mk.inj heq)), fun h => ⟨t, h, rfl⟩⟩

/-- A set is made again of the texts that it lists. -/
theorem ofCodes_texts (p : PermissionSet) :
    ofCodes ((p.codes.map Code.text).map Code.mk) = p.toMutable := by
  have htexts : (p.codes.map Code.text).map Code.mk = p.codes := by
    rw [List.map_map]
    exact List.map_id _
  rw [htexts]
  exact congrArg (PermissionSet.mk · false) (Catalog.addAll_items p.spellings)

end PermissionSet

namespace Session

theorem get?_addTypes (types : SortedMap String Unit) (more : List String) (type : String) :
    (addTypes types more).get? type = if type ∈ more then some () else types.get? type := by
  induction more generalizing types with
  | nil => simp [addTypes]
  | cons t more ih =>
    show (addTypes (types.insert t ()) more).get? type = _
    rw [ih, SortedMap.get?_insert]
    by_cases hmore : type ∈ more
    · simp [hmore]
    · simp [hmore]

/-- Message types are listed once each, in order. -/
theorem keys_addTypes (ts : List String) : (addTypes ∅ ts).keys = Text.plainListing ts := by
  refine (Text.plainListing_eq ?_ fun t => ?_).symm
  · exact (addTypes ∅ ts).pairwise_keys.imp fun hlt => Text.utf8_lt_iff.2 hlt
  · rw [SortedMap.mem_keys_iff, SortedMap.contains, get?_addTypes, SortedMap.get?_empty]
    by_cases ht : t ∈ ts <;> simp [ht]

/-- Message types are what adding their listing makes of nothing. -/
theorem addTypes_keys (types : SortedMap String Unit) : addTypes ∅ types.keys = types := by
  refine SortedMap.ext_get? fun type => ?_
  rw [get?_addTypes, SortedMap.get?_empty]
  by_cases htype : type ∈ types.keys
  · obtain ⟨u, hu⟩ := Option.isSome_iff_exists.1 (SortedMap.mem_keys_iff.1 htype)
    rw [if_pos htype, hu]
  · rw [if_neg htype]
    rw [SortedMap.mem_keys_iff, SortedMap.contains, Option.not_isSome_iff_eq_none] at htype
    exact htype.symm

end Session

/-! ### Records -/

/-- The record with the first spelling of each code and each message type once, in order. -/
def SessionRecord.canonical (r : SessionRecord) : SessionRecord :=
  { r with
    permissions := Text.listing Text.upper r.permissions
    messageTypes := Text.plainListing r.messageTypes }

namespace Session

variable {s t u : Session} {r : SessionRecord} {services : Services} {now : Instant}

/-- A session is made of a record if its end can be represented. -/
theorem exists_ofRecord (r : SessionRecord) (h : (now.add? (lifetime services)).isSome = true) :
    ∃ s, ofRecord r services now = .ok s := by
  obtain ⟨ending, hending⟩ := Option.isSome_iff_exists.1 h
  unfold ofRecord make
  rw [hending]
  exact ⟨_, rfl⟩

/-- **The record of a session that was made of a record is the canonical form of that record.** -/
theorem toRecord_ofRecord (h : ofRecord r services now = .ok s) : s.toRecord = r.canonical := by
  unfold ofRecord make at h
  cases hending : now.add? (lifetime services) with
  | none =>
    rw [hending] at h
    cases h
  | some ending =>
    rw [hending] at h
    cases h
    have hcodes := PermissionSet.texts_ofCodes r.permissions
    have htypes := keys_addTypes r.messageTypes
    unfold SessionRecord.canonical
    rw [← hcodes, ← htypes]
    rfl

theorem messageTypes_ofRecord (h : ofRecord r services now = .ok s) :
    s.messageTypes = addTypes ∅ r.messageTypes := by
  unfold ofRecord make at h
  cases hending : now.add? (lifetime services) with
  | none =>
    rw [hending] at h
    cases h
  | some ending =>
    rw [hending] at h
    cases h
    rfl

/-- The record of a session is in canonical form. -/
theorem canonical_toRecord (s : Session) : s.toRecord.canonical = s.toRecord := by
  have hcodes := PermissionSet.texts_ofCodes s.toRecord.permissions
  have htypes := keys_addTypes s.toRecord.messageTypes
  unfold SessionRecord.canonical
  rw [← hcodes, ← htypes]
  unfold toRecord
  rw [PermissionSet.ofCodes_texts, addTypes_keys]
  rfl

/-- Two sessions are as good as one for whoever is told who they are for, what they may do and what
they listen to. -/
structure Alike (s t : Session) : Prop where
  id : t.id = s.id
  /-- The rights compare equal... -/
  equal : (t.permissions == s.permissions) = true
  /-- ... and are the same down to the spelling. -/
  permissions : t.permissions = s.permissions
  messageTypes : t.messageTypes = s.messageTypes
  record : t.toRecord = s.toRecord

theorem Alike.of_same (hid : t.id = s.id) (hpermissions : t.permissions = s.permissions)
    (htypes : t.messageTypes = s.messageTypes) (hrecord : t.toRecord = s.toRecord) : Alike s t := by
  refine ⟨hid, ?_, hpermissions, htypes, hrecord⟩
  rw [hpermissions]
  exact beq_self_eq_true s.permissions.thumbprint

theorem Alike.refl (s : Session) : Alike s s := .of_same rfl rfl rfl rfl

theorem Alike.trans (hst : Alike s t) (htu : Alike t u) : Alike s u :=
  .of_same (htu.id.trans hst.id) (htu.permissions.trans hst.permissions)
    (htu.messageTypes.trans hst.messageTypes) (htu.record.trans hst.record)

/-- **A session that is made of the record of another is like it.** -/
theorem alike_of_ofRecord (hs : s.permissions.readOnly = true)
    (h : ofRecord s.toRecord services now = .ok t) : Alike s t := by
  obtain ⟨hid, -, hpermissions⟩ := ofRecord_ok h
  have hsame : (requestOfRecord s.toRecord).permissions.snapshot = s.permissions := by
    show (PermissionSet.ofCodes ((s.permissions.codes.map Code.text).map Code.mk)).snapshot = _
    rw [PermissionSet.ofCodes_texts]
    show PermissionSet.mk s.permissions.spellings true = _
    rw [← hs]
  have htypes : t.messageTypes = s.messageTypes := by
    rw [messageTypes_ofRecord h]
    exact addTypes_keys s.messageTypes
  have hrecord : t.toRecord = s.toRecord := by
    rw [toRecord_ofRecord h, canonical_toRecord]
  exact .of_same hid (hpermissions.trans hsame) htypes hrecord

/-- One session was brought back from the record of another, in whatever house. -/
def RestoredFrom (s t : Session) : Prop :=
  ∃ (g : House) (r : SessionRef), (g.restore s.toRecord).2 = .ok r ∧
    (g.restore s.toRecord).1.session r = t

end Session

/-! ### Houses -/

namespace House

variable {h : House}

/-- Whether a session that is made now has an end that can be represented. -/
def canMake (h : House) : Bool := (h.now.add? (Session.lifetime h.services)).isSome

theorem restore_of_isEmpty (h : House) {record : SessionRecord}
    (hid : record.sessionId.isEmpty = true) :
    h.restore record =
      (h, .error (.refused (.invalid "session id 0 is reserved for the Empty session"))) := by
  unfold restore
  rw [if_pos hid]

/-- A record is brought back as the session that is made of it, which comes last. -/
theorem restore_of_canMake (hmake : h.canMake = true) {record : SessionRecord}
    (hid : record.sessionId.isEmpty = false) :
    ∃ s, Session.ofRecord record h.services h.now = .ok s ∧
      (h.restore record).2 = .ok h.sessions.length ∧
      (h.restore record).1.session h.sessions.length = s := by
  obtain ⟨s, hs⟩ := Session.exists_ofRecord record hmake
  have hrestore : h.restore record = ((h.addSession s).1, .ok h.sessions.length) := by
    unfold restore
    rw [hid, hs]
    rfl
  refine ⟨s, hs, ?_, ?_⟩
  · rw [hrestore]
  · rw [hrestore]
    exact session_addSession.trans (if_pos rfl)

end House

namespace Session

variable {s t : Session}

/-- What was brought back from a record was made of it. -/
theorem RestoredFrom.made (h : RestoredFrom s t) :
    s.isEmpty = false ∧ ∃ services now, ofRecord s.toRecord services now = .ok t := by
  obtain ⟨g, r, hok, rfl⟩ := h
  rcases g.restore_cases s.toRecord with ⟨made, hid, hmade, hlast, hsessions⟩ | ⟨⟨e, he⟩, -⟩
  · refine ⟨hid, g.services, g.now, ?_⟩
    have hr : g.sessions.length = r := Except.ok.inj (hlast.symm.trans hok)
    rw [hmade, House.session_of_sessions (h := (g.addSession made).1) hsessions,
      House.session_addSession, if_pos hr.symm]
  · rw [he] at hok
    cases hok

theorem RestoredFrom.alike (hs : s.permissions.readOnly = true) (h : RestoredFrom s t) :
    Alike s t := by
  obtain ⟨-, services, now, hmade⟩ := h.made
  exact alike_of_ofRecord hs hmade

/-- However often a session is brought back, it stays like the one it was at first. -/
theorem alike_of_restored (hs : s.permissions.readOnly = true)
    (h : Relation.ReflTransGen RestoredFrom s t) : Alike s t := by
  induction h with
  | refl => exact .refl s
  | tail _ hlast ih =>
    rw [← ih.permissions] at hs
    exact ih.trans (hlast.alike hs)

end Session

namespace House

/-- **What is brought back from a record has the canonical form of it for its own record, and a record
with the id zero is refused.**  A session of any run that stands for somebody can be brought back
from its record wherever its end can be represented, and what comes back is like it, no matter how
often that is done. -/
theorem restored_in_canonical_form (settings : SessionSettings) (now : Instant)
    (address : AddressSource) (auth : Option AuthModule) (steps : List Step) :
    (∀ (g : House) (record : SessionRecord),
      (record.sessionId = .empty → ∃ cause,
        g.restore record = (g, .error (.refused (.invalid cause)))) ∧
      (record.sessionId ≠ .empty → g.canMake = true → ∃ r, (g.restore record).2 = .ok r ∧
        ((g.restore record).1.session r).toRecord = record.canonical)) ∧
    let h := (fresh settings now address auth).stepAll steps
    ∀ r, r ≠ emptyRef → r < h.sessions.length →
      ∀ t, Relation.ReflTransGen Session.RestoredFrom (h.session r) t →
        (h.session r).Alike t ∧
        ∀ g : House, g.canMake = true → ∃ r' t', (g.restore t.toRecord).2 = .ok r' ∧
          (g.restore t.toRecord).1.session r' = t' ∧ (h.session r).Alike t' := by
  refine ⟨fun g record => ⟨?_, ?_⟩, ?_⟩
  · intro hid
    exact ⟨_, g.restore_of_isEmpty (SessionId.isEmpty_iff.2 hid)⟩
  · intro hid hmake
    have hsome : record.sessionId.isEmpty = false :=
      Bool.eq_false_iff.2 fun hempty => hid (SessionId.isEmpty_iff.1 hempty)
    obtain ⟨s, hs, hok, hsession⟩ := restore_of_canMake hmake hsome
    exact ⟨_, hok, by rw [hsession, Session.toRecord_ofRecord hs]⟩
  · intro h r hr hlt t hrestored
    have hp : Peopled h := (peopled_fresh settings now address auth).stepAll steps
    have halike := Session.alike_of_restored (hp.readOnly r) hrestored
    refine ⟨halike, fun g hmake => ?_⟩
    have hsome : t.toRecord.sessionId.isEmpty = false := by
      show t.id.isEmpty = false
      rw [halike.id]
      exact (hp.somebody r hr hlt).1
    obtain ⟨t', -, hok, hsession⟩ := restore_of_canMake hmake hsome
    exact ⟨_, t', hok, hsession,
      Session.alike_of_restored (hp.readOnly r) (hrestored.tail ⟨g, _, hok, hsession⟩)⟩

/-- A record with codes in several spellings comes back in canonical form, and again later. -/
theorem restored_after_respelling :
    let record : SessionRecord := ⟨⟨7⟩, 2, "bob", "192.0.2.1", some 3,
      ["b", "a.X", "B", "A", "a"], "de", ["z", "a", "z"], "Console"⟩
    let start := fresh .default .epoch (.fixed "") none
    let later := fresh .default .last (.fixed "") (some (.fresh true))
    let h := start.stepAll [.event (.restore record)]
    record.sessionId ≠ .empty ∧ start.canMake = true ∧
      record.canonical = { record with permissions := ["A", "a.X", "b"], messageTypes := ["a", "z"] } ∧
      (∃ cause, start.restore { record with sessionId := .empty } =
        (start, .error (.refused (.invalid cause)))) ∧
      later.canMake = false ∧ (later.setClock .epoch).canMake = true ∧
      ∃ r t, ((later.setClock .epoch).restore (h.session 1).toRecord).2 = .ok r ∧
        ((later.setClock .epoch).restore (h.session 1).toRecord).1.session r = t ∧
        (h.session 1).Alike t := by
  intro record start later h
  have hrecord : record.sessionId ≠ .empty := by decide
  have hstart : start.canMake = true := by decide +kernel
  have hlater : (later.setClock .epoch).canMake = true := by decide +kernel
  obtain ⟨hrestore, hruns⟩ := restored_in_canonical_form .default .epoch (.fixed "") none
    [.event (.restore record)]
  obtain ⟨r, hok, hcanonical⟩ := (hrestore start record).2 hrecord hstart
  have hfirst : (start.restore record).2 = .ok 1 := by decide +kernel
  obtain rfl : 1 = r := Except.ok.inj (hfirst.symm.trans hok)
  have hlisted : ((start.restore record).1.session 1).toRecord =
      { record with permissions := ["A", "a.X", "b"], messageTypes := ["a", "z"] } := by
    decide +kernel
  have hagain := (hruns 1 (by decide) (by decide +kernel) (h.session 1) .refl).2 _ hlater
  exact ⟨hrecord, hstart, hcanonical.symm.trans hlisted, (hrestore start _).1 rfl,
    by decide +kernel, hlater, hagain⟩

end House

end Gatehouse
