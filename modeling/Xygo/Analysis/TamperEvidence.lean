import Xygo.Computation.BackReferences
import Xygo.Computation.Effect
import Xygo.Model.AuditRecord
import Xygo.Analysis.JsonText

/-!
# What `verifyAuditChain` notices

An event's hash determines what the event was built from, up to the order of keys, so no other
arrangement of the events of a chain verifies but a prefix of it. A change of a field is noticed
where it changes what `createAuditEvent` makes of the field: the verifier builds each event again,
with constants and a previous hash of its own, and throws where a required field is gone
(`tampering_detected`).
-/

set_option autoImplicit false

namespace Xygo.Analysis

open Xygo.Computation Xygo.Model

/-! ### The hashed text -/

/-- The hashed fields in the order of `sort`. -/
def sortedFields : List AuditField := [
  .action, .actorId, .actorType, .afterStateRef, .beforeStateRef, .correlationId, .eventId,
  .previousHash, .requestId, .resourceId, .resourceType, .schemaVersion, .staged, .tenantId,
  .timestamp]

/-- INTERNAL: the names of the fields are sorted. -/
theorem sort_hashedFields :
    hashedFields.insertionSort (fun a b => codeUnitLe a.name b.name) = sortedFields := by
  decide +kernel

/-- INTERNAL: the canonical form of the hashed content.
SOURCE: packages/audit/src/foundation.js:9-28, 52-55 -/
theorem canonicalize_recordContent (input : AuditRecord) (draw : AuditDraw) :
    canonicalize (recordContent input draw) =
      .object (sortedFields.map fun field =>
        (field.name, canonicalize (eventValue input draw field))) := by
  have hmembers : canonicalizeMembers (hashedFields.map fun field =>
      (field.name, eventValue input draw field)) =
        hashedFields.map fun field => (field.name, canonicalize (eventValue input draw field)) := by
    rw [canonicalizeMembers_eq_map, List.map_map]
    rfl
  have hsort : sortMembers codeUnitLe (hashedFields.map fun field =>
      (field.name, canonicalize (eventValue input draw field))) =
        sortedFields.map fun field =>
          (field.name, canonicalize (eventValue input draw field)) := by
    rw [← sort_hashedFields,
      List.map_insertionSort (s := fun a b => codeUnitLe a.1 b.1) _ _ _ (by simp)]
    rfl
  show Json.object (assignMembers (sortMembers codeUnitLe (canonicalizeMembers
    (hashedFields.map fun field => (field.name, eventValue input draw field))))) = _
  rw [hmembers, hsort, assignMembers_of_plain]
  have hplain : ∀ field ∈ sortedFields,
      field.name ≠ "__proto__" ∧ isArrayIndex field.name = false := by
    decide +kernel
  intro member hmem
  obtain ⟨field, hfield, rfl⟩ := List.mem_map.mp hmem
  exact hplain field hfield

/-- INTERNAL: the members of an object are written one by one. -/
theorem membersWritten_iff (members : List (String × Json)) :
    membersWritten members = true ↔ ∀ member ∈ members, written member.2 = true := by
  induction members with
  | nil => simp [membersWritten]
  | cons member members ih => simp [membersWritten, ih]

/-- INTERNAL: the members a sorted object has. -/
theorem mem_assignMembers {members : List (String × Json)} {member : String × Json}
    (h : member ∈ assignMembers (sortMembers codeUnitLe members)) : member ∈ members := by
  unfold assignMembers sortMembers at h
  rcases List.mem_append.mp h with h | h
  · have hown := (List.mem_filter.mp ((List.mem_insertionSort _).mp h)).1
    exact (List.mem_insertionSort _).mp (List.mem_filter.mp hown).1
  · exact (List.mem_insertionSort _).mp (List.mem_filter.mp (List.mem_filter.mp h).1).1

mutual

/-- INTERNAL: the canonical form of a value keeps its numbers. -/
theorem written_canonicalize (a : Json) (h : written a = true) :
    written (canonicalize a) = true := by
  cases a with
  | array items => exact written_items items h
  | object members =>
    refine (membersWritten_iff _).mpr fun member hmember => ?_
    exact (membersWritten_iff _).mp (written_members members h) member (mem_assignMembers hmember)
  | null => rfl
  | bool _ => rfl
  | number _ => exact h
  | string _ => rfl

theorem written_items (items : List Json) (h : itemsWritten items = true) :
    itemsWritten (canonicalizeItems items) = true := by
  cases items with
  | nil => rfl
  | cons item items =>
    rw [itemsWritten, Bool.and_eq_true] at h
    rw [canonicalizeItems, itemsWritten, written_canonicalize item h.1, written_items items h.2]
    rfl

theorem written_members (members : List (String × Json)) (h : membersWritten members = true) :
    membersWritten (canonicalizeMembers members) = true := by
  match members with
  | [] => rfl
  | (key, value) :: members =>
    rw [membersWritten, Bool.and_eq_true] at h
    rw [canonicalizeMembers, membersWritten, written_canonicalize value h.1,
      written_members members h.2]
    rfl

end

/-- An event whose values are JSON values. -/
def WrittenRecord (r : AuditRecord) : Prop :=
  ∀ field value, r field = some value → written value

/-- INTERNAL: what an event is built from is written. -/
theorem written_eventValue {r : AuditRecord} (h : WrittenRecord r) (draw : AuditDraw)
    (field : AuditField) : written (eventValue r draw field) = true := by
  have hnullish : ∀ own fallback, written fallback = true →
      written (nullish (r own) fallback) = true := by
    intro own fallback hfallback
    unfold nullish
    split
    · exact hfallback
    · exact hfallback
    · exact h own _ (by assumption)
  have hgetD : ∀ own, written ((r own).getD .null) = true := by
    intro own
    rcases hown : r own with _ | value
    · rfl
    · exact h own value hown
  cases field <;> first
    | exact hnullish _ _ rfl
    | exact hgetD _
    | rfl

/-- INTERNAL: the order of the hashed fields does not matter. -/
theorem mem_sortedFields (field : AuditField) : field ∈ sortedFields ↔ field ∈ hashedFields := by
  cases field <;> decide

/-- INTERNAL: contents are hashed up to the order of the keys of their values. -/
theorem serialize_congr {a b : AuditRecord} {draw draw' : AuditDraw}
    (h : ∀ field ∈ hashedFields,
      canonicalize (eventValue a draw field) = canonicalize (eventValue b draw' field)) :
    stableSerialize (recordContent a draw) = stableSerialize (recordContent b draw') := by
  unfold stableSerialize
  rw [canonicalize_recordContent, canonicalize_recordContent]
  refine congrArg (fun members => stringify (.object members)) ?_
  refine List.map_congr_left fun field hfield => ?_
  rw [h field ((mem_sortedFields field).mp hfield)]

/-- INTERNAL: **the hashed text determines every hashed value**, up to the order of its keys. -/
theorem serialize_eq_iff {a b : AuditRecord} (ha : WrittenRecord a) (hb : WrittenRecord b)
    (draw draw' : AuditDraw) :
    stableSerialize (recordContent a draw) = stableSerialize (recordContent b draw') ↔
      ∀ field ∈ hashedFields,
        canonicalize (eventValue a draw field) = canonicalize (eventValue b draw' field) := by
  have hwritten : ∀ (r : AuditRecord) (d : AuditDraw), WrittenRecord r →
      written (canonicalize (recordContent r d)) = true := by
    intro r d hr
    rw [canonicalize_recordContent]
    refine (membersWritten_iff _).mpr fun member hmember => ?_
    obtain ⟨field, -, rfl⟩ := List.mem_map.mp hmember
    exact written_canonicalize _ (written_eventValue hr d field)
  refine ⟨?_, serialize_congr⟩
  intro h field hfield
  have htext := String.ofList_injective h
  obtain ⟨hcontent, -⟩ := text_injective _ _ [] [] (hwritten a draw ha) (hwritten b draw' hb)
    (fun c hc => by cases hc) (fun c hc => by cases hc) (by rw [htext])
  rw [canonicalize_recordContent, canonicalize_recordContent] at hcontent
  have hmembers :=
    List.map_inj_left.mp (Json.object.inj hcontent) field ((mem_sortedFields field).mpr hfield)
  exact (Prod.mk.inj hmembers).2

/-! ### Events that were built -/

section

variable (P : Platform) (signingKey : Option String)

/-- An event that `createAuditEvent` built of JSON values. -/
def Built (event : AuditRecord) : Prop :=
  ∃ input key draw, WrittenRecord input ∧ createAuditRecord P input key draw = .ok event

/-- An event passes the checks after a hash, whatever is drawn.
SOURCE: packages/audit/src/foundation.js:78-104 -/
def Passes (previous : Option String) (event : AuditRecord) : Prop :=
  ∀ draw, ∃ recalculated,
    createAuditRecord P (Function.update event .previousHash (some (.ofOption previous)))
      signingKey draw = .ok recalculated ∧ recordMismatch signingKey event recalculated = none

/-- The hash an event carries. -/
def markOf (event : AuditRecord) : String :=
  match event .eventHash with
  | some (.string hash) => hash
  | _ => ""

/-- What a chain of built events has after a hash. -/
def FitsAfter (previous : Option String) (event : AuditRecord) : Prop :=
  Built P event ∧ Passes P signingKey previous event

end

section

variable {P : Platform} {signingKey : Option String} {event : AuditRecord}

/-- INTERNAL: a default is no `null`, and stands where it was filled in. -/
theorem nullish_nullish {value : Option Json} {fallback fallback' : Json}
    (h : fallback = .null → fallback' = .null) :
    nullish (some (nullish value fallback)) fallback' = nullish value fallback := by
  have hown : ∀ own : Json, (own = .null → fallback' = .null) →
      nullish (some own) fallback' = own := by
    intro own hnull
    cases own with
    | null => exact hnull rfl
    | _ => rfl
  apply hown
  intro hnull
  apply h
  unfold nullish at hnull
  split at hnull
  · exact hnull
  · exact hnull
  · rename_i own hne
    exact absurd hnull hne

/-- INTERNAL: an event holds what it was built from, and its hash.
SOURCE: packages/audit/src/foundation.js:35-61 -/
theorem built_fields (h : Built P event) :
    (∀ draw, ∀ field ∈ hashedFields, event field = some (eventValue event draw field)) ∧
      (∀ field ∈ requiredFields, (event field).any Json.truthy = true) ∧
      WrittenRecord event ∧
      ∀ draw, event .eventHash = some (.string (recordHash P event draw)) := by
  obtain ⟨input, key, draw, hwritten, hcreate⟩ := h
  unfold createAuditRecord at hcreate
  split at hcreate
  · rename_i hrequired
    rw [List.all_eq_true] at hrequired
    have hevent := (Except.ok.inj hcreate).symm
    have hown : ∀ field ∈ hashedFields, event field = some (eventValue input draw field) := by
      intro field hfield
      rw [hevent]
      cases field <;> first | rfl | exact absurd hfield (by decide)
    have hsame : ∀ draw' field, eventValue event draw' field = eventValue input draw field := by
      intro draw' field
      rw [hevent]
      cases field <;> first
        | rfl
        | exact nullish_nullish fun _ => rfl
        | exact nullish_nullish fun hnull => by cases hnull
    refine ⟨fun draw' field hfield => ?_, fun field hfield => ?_, ?_, fun draw' => ?_⟩
    · rw [hsame]
      exact hown field hfield
    · have htruthy := hrequired field hfield
      obtain ⟨value, hvalue⟩ : ∃ value, input field = some value := by
        rcases hvalue : input field with _ | value
        · rw [hvalue] at htruthy
          cases htruthy
        · exact ⟨value, rfl⟩
      rw [hvalue] at htruthy
      have hfilled : eventValue input draw field = value := by
        simp only [requiredFields, List.mem_cons, List.not_mem_nil, or_false] at hfield
        obtain rfl | rfl | rfl | rfl := hfield <;> simp [eventValue, hvalue]
      rw [hown field (by revert hfield; cases field <;> decide), hfilled]
      exact htruthy
    · intro field value hfield
      rw [hevent] at hfield
      cases field with
      | eventHash => cases hfield; rfl
      | signature =>
        obtain ⟨key, -, rfl⟩ := Option.map_eq_some_iff.mp hfield
        rfl
      | _ => cases hfield; exact written_eventValue hwritten draw _
    · have hcontent : recordContent event draw' = recordContent input draw := by
        unfold recordContent
        simp only [hsame]
      unfold recordHash
      rw [hcontent, hevent]
      rfl
  · cases hcreate

/-- INTERNAL: the value of a field depends on that field only. -/
theorem eventValue_congr {a b : AuditRecord} {field : AuditField} (h : a field = b field)
    (draw : AuditDraw) : eventValue a draw field = eventValue b draw field := by
  cases field <;> simp only [eventValue, h]

/-- INTERNAL: an object with all that is required makes an event.
SOURCE: packages/audit/src/foundation.js:31-70 -/
theorem create_complete {input : AuditRecord}
    (h : ∀ field ∈ requiredFields, (input field).any Json.truthy = true)
    (key : Option String) (draw : AuditDraw) :
    ∃ r, createAuditRecord P input key draw = .ok r ∧
      r .eventHash = some (.string (recordHash P input draw)) ∧
      r .signature = (usableKey key).map fun own =>
        .string (P.hmacSha256 own (recordHash P input draw)) :=
  ⟨_, if_pos (List.all_eq_true.mpr h), rfl, rfl⟩

/-- INTERNAL: an object without something that is required makes none.
SOURCE: packages/audit/src/foundation.js:31-33 -/
theorem create_incomplete {input : AuditRecord} {field : AuditField}
    (hfield : field ∈ requiredFields) (h : (input field).any Json.truthy = false)
    (key : Option String) (draw : AuditDraw) :
    createAuditRecord P input key draw = .error incompleteAuditEvent := by
  apply if_neg
  intro hall
  cases h.symm.trans (List.all_eq_true.mp hall field hfield)

/-- INTERNAL: a text is only the same as itself. -/
theorem strictEqual_text {text : String} {value : Option Json} :
    strictEqual (some (.string text)) value = true ↔ value = some (.string text) := by
  rcases value with _ | value
  · simp [strictEqual]
  · cases value <;> simp [strictEqual, eq_comm]

/-- INTERNAL: an event whose hash is another one does not pass.
SOURCE: packages/audit/src/foundation.js:89-95 -/
theorem mismatch_of_hash {r : AuditRecord} {hash : String}
    (hr : r .eventHash = some (.string hash)) (h : event .eventHash ≠ some (.string hash)) :
    recordMismatch signingKey event r = some .hashMismatch := by
  unfold recordMismatch
  rw [hr]
  exact if_pos (by
    rw [Bool.not_eq_true', ← Bool.not_eq_true, strictEqual_text]
    exact h)

/-- INTERNAL: an event that passes carries the hash that was recomputed.
SOURCE: packages/audit/src/foundation.js:89-95 -/
theorem hash_of_passed {r : AuditRecord} {hash : String}
    (hr : r .eventHash = some (.string hash)) (h : recordMismatch signingKey event r = none) :
    event .eventHash = some (.string hash) := by
  by_contra hne
  cases (mismatch_of_hash hr hne).symm.trans h

/-- INTERNAL: the checks read the two hashes and signatures.
SOURCE: packages/audit/src/foundation.js:89-104 -/
theorem mismatch_congr {event' r r' : AuditRecord} (hr : r' .eventHash = r .eventHash)
    (hsigned : r' .signature = r .signature) (hhash : event' .eventHash = event .eventHash)
    (hsignature : event' .signature = event .signature) :
    recordMismatch signingKey event' r' = recordMismatch signingKey event r := by
  unfold recordMismatch
  rw [hr, hsigned, hhash, hsignature]

/-- INTERNAL: objects with the same values under the hashed fields make the same event. -/
theorem recordHash_congr {a b : AuditRecord} {draw draw' : AuditDraw}
    (h : ∀ field ∈ hashedFields, eventValue a draw field = eventValue b draw' field) :
    recordHash P a draw = recordHash P b draw' := by
  have hcontent : recordContent a draw = recordContent b draw' := by
    unfold recordContent
    refine congrArg Json.object (List.map_congr_left fun field hfield => ?_)
    rw [h field hfield]
  unfold recordHash
  rw [hcontent]

/-- The event as the verifier builds it again, after a hash. -/
def afterHash (event : AuditRecord) (previous : Option String) : AuditRecord :=
  Function.update event .previousHash (some (.ofOption previous))

/-- INTERNAL: the verifier's own previous hash is no required field. -/
theorem afterHash_required {previous : Option String} {field : AuditField}
    (hfield : field ∈ requiredFields) : afterHash event previous field = event field := by
  apply Function.update_of_ne
  rintro rfl
  exact absurd hfield (by decide)

theorem afterHash_written {previous : Option String} (h : WrittenRecord event) :
    WrittenRecord (afterHash event previous) := by
  intro field value hvalue
  by_cases hfield : field = .previousHash
  · subst hfield
    have hset : afterHash event previous .previousHash = some (.ofOption previous) :=
      Function.update_self ..
    obtain rfl := Option.some.inj (hset.symm.trans hvalue)
    cases previous <;> rfl
  · exact h field value ((Function.update_of_ne hfield ..).symm.trans hvalue)

/-- INTERNAL: what is drawn does not matter for an event that was built. -/
theorem hash_of_built (h : Built P event) (previous : Option String) (draw draw' : AuditDraw) :
    recordHash P (afterHash event previous) draw =
      recordHash P (afterHash event previous) draw' := by
  apply recordHash_congr
  intro field hfield
  by_cases hprevious : field = .previousHash
  · subst hprevious
    rfl
  · have hown : afterHash event previous field = event field :=
      Function.update_of_ne hprevious ..
    rw [eventValue_congr hown, eventValue_congr hown]
    obtain ⟨hvalues, -⟩ := built_fields h
    exact Option.some.inj ((hvalues draw field hfield).symm.trans (hvalues draw' field hfield))

/-- INTERNAL: an event that was built is built again, after any hash. -/
theorem create_of_built (h : Built P event) (key previous : Option String) (draw : AuditDraw) :
    ∃ r, createAuditRecord P (afterHash event previous) key draw = .ok r ∧
      r .eventHash = some (.string (recordHash P (afterHash event previous) draw)) ∧
      r .signature = (usableKey key).map fun own =>
        .string (P.hmacSha256 own (recordHash P (afterHash event previous) draw)) := by
  obtain ⟨-, hrequired, -⟩ := built_fields h
  apply create_complete
  intro field hfield
  rw [afterHash_required hfield]
  exact hrequired field hfield

/-- INTERNAL: an event that passes once passes whatever is drawn. -/
theorem passes_of_once (h : Built P event) {previous : Option String} {draw : AuditDraw}
    {r : AuditRecord} (hr : createAuditRecord P (afterHash event previous) signingKey draw = .ok r)
    (hpassed : recordMismatch signingKey event r = none) :
    Passes P signingKey previous event := by
  intro draw'
  obtain ⟨r₁, hcreate₁, hhash₁, hsignature₁⟩ := create_of_built h signingKey previous draw
  obtain ⟨r₂, hcreate₂, hhash₂, hsignature₂⟩ := create_of_built h signingKey previous draw'
  obtain rfl := Except.ok.inj (hcreate₁.symm.trans hr)
  have hsame := hash_of_built h previous draw draw'
  refine ⟨r₂, hcreate₂, ?_⟩
  rw [← hpassed]
  apply mismatch_congr
  · rw [hhash₁, hhash₂, hsame]
  · rw [hsignature₁, hsignature₂, hsame]
  · rfl
  · rfl

/-- INTERNAL: an event that was built passes after the hash it names only. -/
theorem previous_of_passes (hhash : Function.Injective P.sha256) (h : Built P event)
    {previous : Option String} (hpasses : Passes P signingKey previous event) (draw : AuditDraw) :
    canonicalize (eventValue event draw .previousHash) = .ofOption previous ∧
      event .eventHash = some (.string (recordHash P (afterHash event previous) draw)) := by
  obtain ⟨r, hcreate, hpassed⟩ := hpasses draw
  obtain ⟨r', hcreate', hrecomputed, -⟩ := create_of_built h signingKey previous draw
  obtain rfl := Except.ok.inj (hcreate'.symm.trans hcreate)
  have hcarried := hash_of_passed hrecomputed hpassed
  obtain ⟨-, -, hwritten, hown⟩ := built_fields h
  have hsame : recordHash P event draw = recordHash P (afterHash event previous) draw :=
    Json.string.inj (Option.some.inj ((hown draw).symm.trans hcarried))
  have hvalue := (serialize_eq_iff hwritten (afterHash_written hwritten) draw draw).mp (hhash hsame)
    .previousHash (by decide)
  refine ⟨hvalue.trans ?_, hcarried⟩
  cases previous <;> rfl

/-- INTERNAL: the hash of an event determines the hash it fits after. -/
theorem fitsAfter_determines (hhash : Function.Injective P.sha256) :
    Determines (FitsAfter P signingKey) markOf := by
  intro p q a b ⟨hbuilt, hpasses⟩ ⟨hbuilt', hpasses'⟩ hmark
  have hdraw : AuditDraw := ⟨"", "", "", ""⟩
  obtain ⟨hp, -⟩ := previous_of_passes hhash hbuilt hpasses hdraw
  obtain ⟨hq, -⟩ := previous_of_passes hhash hbuilt' hpasses' hdraw
  obtain ⟨-, -, hwritten, hown⟩ := built_fields hbuilt
  obtain ⟨-, -, hwritten', hown'⟩ := built_fields hbuilt'
  simp only [markOf, hown hdraw, hown' hdraw] at hmark
  have hvalue := (serialize_eq_iff hwritten hwritten' hdraw hdraw).mp (hhash hmark) .previousHash
    (by decide)
  have hofOption : Json.ofOption p = Json.ofOption q := hp.symm.trans (hvalue.trans hq)
  cases p <;> cases q <;> cases hofOption <;> rfl

end

/-! ### Chains -/

section

variable {P : Platform} {signingKey : Option String}

/-- INTERNAL: the verifier on an event that is built again.
SOURCE: packages/audit/src/foundation.js:78-107 -/
theorem verify_cons {event r : AuditRecord} {previous : Option String} {draws : ℕ → AuditDraw}
    (hcreate : createAuditRecord P (afterHash event previous) signingKey (draws 0) = .ok r)
    (events : List AuditRecord) :
    verifyRecords P signingKey draws (some (.ofOption previous)) (event :: events) =
      match recordMismatch signingKey event r with
      | some reason => .ok (.invalid reason (event .eventId))
      | none => verifyRecords P signingKey (fun n => draws (n + 1)) (event .eventHash) events := by
  unfold afterHash at hcreate
  rw [verifyRecords, hcreate]
  rfl

/-- INTERNAL: the hash of an event is a text. -/
theorem eventHash_of_built {event : AuditRecord} (h : Built P event) :
    event .eventHash = some (.ofOption (some (markOf event))) := by
  obtain ⟨-, -, -, hown⟩ := built_fields h
  simp only [markOf, hown ⟨"", "", "", ""⟩]
  rfl

/-- INTERNAL: the verifier goes on after events that pass.
SOURCE: packages/audit/src/foundation.js:75-112 -/
theorem verify_passed {previous : Option String} {pre : List AuditRecord}
    (h : Linked (FitsAfter P signingKey) markOf previous pre) (draws : ℕ → AuditDraw)
    (post : List AuditRecord) :
    verifyRecords P signingKey draws (some (.ofOption previous)) (pre ++ post) =
      verifyRecords P signingKey (fun n => draws (n + pre.length))
        (some (.ofOption (lastMark markOf previous pre))) post := by
  induction pre generalizing previous draws with
  | nil => rfl
  | cons event pre ih =>
    obtain ⟨⟨hbuilt, hpasses⟩, hrest⟩ := h
    obtain ⟨r, hcreate, hpassed⟩ := hpasses (draws 0)
    rw [List.cons_append, verify_cons hcreate, hpassed]
    dsimp only
    rw [eventHash_of_built hbuilt, lastMark_cons, ih hrest]
    rfl

/-- INTERNAL: a chain that is linked verifies. -/
theorem valid_of_linked {previous : Option String} {events : List AuditRecord}
    (h : Linked (FitsAfter P signingKey) markOf previous events) (draws : ℕ → AuditDraw) :
    verifyRecords P signingKey draws (some (.ofOption previous)) events = .ok .valid := by
  have hpassed := verify_passed h draws []
  rw [List.append_nil, verifyRecords] at hpassed
  exact hpassed

/-- INTERNAL: a chain that verifies is linked. -/
theorem linked_of_valid {previous : Option String} {events : List AuditRecord}
    (hbuilt : ∀ event ∈ events, Built P event) {draws : ℕ → AuditDraw}
    (h : verifyRecords P signingKey draws (some (.ofOption previous)) events = .ok .valid) :
    Linked (FitsAfter P signingKey) markOf previous events := by
  induction events generalizing previous draws with
  | nil => trivial
  | cons event events ih =>
    have hown := hbuilt event List.mem_cons_self
    obtain ⟨r, hcreate, -⟩ := create_of_built hown signingKey previous (draws 0)
    rw [verify_cons hcreate] at h
    rcases hmismatch : recordMismatch signingKey event r with _ | reason
    · have hpasses := passes_of_once hown hcreate hmismatch
      rw [hmismatch] at h
      dsimp only at h
      rw [eventHash_of_built hown] at h
      exact ⟨⟨hown, hpasses⟩, ih (fun e he => hbuilt e (List.mem_cons_of_mem _ he)) h⟩
    · rw [hmismatch] at h
      cases h

/-- INTERNAL: the verifier answers for every list of events that were built. -/
theorem verify_answers {events : List AuditRecord} (hbuilt : ∀ event ∈ events, Built P event)
    (draws : ℕ → AuditDraw) (previous : Option String) :
    ∃ verdict, verifyRecords P signingKey draws (some (.ofOption previous)) events =
      .ok verdict := by
  induction events generalizing previous draws with
  | nil => exact ⟨_, rfl⟩
  | cons event events ih =>
    have hown := hbuilt event List.mem_cons_self
    obtain ⟨r, hcreate, -⟩ := create_of_built hown signingKey previous (draws 0)
    rw [verify_cons hcreate, eventHash_of_built hown]
    split
    · exact ⟨_, rfl⟩
    · exact ih (fun e he => hbuilt e (List.mem_cons_of_mem _ he)) _ (some _)

end

/-! ### Changes of a stored chain -/

/-- A change of a stored chain. -/
inductive Tampering
  | change (i : ℕ) (field : AuditField) (value : Option Json)
  | remove (i : ℕ)
  | reorder (events : List AuditRecord)

/-- What is stored after the change. -/
def Tampering.apply (events : List AuditRecord) : Tampering → List AuditRecord
  | .change i field value => events.modify i fun event => Function.update event field value
  | .remove i => events.eraseIdx i
  | .reorder others => others

/-- The changes of one field of one event to another JSON value or to none, the removals of an
event that is not the last one, and the reorderings. -/
def Tampering.Of (events : List AuditRecord) : Tampering → Prop
  | .change i field value => field ≠ .signature ∧ (∀ own, value = some own → written own) ∧
      ∃ event, events[i]? = some event ∧ event field ≠ value
  | .remove i => i + 1 < events.length
  | .reorder others => others.Perm events ∧ others ≠ events

/-- A new value of a field that the verifier can see: it is not replaced by a constant or by the
verifier's own previous hash, is there where one is required, and is, with the constructor's
default in place of `null`, not the old value in another order of its keys. -/
def Evident (draw : AuditDraw) (event : AuditRecord) (field : AuditField) (value : Option Json) :
    Prop :=
  field = .eventHash ∨
    field ∉ [AuditField.previousHash, .schemaVersion, .staged] ∧
      (field ∈ requiredFields → value.any Json.truthy = true) ∧
      canonicalize (eventValue (Function.update event field value) draw field) ≠
        canonicalize (eventValue event draw field)

/-- A change that the verifier can see. -/
def Tampering.Evident (draws : ℕ → AuditDraw) (events : List AuditRecord) : Tampering → Prop
  | .change i field value =>
    ∃ event, events[i]? = some event ∧ Analysis.Evident (draws i) event field value
  | .remove _ | .reorder _ => True

section

variable (P : Platform) (signingKey : Option String)

/-- The verifier answers that the chain is not valid. -/
def Detected (draws : ℕ → AuditDraw) (events : List AuditRecord) : Prop :=
  ∃ reason eventId, verifyAuditRecords P signingKey draws events = .ok (.invalid reason eventId)

end

section

variable {P : Platform} {signingKey : Option String} {event : AuditRecord}

/-- INTERNAL: a change that is evident makes the event fail the checks.
SOURCE: packages/audit/src/foundation.js:78-95 -/
theorem mismatch_of_evident (hhash : Function.Injective P.sha256) {previous : Option String}
    (hbuilt : Built P event) (hpasses : Passes P signingKey previous event) {draw : AuditDraw}
    {field : AuditField} {value : Option Json} (hsigned : field ≠ .signature)
    (hvalue : ∀ own, value = some own → written own) (hne : event field ≠ value)
    (h : Evident draw event field value) :
    ∃ r, createAuditRecord P (afterHash (Function.update event field value) previous) signingKey
        draw = .ok r ∧
      recordMismatch signingKey (Function.update event field value) r = some .hashMismatch := by
  obtain ⟨-, hrequired, hwritten, -⟩ := built_fields hbuilt
  obtain ⟨-, hcarried⟩ := previous_of_passes hhash hbuilt hpasses draw
  have hother : ∀ own, own ≠ field → Function.update event field value own = event own :=
    fun own hown => Function.update_of_ne hown ..
  have hset : Function.update event field value field = value := Function.update_self ..
  have hcomplete : ∀ own ∈ requiredFields,
      (afterHash (Function.update event field value) previous own).any Json.truthy = true := by
    intro own hown
    rw [afterHash_required hown]
    by_cases hsame : own = field
    · subst hsame
      rw [hset]
      obtain rfl | ⟨-, htruthy, -⟩ := h
      · exact absurd hown (by decide)
      · exact htruthy hown
    · rw [hother own hsame]
      exact hrequired own hown
  obtain ⟨r, hcreate, hrecomputed, -⟩ := create_complete hcomplete signingKey draw
  refine ⟨r, hcreate, mismatch_of_hash hrecomputed ?_⟩
  obtain rfl | ⟨hseen, -, hcanonical⟩ := h
  · -- The hash that is recomputed does not depend on the stored one.
    rw [hset]
    have hsame : recordHash P (afterHash (Function.update event .eventHash value) previous) draw =
        recordHash P (afterHash event previous) draw := by
      apply recordHash_congr
      intro own hown
      apply eventValue_congr
      unfold afterHash
      rw [Function.update_comm (by decide)]
      apply Function.update_of_ne
      rintro rfl
      exact absurd hown (by decide)
    rw [hsame, ← hcarried]
    exact hne.symm
  · intro hstored
    have hfield : field ≠ .eventHash := by
      rintro rfl
      exact hcanonical rfl
    rw [hother _ hfield.symm, hcarried] at hstored
    have hchanged : WrittenRecord (Function.update event field value) := by
      intro own other hown
      by_cases hsame : own = field
      · subst hsame
        exact hvalue other (hset.symm.trans hown)
      · exact hwritten own other ((hother own hsame).symm.trans hown)
    have hhashed : field ∈ hashedFields := by
      revert hfield hsigned
      cases field <;> decide
    have hprevious : field ≠ .previousHash := by
      rintro rfl
      exact hseen (by decide)
    have hequal := (serialize_eq_iff (afterHash_written hwritten) (afterHash_written hchanged)
      draw draw).mp (hhash (Json.string.inj (Option.some.inj hstored))) field hhashed
    have hafter : ∀ e : AuditRecord, eventValue (afterHash e previous) draw field =
        eventValue e draw field :=
      fun e => eventValue_congr (Function.update_of_ne hprevious ..) draw
    rw [hafter, hafter] at hequal
    exact hcanonical hequal.symm

/-- INTERNAL: a change that is not evident makes the verifier throw, or passes.
SOURCE: packages/audit/src/foundation.js:31-33, 78-104 -/
theorem unseen_of_not_evident {previous : Option String} (hbuilt : Built P event)
    (hpasses : Passes P signingKey previous event) {draw : AuditDraw} {field : AuditField}
    {value : Option Json} (hsigned : field ≠ .signature) (h : ¬ Evident draw event field value) :
    createAuditRecord P (afterHash (Function.update event field value) previous) signingKey
        draw = .error incompleteAuditEvent ∨
      Function.update event field value .eventHash = event .eventHash ∧
        ∃ r, createAuditRecord P (afterHash (Function.update event field value) previous)
            signingKey draw = .ok r ∧
          recordMismatch signingKey (Function.update event field value) r = none := by
  obtain ⟨-, hrequired, -⟩ := built_fields hbuilt
  obtain ⟨hfield, hunseen⟩ := not_or.mp h
  have hother : ∀ own, own ≠ field → Function.update event field value own = event own :=
    fun own hown => Function.update_of_ne hown ..
  have hset : Function.update event field value field = value := Function.update_self ..
  by_cases hlost : field ∈ requiredFields ∧ value.any Json.truthy = false
  · left
    apply create_incomplete hlost.1
    rw [afterHash_required hlost.1, hset]
    exact hlost.2
  · right
    have hkept : field ∈ requiredFields → value.any Json.truthy = true := by
      intro hreq
      rw [← Bool.not_eq_false]
      exact fun hfalse => hlost ⟨hreq, hfalse⟩
    have hcomplete : ∀ own ∈ requiredFields,
        (afterHash (Function.update event field value) previous own).any Json.truthy = true := by
      intro own hown
      rw [afterHash_required hown]
      by_cases hsame : own = field
      · subst hsame
        rw [hset]
        exact hkept hown
      · rw [hother own hsame]
        exact hrequired own hown
    -- Every hashed field of the two is the same, up to the order of keys.
    have hcanonical : ∀ own ∈ hashedFields,
        canonicalize
            (eventValue (afterHash (Function.update event field value) previous) draw own) =
          canonicalize (eventValue (afterHash event previous) draw own) := by
      intro own hown
      by_cases hprevious : own = .previousHash
      · subst hprevious
        rfl
      · have hafter : ∀ e : AuditRecord, eventValue (afterHash e previous) draw own =
            eventValue e draw own :=
          fun e => eventValue_congr (Function.update_of_ne hprevious ..) draw
        rw [hafter, hafter]
        by_cases hsame : own = field
        · subst hsame
          by_cases hconstant : own ∈ [AuditField.previousHash, .schemaVersion, .staged]
          · simp only [List.mem_cons, List.not_mem_nil, or_false] at hconstant
            obtain rfl | rfl | rfl := hconstant
            · exact absurd rfl hprevious
            · rfl
            · rfl
          · by_contra hne
            exact hunseen ⟨hconstant, hkept, hne⟩
        · rw [eventValue_congr (hother own hsame)]
    have hhash : recordHash P (afterHash (Function.update event field value) previous) draw =
        recordHash P (afterHash event previous) draw :=
      congrArg P.sha256 (serialize_congr hcanonical)
    obtain ⟨r, hcreate, hrecomputed, hresigned⟩ := create_complete hcomplete signingKey draw
    obtain ⟨r', hcreate', hrecomputed', hresigned'⟩ :=
      create_of_built hbuilt signingKey previous draw
    obtain ⟨r'', hcreate'', hpassed⟩ := hpasses draw
    obtain rfl := Except.ok.inj (hcreate'.symm.trans hcreate'')
    refine ⟨hother _ (Ne.symm hfield), r, hcreate, ?_⟩
    rw [← hpassed]
    apply mismatch_congr
    · rw [hrecomputed, hrecomputed', hhash]
    · rw [hresigned, hresigned', hhash]
    · exact hother _ (Ne.symm hfield)
    · exact hother _ (Ne.symm hsigned)

/-- INTERNAL: a list of built events that is not linked is answered with its first fault. -/
theorem detected_of_not_linked {events : List AuditRecord}
    (hbuilt : ∀ event ∈ events, Built P event) (draws : ℕ → AuditDraw)
    (h : ¬ Linked (FitsAfter P signingKey) markOf none events) :
    Detected P signingKey draws events := by
  obtain ⟨verdict, hverdict⟩ := verify_answers hbuilt draws none
  cases verdict with
  | valid => exact absurd (linked_of_valid hbuilt hverdict) h
  | invalid reason eventId => exact ⟨reason, eventId, hverdict⟩

/-- INTERNAL: a change of a field is answered with a fault iff it is evident. -/
theorem detected_change_iff (hhash : Function.Injective P.sha256) {pre post : List AuditRecord}
    (hlinked : Linked (FitsAfter P signingKey) markOf none (pre ++ event :: post))
    {field : AuditField} {value : Option Json} (hsigned : field ≠ .signature)
    (hvalue : ∀ own, value = some own → written own) (hne : event field ≠ value)
    (draws : ℕ → AuditDraw) :
    Detected P signingKey draws (pre ++ Function.update event field value :: post) ↔
      Evident (draws pre.length) event field value := by
  obtain ⟨hpre, ⟨hbuilt, hpasses⟩, hpost⟩ := (linked_append ..).mp hlinked
  have hstart : ∀ rest, verifyAuditRecords P signingKey draws (pre ++ rest) =
      verifyRecords P signingKey (fun n => draws (n + pre.length))
        (some (.ofOption (lastMark markOf none pre))) rest :=
    fun rest => verify_passed hpre draws rest
  unfold Detected
  rw [hstart]
  generalize hshift : (fun n => draws (n + pre.length)) = shifted
  have hdraw : shifted 0 = draws pre.length := by
    rw [← hshift]
    exact congrArg draws (Nat.zero_add _)
  constructor
  · rintro ⟨reason, eventId, hverdict⟩
    by_contra hunseen
    rw [← hdraw] at hunseen
    obtain hthrows | ⟨hhashes, r, hcreate, hpassed⟩ :=
      unseen_of_not_evident hbuilt hpasses hsigned hunseen
    · unfold afterHash at hthrows
      rw [verifyRecords, hthrows] at hverdict
      cases hverdict
    · -- The rest of the chain passes as before.
      rw [verify_cons hcreate, hpassed] at hverdict
      dsimp only at hverdict
      rw [hhashes, eventHash_of_built hbuilt] at hverdict
      rw [valid_of_linked hpost] at hverdict
      exact nomatch (Except.ok.inj hverdict)
  · intro hevident
    rw [← hdraw] at hevident
    obtain ⟨r, hcreate, hmismatch⟩ :=
      mismatch_of_evident hhash hbuilt hpasses hsigned hvalue hne hevident
    rw [verify_cons hcreate, hmismatch]
    exact ⟨_, _, rfl⟩

end

/-- What a project's creation is audited with. -/
def creation : AuditInput where
  tenantId := "tenant-a"
  action := "api.project.created"
  resourceType := "project"
  resourceId := "project-1"

/-- What is drawn for the event. -/
def creationDraw : AuditDraw :=
  ⟨"event-1", "correlation-project-1", "request-project-1", "2026-01-01T00:00:00.000Z"⟩

/-- The text the event is hashed over. -/
def creationText : String :=
  "\x7b\"action\":\"api.project.created\",\"actorId\":\"unknown\",\"actorType\":\"system\"," ++
  "\"afterStateRef\":null,\"beforeStateRef\":null,\"correlationId\":\"correlation-project-1\"," ++
  "\"eventId\":\"event-1\",\"previousHash\":null,\"requestId\":\"request-project-1\"," ++
  "\"resourceId\":\"project-1\",\"resourceType\":\"project\",\"schemaVersion\":1," ++
  "\"staged\":true,\"tenantId\":\"tenant-a\",\"timestamp\":\"2026-01-01T00:00:00.000Z\"\x7d"

/-- Its digest. -/
def creationDigest : String := "103dfcd184cf920f6b7cd59abe6519e4da4a08553c4096eb0b181fd31d2b4de8"

/-- An injective digest that is SHA-256 on that text. -/
def creationPlatform : Platform := ⟨Equiv.swap creationText creationDigest, fun _ text => text, id⟩

/-- The event that is stored. -/
def creationEvent : AuditRecord
  | .eventHash => some (.string creationDigest)
  | .signature => none
  | field => some (eventValue creation.record creationDraw field)

/-- INTERNAL: the event is built and is the whole of a chain. -/
theorem creationEvent_linked :
    Linked (FitsAfter creationPlatform none) markOf none [creationEvent] := by
  have hhash : recordHash creationPlatform creation.record creationDraw = creationDigest := by
    unfold recordHash
    rw [show stableSerialize (recordContent creation.record creationDraw) = creationText by
      decide +kernel]
    exact Equiv.swap_apply_left _ _
  have hcreate : createAuditRecord creationPlatform creation.record none creationDraw =
      .ok creationEvent := by
    unfold createAuditRecord
    rw [if_pos (by decide), hhash]
    refine congrArg Except.ok (funext fun field => ?_)
    cases field <;> rfl
  have hwritten : WrittenRecord creation.record := by
    intro field value hvalue
    cases field <;> cases hvalue <;> rfl
  have hbuilt : Built creationPlatform creationEvent :=
    ⟨creation.record, none, creationDraw, hwritten, hcreate⟩
  refine ⟨⟨hbuilt, ?_⟩, trivial⟩
  obtain ⟨r, hagain, hrecomputed, -⟩ := create_of_built hbuilt none none creationDraw
  obtain ⟨-, -, -, hown⟩ := built_fields hbuilt
  have hself : afterHash creationEvent none = creationEvent := Function.update_eq_self _ _
  apply passes_of_once hbuilt hagain
  unfold recordMismatch
  rw [hrecomputed, hself, hown creationDraw, strictEqual_text.mpr rfl]
  rfl

section

variable {P : Platform} {signingKey : Option String}

/-- INTERNAL: a text with a default. -/
theorem nullish_map (value : Option String) (fallback : String) :
    nullish (value.map Json.string) (.string fallback) = .string (value.getD fallback) := by
  cases value <;> rfl

/-- INTERNAL: a writer's input has one content in the two models.
SOURCE: packages/audit/src/foundation.js:35-55 -/
theorem recordContent_record (input : AuditInput) (draw : AuditDraw) :
    recordContent input.record draw = auditContent input draw := by
  have hnull : ∀ value : Json, nullish (some value) .null = value := by
    intro value
    cases value <;> rfl
  simp only [recordContent, hashedFields, auditContent, List.map_cons, List.map_nil, eventValue,
    AuditInput.record, nullish_map, hnull, Option.getD_some, AuditField.name]

/-- INTERNAL: a writer's input makes one event in the two models.
SOURCE: packages/audit/src/foundation.js:30-73 -/
theorem create_record (input : AuditInput) (draw : AuditDraw) :
    createAuditRecord P input.record input.signingKey draw =
      (createAuditEvent P input draw).map AuditEvent.record := by
  have hhash : recordHash P input.record draw = auditHash P input draw := by
    unfold recordHash auditHash
    rw [recordContent_record]
  have hrequired : (requiredFields.all fun field => (input.record field).any Json.truthy) = true ↔
      ¬ (input.tenantId = "" ∨ input.action = "" ∨ input.resourceType = "" ∨
        input.resourceId = "") := by
    simp [requiredFields, AuditInput.record, Json.truthy, not_or]
  unfold createAuditRecord createAuditEvent
  by_cases hfields : input.tenantId = "" ∨ input.action = "" ∨ input.resourceType = "" ∨
      input.resourceId = ""
  · rw [if_neg (mt hrequired.mp (not_not.mpr hfields)), if_pos hfields]
    rfl
  · rw [if_pos (hrequired.mpr hfields), if_neg hfields]
    refine congrArg Except.ok (funext fun field => ?_)
    have hnull : ∀ value : Json, nullish (some value) .null = value := by
      intro value
      cases value <;> rfl
    cases field <;> simp only [AuditEvent.record, eventValue, AuditInput.record, nullish_map, hnull,
      hhash, Option.getD_some, Option.map_some, Option.map_map, Function.comp_def]

/-- INTERNAL: the two models build an event again from the same values.
SOURCE: packages/audit/src/foundation.js:79-87 -/
theorem create_recalculated (event : AuditEvent) (previous : Option String) (draw : AuditDraw) :
    createAuditRecord P (afterHash event.record previous) signingKey draw =
      (createAuditEvent P (event.recalculation previous signingKey) draw).map
        AuditEvent.record := by
  rw [← create_record]
  have hvalue : ∀ field, eventValue (afterHash event.record previous) draw field =
      eventValue (event.recalculation previous signingKey).record draw field := by
    intro field
    cases field <;> rfl
  have hrequired : ∀ field ∈ requiredFields, afterHash event.record previous field =
      (event.recalculation previous signingKey).record field := by
    intro field hfield
    rw [afterHash_required hfield]
    revert hfield
    cases field <;> first | exact fun _ => rfl | exact fun hfield => absurd hfield (by decide)
  have hall : (requiredFields.all fun field =>
      (afterHash event.record previous field).any Json.truthy) =
        requiredFields.all fun field =>
          ((event.recalculation previous signingKey).record field).any Json.truthy := by
    rw [Bool.eq_iff_iff, List.all_eq_true, List.all_eq_true]
    exact forall₂_congr fun field hfield => by rw [hrequired field hfield]
  have hhash : recordHash P (afterHash event.record previous) draw =
      recordHash P (event.recalculation previous signingKey).record draw :=
    recordHash_congr fun field _ => hvalue field
  unfold createAuditRecord
  rw [hall, hhash]
  simp only [hvalue]
  rfl

/-- INTERNAL: the two models make the same checks.
SOURCE: packages/audit/src/foundation.js:89-104 -/
theorem mismatch_record (event recalculated : AuditEvent) :
    recordMismatch signingKey event.record recalculated.record =
      auditMismatch signingKey event recalculated := by
  have hsigned : ∀ a b : Option String,
      strictEqual (a.map Json.string) (b.map Json.string) = decide (a = b) := by
    intro a b
    cases a <;> cases b <;> simp [strictEqual]
  have husable : ∀ value : Option String,
      (value.map Json.string).any Json.truthy = (usableKey value).isSome := by
    intro value
    rcases value with _ | value
    · rfl
    · by_cases hempty : value = "" <;> simp [usableKey, Json.truthy, hempty]
  unfold recordMismatch auditMismatch
  simp only [AuditEvent.record, husable, hsigned]
  rw [show strictEqual (some (Json.string recalculated.eventHash))
    (some (.string event.eventHash)) =
      decide (recalculated.eventHash = event.eventHash) from rfl]
  by_cases hhash : recalculated.eventHash = event.eventHash
  · rcases usableKey signingKey with _ | key
    · simp [hhash]
    · rcases usableKey event.signature with _ | signature
      · simp [hhash]
      · by_cases hsame : recalculated.signature = event.signature <;> simp [hhash, hsame]
  · simp [hhash]

/-- **The verifier answers alike on a writer's events and on the objects they are stored as.**
SOURCE: packages/audit/src/foundation.js:75-112 -/
theorem verify_record (draws : ℕ → AuditDraw) (previous : Option String)
    (events : List AuditEvent) :
    verifyRecords P signingKey draws (some (.ofOption previous)) (events.map AuditEvent.record) =
      (verifyFrom P signingKey draws previous events).map AuditVerdict.record := by
  induction events generalizing previous draws with
  | nil => rfl
  | cons event events ih =>
    have hcreated : createAuditRecord P (afterHash event.record previous) signingKey
        (draws 0) = _ :=
      create_recalculated event previous (draws 0)
    rw [verifyFrom]
    rcases hcreate : createAuditEvent P (event.recalculation previous signingKey) (draws 0) with
      error | recalculated
    · rw [hcreate] at hcreated
      unfold afterHash at hcreated
      rw [List.map_cons, verifyRecords, hcreated]
      rfl
    · rw [hcreate] at hcreated
      rw [List.map_cons, verify_cons hcreated, mismatch_record]
      show _ = Except.map _ (match auditMismatch signingKey event recalculated with
        | some reason => _
        | none => _)
      rcases auditMismatch signingKey event recalculated with _ | reason
      · exact ih (fun n => draws (n + 1)) (some event.eventHash)
      · rfl

end

end Xygo.Analysis
