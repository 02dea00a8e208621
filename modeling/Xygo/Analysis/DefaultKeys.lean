import Xygo.Computation.Separated
import Xygo.Analysis.OutboxInvariant

/-!
# What the default idempotency key tells of an event

`defaultIdempotencyKey` joins four fields of an event with colons. It leaves out the tenant, and a
type or an id may contain colons itself, so that two events of one key need not be one logical
event. Here it is said for which events the key and `sameLogicalEvent` agree, and that a store
whose events are all of this kind neither refuses one of them nor answers with another's job.
-/

set_option autoImplicit false

namespace Xygo.Analysis

open Xygo.Computation Xygo.Model

/-- The fields of an event that its default key is joined from. -/
def keyFields (event : OutboxEvent) : List (List Char) :=
  [event.eventType.toList, (toString (event.eventVersion.getD 1)).toList,
    event.aggregateType.toList, event.aggregateId.toList]

/-- **When a default key tells two events apart from each other.** Where the fields of both fall
into the same pieces between colons, the events have one tenant, and their types and the types of
their aggregates have as many colons. -/
def KeyTells (a b : OutboxEvent) : Prop :=
  cut ':' (keyFields a) = cut ':' (keyFields b) →
    a.tenantId = b.tenantId ∧
      a.eventType.toList.count ':' = b.eventType.toList.count ':' ∧
      a.aggregateType.toList.count ':' = b.aggregateType.toList.count ':'

/-- The white space an event type begins with. -/
def leadingSpace (event : OutboxEvent) : List Char :=
  event.eventType.toList.takeWhile isWhitespace

/-- The white space an aggregate id ends with, from its end. -/
def trailingSpace (event : OutboxEvent) : List Char :=
  event.aggregateId.toList.reverse.takeWhile isWhitespace

/-- The fields of an event as they stand in the key its job is bound to, which is trimmed. -/
def boundFields (event : OutboxEvent) : List (List Char) :=
  [event.eventType.toList.dropWhile isWhitespace, (toString (event.eventVersion.getD 1)).toList,
    event.aggregateType.toList, (event.aggregateId.toList.reverse.dropWhile isWhitespace).reverse]

/-- **When the key its job is bound to tells two events apart from each other.** They must agree
in the white space that was trimmed, too. -/
def BoundKeyTells (a b : OutboxEvent) : Prop :=
  cut ':' (boundFields a) = cut ':' (boundFields b) →
    a.tenantId = b.tenantId ∧
      a.eventType.toList.count ':' = b.eventType.toList.count ':' ∧
      a.aggregateType.toList.count ':' = b.aggregateType.toList.count ':' ∧
      leadingSpace a = leadingSpace b ∧ trailingSpace a = trailingSpace b

/-- The text of a number is made of digits. -/
theorem isDigit_of_mem_repr {n : ℕ} {c : Char} (hmem : c ∈ n.repr.toList) : c.isDigit = true := by
  rw [Nat.toList_repr] at hmem
  exact Nat.isDigit_of_mem_toDigits (by decide) (by decide) hmem

/-- The text of an integer has no colon. -/
theorem colon_not_mem_toString (n : Int) : ':' ∉ (toString n).toList := by
  have hdigits (m : ℕ) : ':' ∉ m.repr.toList := by
    intro hmem
    exact absurd (isDigit_of_mem_repr hmem) (by decide)
  rw [Int.toString_eq_repr, Int.repr_eq_if]
  split
  · exact hdigits _
  · simpa using hdigits _

/-- An integer is read off its text. -/
theorem toString_int_inj {m n : Int} : toString m = toString n ↔ m = n := by
  refine ⟨fun htext => ?_, fun heq => by rw [heq]⟩
  have hnat : ∀ j k : ℕ, j.repr = k.repr → j = k := by
    intro j k heq
    have htoDigits : Nat.toDigits 10 j = Nat.toDigits 10 k := by
      rw [← Nat.toList_repr, heq, Nat.toList_repr]
    rw [← Nat.ofDigitChars_toDigits (n := j) (by decide) (by decide : 10 ≤ 10), htoDigits,
      Nat.ofDigitChars_toDigits (by decide) (by decide)]
  have hsign : ∀ j k : ℕ, j.repr ≠ "-" ++ k.repr := by
    intro j k heq
    have hmem : '-' ∈ j.repr.toList := by simp [heq]
    exact absurd (isDigit_of_mem_repr hmem) (by decide)
  rw [Int.toString_eq_repr, Int.toString_eq_repr, Int.repr_eq_if, Int.repr_eq_if] at htext
  split at htext <;> split at htext
  · have := hnat _ _ htext
    omega
  · exact absurd htext (hsign _ _)
  · exact absurd htext.symm (hsign _ _)
  · have := hnat _ _ (String.append_right_inj "-" |>.mp htext)
    omega

/-- The key joins the fields. -/
theorem toList_defaultIdempotencyKey (event : OutboxEvent) :
    (defaultIdempotencyKey event).toList = [':'].intercalate (keyFields event) := by
  unfold defaultIdempotencyKey keyFields
  rw [String.toList_intercalate]
  rfl

/-- Two default keys are equal iff the fields fall into the same pieces. -/
theorem defaultIdempotencyKey_eq_iff (a b : OutboxEvent) :
    defaultIdempotencyKey a = defaultIdempotencyKey b ↔
      cut ':' (keyFields a) = cut ':' (keyFields b) := by
  rw [← String.toList_inj, toList_defaultIdempotencyKey, toList_defaultIdempotencyKey]
  exact intercalate_eq_iff ':' (List.cons_ne_nil _ _) (List.cons_ne_nil _ _)

/-- Four fields that fall into the same pieces are equal, where the second has no colon and the
first and the third have as many. -/
theorem fields_eq_of_cut {t v a i t' v' a' i' : List Char}
    (hcut : cut ':' [t, v, a, i] = cut ':' [t', v', a', i'])
    (hv : ':' ∉ v) (hv' : ':' ∉ v') (ht : t.count ':' = t'.count ':')
    (ha : a.count ':' = a'.count ':') : [t, v, a, i] = [t', v', a', i'] := by
  apply eq_of_cut ':' hcut
  have hlength := congrArg List.length hcut
  simp only [cut_cons, cut_nil, List.append_nil, List.length_append, length_splitOn,
    List.count_eq_zero_of_not_mem hv, List.count_eq_zero_of_not_mem hv', ht, ha] at hlength
  have hi : i.count ':' = i'.count ':' := by omega
  simp [List.count_eq_zero_of_not_mem hv, List.count_eq_zero_of_not_mem hv', ht, ha, hi]

/-- A job of an event is the same logical event as another iff the tenants and the fields are. -/
theorem sameLogicalEvent_iff {job : OutboxJob} {a : OutboxEvent}
    (htenant : job.tenantId = a.tenantId) (hevent : job.event = a) (b : OutboxEvent) :
    sameLogicalEvent job b = true ↔ a.tenantId = b.tenantId ∧ keyFields a = keyFields b := by
  subst hevent
  have hversion : toString (job.event.eventVersion.getD 1) = toString (b.eventVersion.getD 1) ↔
      job.event.eventVersion.getD 1 = b.eventVersion.getD 1 :=
    toString_int_inj
  simp only [sameLogicalEvent, keyFields, htenant, Bool.and_eq_true, decide_eq_true_eq,
    List.cons.injEq, String.toList_inj, hversion, and_true, and_assoc]

/-- **The default key and the conflict check agree** on two events iff it tells them apart. -/
theorem keys_agree_iff (a b : OutboxEvent) :
    (defaultIdempotencyKey a = defaultIdempotencyKey b ↔
      a.tenantId = b.tenantId ∧ keyFields a = keyFields b) ↔ KeyTells a b := by
  rw [defaultIdempotencyKey_eq_iff]
  constructor
  · intro hlaw hcut
    obtain ⟨htenant, hfields⟩ := hlaw.mp hcut
    obtain ⟨htype, -, haggregate, -⟩ : _ ∧ _ ∧ _ ∧ _ := by
      simpa only [keyFields, List.cons.injEq, and_true] using hfields
    exact ⟨htenant, by rw [htype], by rw [haggregate]⟩
  · intro hapart
    constructor
    · intro hcut
      obtain ⟨htenant, htype, haggregate⟩ := hapart hcut
      exact ⟨htenant, fields_eq_of_cut hcut (colon_not_mem_toString _) (colon_not_mem_toString _)
        htype haggregate⟩
    · rintro ⟨-, hfields⟩
      rw [hfields]

/-! ### The keys of jobs -/

/-- What `newJob` makes of an event without a key. -/
theorem newJob_default {event : OutboxEvent} {now : Int} {job : OutboxJob}
    (h : newJob event none now = .ok job) :
    job.id = trim event.id ∧ job.tenantId = event.tenantId ∧ job.event = event ∧
      job.idempotencyKey = trim (defaultIdempotencyKey event) ∧
      trim event.eventType ≠ "" ∧ trim event.aggregateId ≠ "" := by
  have hrequired : ∀ {value label result : String},
      requiredString value label = .ok result → result = trim value ∧ trim value ≠ "" := by
    intro value label result hvalue
    unfold requiredString at hvalue
    split at hvalue
    · cases hvalue
    · rename_i hne
      exact ⟨(Except.ok.inj hvalue).symm, hne⟩
  unfold newJob at h
  obtain ⟨id, hid, h⟩ := bind_eq_ok.mp h
  obtain ⟨_, htype, h⟩ := bind_eq_ok.mp h
  obtain ⟨_, -, h⟩ := bind_eq_ok.mp h
  obtain ⟨_, haggregate, h⟩ := bind_eq_ok.mp h
  obtain ⟨timestamp, -, h⟩ := bind_eq_ok.mp h
  obtain ⟨key, hkey, h⟩ := bind_eq_ok.mp h
  obtain rfl := Except.ok.inj h
  exact ⟨(hrequired hid).1, rfl, rfl, (hrequired hkey).1, (hrequired htype).2,
    (hrequired haggregate).2⟩

/-- A text that is not blank has a character that is not white space. -/
theorem not_all_whitespace {value : String} (h : trim value ≠ "") :
    value.toList.dropWhile isWhitespace ≠ [] := by
  intro hblank
  apply h
  unfold trim
  rw [hblank]
  rfl

/-- Trimming the default key trims the type at its start and the aggregate id at its end. -/
theorem toList_trim_defaultIdempotencyKey {event : OutboxEvent} (htype : trim event.eventType ≠ "")
    (haggregate : trim event.aggregateId ≠ "") :
    (trim (defaultIdempotencyKey event)).toList = [':'].intercalate (boundFields event) := by
  have hstart : ∀ (field rest : List Char), field.dropWhile isWhitespace ≠ [] →
      (field ++ rest).dropWhile isWhitespace = field.dropWhile isWhitespace ++ rest := by
    intro field rest hne
    rw [List.dropWhile_append, if_neg (by simpa using hne)]
  have hend : event.aggregateId.toList.reverse.dropWhile isWhitespace ≠ [] := by
    intro hblank
    apply not_all_whitespace haggregate
    rw [List.dropWhile_eq_nil_iff] at hblank ⊢
    intro c hc
    exact hblank c (List.mem_reverse.mpr hc)
  unfold trim
  rw [toList_defaultIdempotencyKey, String.toList_ofList]
  simp only [keyFields, boundFields, List.intercalate_cons_cons, List.intercalate_singleton,
    List.append_assoc]
  rw [hstart _ _ (not_all_whitespace htype)]
  simp only [List.reverse_append, List.append_assoc]
  rw [hstart _ _ hend]
  simp

/-- White space has no colon. -/
theorem colon_not_mem_takeWhile (text : List Char) : ':' ∉ text.takeWhile isWhitespace := by
  intro hmem
  exact absurd (List.mem_takeWhile_imp hmem) (by decide)

/-- **The key of a job and the conflict check agree** on two events iff it tells them apart. -/
theorem bound_keys_agree_iff {a b : OutboxEvent} (ha : trim a.eventType ≠ "")
    (ha' : trim a.aggregateId ≠ "") (hb : trim b.eventType ≠ "") (hb' : trim b.aggregateId ≠ "") :
    (trim (defaultIdempotencyKey a) = trim (defaultIdempotencyKey b) →
      a.tenantId = b.tenantId ∧ keyFields a = keyFields b) ↔ BoundKeyTells a b := by
  have hkeys : trim (defaultIdempotencyKey a) = trim (defaultIdempotencyKey b) ↔
      cut ':' (boundFields a) = cut ':' (boundFields b) := by
    rw [← String.toList_inj, toList_trim_defaultIdempotencyKey ha ha',
      toList_trim_defaultIdempotencyKey hb hb']
    exact intercalate_eq_iff ':' (List.cons_ne_nil _ _) (List.cons_ne_nil _ _)
  have hcount : ∀ event : OutboxEvent,
      (event.eventType.toList.dropWhile isWhitespace).count ':' =
        event.eventType.toList.count ':' := by
    intro event
    conv_rhs => rw [← List.takeWhile_append_dropWhile (p := isWhitespace)
      (l := event.eventType.toList), List.count_append,
      List.count_eq_zero_of_not_mem (colon_not_mem_takeWhile _), Nat.zero_add]
  rw [hkeys]
  constructor
  · intro hlaw hcut
    obtain ⟨htenant, hfields⟩ := hlaw hcut
    obtain ⟨htype, -, haggregate, hid⟩ : _ ∧ _ ∧ _ ∧ _ := by
      simpa only [keyFields, List.cons.injEq, and_true] using hfields
    exact ⟨htenant, by rw [htype], by rw [haggregate], by rw [leadingSpace, htype, leadingSpace],
      by rw [trailingSpace, hid, trailingSpace]⟩
  · intro htells hcut
    obtain ⟨htenant, htype, haggregate, hleading, htrailing⟩ := htells hcut
    have hbound := fields_eq_of_cut hcut (colon_not_mem_toString _) (colon_not_mem_toString _)
      (by rw [hcount, hcount, htype]) haggregate
    simp only [List.cons.injEq, and_true] at hbound
    obtain ⟨hboundType, hversion, haggregateType, hboundId⟩ := hbound
    have htypes : a.eventType.toList = b.eventType.toList := by
      rw [← List.takeWhile_append_dropWhile (p := isWhitespace) (l := a.eventType.toList),
        hboundType, show a.eventType.toList.takeWhile isWhitespace = _ from hleading]
      exact List.takeWhile_append_dropWhile
    have hids : a.aggregateId.toList.reverse = b.aggregateId.toList.reverse := by
      rw [← List.takeWhile_append_dropWhile (p := isWhitespace)
        (l := a.aggregateId.toList.reverse), List.reverse_injective hboundId,
        show a.aggregateId.toList.reverse.takeWhile isWhitespace = _ from htrailing]
      exact List.takeWhile_append_dropWhile
    refine ⟨htenant, ?_⟩
    rw [keyFields, htypes, hversion, haggregateType, List.reverse_injective hids, keyFields]

/-! ### Runs of a store -/

/-- A call that enqueues nothing, or enqueues without an explicit key. -/
def Keyless (c : OutboxCall) : Prop := ∀ event key now, c = .enqueue event key now → key = none

/-- **What enqueueing without a key should answer**: no conflict, and no job but one of the same
logical event. -/
def EnqueueAnswered (entry : OutboxCall × Except JsError OutboxResult) : Prop :=
  ∀ event key now, entry.1 = .enqueue event key now →
    entry.2 ≠ .error idempotencyConflict ∧
      ∀ job, entry.2 = .ok (.job job) → sameLogicalEvent job event = true

/-- Where a chain of `Except` throws. -/
theorem throws_of_bind {α β : Type} {x : Except JsError α} {f : α → Except JsError β} {e : JsError}
    (h : (x >>= f) = .error e) : x = .error e ∨ ∃ a, f a = .error e := by
  cases x with
  | error thrown =>
    have hthrown : (Except.error thrown : Except JsError β) = .error e := h
    exact Or.inl (by rw [Except.error.inj hthrown])
  | ok a => exact Or.inr ⟨a, h⟩

/-- The error of a missing text is no conflict. -/
theorem requiredString_error {value label : String} {e : JsError}
    (h : requiredString value label = .error e) : e ≠ idempotencyConflict := by
  rintro rfl
  unfold requiredString at h
  split at h
  · cases congrArg JsError.code (Except.error.inj h)
  · cases h

/-- The error of an invalid time is no conflict. -/
theorem nowIso_error {now : Int} {e : JsError} (h : nowIso now = .error e) :
    e ≠ idempotencyConflict := by
  rintro rfl
  unfold nowIso nowDate at h
  split at h
  · rename_i hvalid
    simp [toISOString, hvalid, bind, Except.bind] at h
  · cases congrArg JsError.code (Except.error.inj h)

/-- The errors of `newJob` are no conflicts. -/
theorem newJob_error {event : OutboxEvent} {key : Option String} {now : Int} {e : JsError}
    (h : newJob event key now = .error e) : e ≠ idempotencyConflict := by
  unfold newJob at h
  obtain hid | ⟨_, h⟩ := throws_of_bind h
  · exact requiredString_error hid
  obtain htype | ⟨_, h⟩ := throws_of_bind h
  · exact requiredString_error htype
  obtain haggregate | ⟨_, h⟩ := throws_of_bind h
  · exact requiredString_error haggregate
  obtain haggregateId | ⟨_, h⟩ := throws_of_bind h
  · exact requiredString_error haggregateId
  obtain htime | ⟨_, h⟩ := throws_of_bind h
  · exact nowIso_error htime
  obtain hkey | ⟨_, h⟩ := throws_of_bind h
  · exact requiredString_error hkey
  · cases h

/-- When `enqueue` answers with a conflict. -/
theorem enqueue_conflict {s : OutboxStore} {event : OutboxEvent} {key : Option String} {now : Int}
    (h : (memoryOutbox.call (.enqueue event key now) s).1 = .error idempotencyConflict) :
    ∃ job existingId, newJob event key now = .ok job ∧
      s.idempotencyKeys.get job.idempotencyKey = some existingId ∧
      ∀ existing, s.items.get existingId = some existing →
        sameLogicalEvent existing event = false := by
  simp only [memoryOutbox, OutboxCall.operation, enqueue, Effect.exec_map, Effect.exec_bind,
    Effect.exec_lift, Effect.exec_get] at h
  cases hjob : newJob event key now with
  | error e =>
    rw [hjob] at h
    exact absurd (Except.error.inj h) (newJob_error hjob)
  | ok job =>
    cases hkey : s.idempotencyKeys.get job.idempotencyKey with
    | none =>
      have hnot : idTaken ≠ idempotencyConflict := by decide
      cases hid : s.items.has job.id <;> simp [hjob, hkey, hid, hnot] at h
    | some existingId =>
      refine ⟨job, existingId, rfl, hkey, fun existing hexisting => ?_⟩
      cases hsame : sameLogicalEvent existing event with
      | false => rfl
      | true => simp [hjob, hkey, hexisting, hsame] at h

/-- `enqueue` answers with a conflict where the key is bound to another logical event. -/
theorem enqueue_conflict_of_bound {s : OutboxStore} {event : OutboxEvent} {now : Int}
    {job existing : OutboxJob} {existingId : String} (hjob : newJob event none now = .ok job)
    (hbound : s.idempotencyKeys.get job.idempotencyKey = some existingId)
    (hexisting : s.items.get existingId = some existing)
    (hother : sameLogicalEvent existing event = false) :
    (memoryOutbox.call (.enqueue event none now) s).1 = .error idempotencyConflict := by
  simp [memoryOutbox, OutboxCall.operation, enqueue, hjob, hbound, hexisting, hother]

/-- The jobs of a store whose events came without keys: each has the tenant, the event and the
key that `newJob` gave it. -/
structure DefaultKeyed (log : OutboxLog) (s : OutboxStore) : Prop where
  invariant : OutboxInvariant log s
  made : ∀ id job, s.items.get id = some job →
    ∃ event now first answer, (.enqueue event none now, answer) ∈ log ∧
      newJob event none now = .ok first ∧ job.tenantId = first.tenantId ∧
      job.event = first.event ∧ job.idempotencyKey = first.idempotencyKey

/-- An enqueue without a key is answered as it should be, in a store of such jobs. -/
theorem DefaultKeyed.answered {log : OutboxLog} {s : OutboxStore} (h : DefaultKeyed log s)
    {event : OutboxEvent} {now : Int}
    (htells : ∀ a at' answer, (.enqueue a none at', answer) ∈ log → BoundKeyTells a event) :
    EnqueueAnswered (.enqueue event none now, (memoryOutbox.call (.enqueue event none now) s).1) := by
  rintro event key now' heq
  cases heq
  constructor
  · intro hconflict
    obtain ⟨job, existingId, hjob, hbound, hother⟩ := enqueue_conflict hconflict
    obtain ⟨existing, hexisting, hkey⟩ := (h.invariant.bound _ _).mp hbound
    obtain ⟨a, made, first, answer, hmem, hfirst, htenant, hevent, hkeys⟩ :=
      h.made _ _ hexisting
    obtain ⟨-, hfirstTenant, hfirstEvent, hfirstKey, ha, ha'⟩ := newJob_default hfirst
    obtain ⟨-, -, -, hjobKey, hb, hb'⟩ := newJob_default hjob
    have hsame := (bound_keys_agree_iff ha ha' hb hb').mpr (htells a made answer hmem)
      (by rw [← hfirstKey, ← hjobKey, ← hkeys, hkey])
    have htrue := (sameLogicalEvent_iff (htenant.trans hfirstTenant) (hevent.trans hfirstEvent)
      _).mpr hsame
    rw [hother existing hexisting] at htrue
    cases htrue
  · intro job hok
    have hout := outcome_call s (.enqueue event none now)
    generalize (memoryOutbox.call (.enqueue event none now) s).2 = t at hout
    rw [show (memoryOutbox.call (.enqueue event none now) s).1 = _ from hok] at hout
    cases hout with
    | enqueued built =>
      obtain ⟨-, htenant, hevent, -⟩ := newJob_default built
      exact (sameLogicalEvent_iff htenant hevent _).mpr ⟨rfl, rfl⟩
    | duplicate built boundKey found same => exact same

/-- Where the job under an id comes from after a call: it was there before, with its tenant, its
event and its key, or the call enqueued it. -/
theorem origin_call {log : OutboxLog} {s t : OutboxStore} (h : OutboxInvariant log s)
    {c : OutboxCall} {r : Except JsError OutboxResult} (out : Outcome s c r t) {id : String}
    {job : OutboxJob} (hget : t.items.get id = some job) :
    (∃ old, s.items.get id = some old ∧ job.tenantId = old.tenantId ∧ job.event = old.event ∧
      job.idempotencyKey = old.idempotencyKey) ∨
    ∃ event key now, c = .enqueue event key now ∧ newJob event key now = .ok job := by
  have hput : ∀ {changedId : String} {record record' : OutboxJob},
      s.items.get changedId = some record → (s.put changedId record').items.get id = some job →
      record'.tenantId = record.tenantId ∧ record'.event = record.event ∧
        record'.idempotencyKey = record.idempotencyKey →
      ∃ old, s.items.get id = some old ∧ job.tenantId = old.tenantId ∧ job.event = old.event ∧
        job.idempotencyKey = old.idempotencyKey := by
    intro changedId record record' hfound hstored hsame
    rw [get_put] at hstored
    split at hstored
    · rename_i hid
      obtain rfl := Option.some.inj hstored
      exact ⟨record, hid ▸ hfound, hsame⟩
    · exact ⟨job, hstored, rfl, rfl, rfl⟩
  cases out with
  | refused c e => exact Or.inl ⟨job, hget, rfl, rfl, rfl⟩
  | enqueued built freeKey freeId =>
    rw [OrderedMap.get_set] at hget
    split at hget
    · obtain rfl := Option.some.inj hget
      exact Or.inr ⟨_, _, _, rfl, built⟩
    · exact Or.inl ⟨job, hget, rfl, rfl, rfl⟩
  | duplicate built boundKey found same => exact Or.inl ⟨job, hget, rfl, rfl, rfl⟩
  | claimed valid =>
    rw [get_claimed h] at hget
    split at hget
    · obtain ⟨old, hold, rfl⟩ := Option.map_eq_some_iff.mp hget
      exact Or.inl ⟨old, hold, rfl, rfl, rfl⟩
    · exact Or.inl ⟨job, hget, rfl, rfl, rfl⟩
  | completed found processing holder valid => exact Or.inl (hput found hget ⟨rfl, rfl, rfl⟩)
  | failed found processing holder valid due => exact Or.inl (hput found hget ⟨rfl, rfl, rfl⟩)
  | absent => exact Or.inl ⟨job, hget, rfl, rfl, rfl⟩
  | replayed accepted found own dead valid => exact Or.inl (hput found hget ⟨rfl, rfl, rfl⟩)

/-- Every call keeps the jobs of such a store. -/
theorem DefaultKeyed.step {log : OutboxLog} {s : OutboxStore} (h : DefaultKeyed log s)
    {c : OutboxCall} (hkeyless : Keyless c) :
    DefaultKeyed (log ++ [(c, (memoryOutbox.call c s).1)]) (memoryOutbox.call c s).2 where
  invariant := h.invariant.step (outcome_call s c)
  made id job hget := by
    obtain ⟨old, hold, htenant, hevent, hkey⟩ | ⟨event, key, now, rfl, hjob⟩ :=
      origin_call h.invariant (outcome_call s c) hget
    · obtain ⟨event, now, first, answer, hmem, hfirst, htenant', hevent', hkey'⟩ :=
        h.made id old hold
      exact ⟨event, now, first, answer, List.mem_append_left _ hmem, hfirst,
        htenant.trans htenant', hevent.trans hevent', hkey.trans hkey'⟩
    · obtain rfl : key = none := hkeyless event key now rfl
      exact ⟨event, now, job, _, List.mem_append_right _ (List.mem_singleton.mpr rfl), hjob, rfl,
        rfl, rfl⟩

/-- The calls of a log are the calls of its run. -/
theorem calls_run (s : OutboxStore) (cs : List OutboxCall) :
    (memoryOutbox.run s cs).1.map Prod.fst = cs := by
  induction cs generalizing s with
  | nil => rfl
  | cons c cs ih => rw [Object.run_cons, List.map_cons, ih]

/-- **Runs of a store.** Where no enqueue has a key and the keys tell the events apart, every
enqueue is answered as it should be. -/
theorem run_answered {cs : List OutboxCall} (hkeyless : ∀ c ∈ cs, Keyless c)
    (htells : ∀ a at' b bt, .enqueue a none at' ∈ cs → .enqueue b none bt ∈ cs →
      BoundKeyTells a b) :
    ∀ entry ∈ (memoryOutbox.run OutboxStore.empty cs).1, EnqueueAnswered entry := by
  have hrun : ∀ {s : OutboxStore} {log : OutboxLog} {ds : List OutboxCall}, DefaultKeyed log s →
      (∀ entry ∈ log, entry.1 ∈ cs) → (∀ d ∈ ds, d ∈ cs) →
      ∀ entry ∈ (memoryOutbox.run s ds).1, EnqueueAnswered entry := by
    intro s log ds hs hlog hds
    induction ds generalizing s log with
    | nil => exact fun entry hentry => absurd hentry List.not_mem_nil
    | cons d ds ih =>
      have hd := hds d List.mem_cons_self
      intro entry hentry
      obtain rfl | hentry := List.mem_cons.mp hentry
      · rintro event key now rfl
        obtain rfl : key = none := hkeyless _ hd event key now rfl
        exact hs.answered (fun a at' answer hmem => htells a at' event now (hlog _ hmem) hd) event
          none now rfl
      · refine ih (hs.step (hkeyless d hd)) ?_ (fun c hc => hds c (List.mem_cons_of_mem _ hc))
          entry hentry
        intro earlier hearlier
        obtain hmem | hlast := List.mem_append.mp hearlier
        · exact hlog earlier hmem
        · obtain rfl := List.mem_singleton.mp hlast
          exact hd
  have hempty : DefaultKeyed [] OutboxStore.empty :=
    ⟨outboxInvariant_empty, fun id job hget => by simp [OutboxStore.empty] at hget⟩
  exact hrun hempty (fun _ h => absurd h List.not_mem_nil) (fun _ h => h)

/-- Two enqueues into an empty store are answered as they should be only if the keys tell their
events apart. -/
theorem bound_of_answered {a b : OutboxEvent} {at' bt : Int} {jobA jobB : OutboxJob}
    (ha : newJob a none at' = .ok jobA) (hb : newJob b none bt = .ok jobB)
    (h : ∀ entry ∈ (memoryOutbox.run OutboxStore.empty
      [.enqueue a none at', .enqueue b none bt]).1, EnqueueAnswered entry) : BoundKeyTells a b := by
  obtain ⟨-, htenant, hevent, hkeyA, htype, haggregate⟩ := newJob_default ha
  obtain ⟨-, -, -, hkeyB, htype', haggregate'⟩ := newJob_default hb
  apply (bound_keys_agree_iff htype haggregate htype' haggregate').mp
  intro hkeys
  apply (sameLogicalEvent_iff htenant hevent b).mp
  by_contra hsame
  have hfirst : (memoryOutbox.call (.enqueue a none at') OutboxStore.empty).2 =
      ⟨OrderedMap.empty.set jobA.id jobA,
        OrderedMap.empty.set jobA.idempotencyKey jobA.id⟩ := by
    simp [memoryOutbox, OutboxCall.operation, enqueue, ha, OutboxStore.empty]
  have hbound : (OrderedMap.empty.set jobA.idempotencyKey jobA.id).get jobB.idempotencyKey =
      some jobA.id := by
    rw [hkeyA, hkeyB, hkeys]
    simp
  have hexisting : (OrderedMap.empty.set jobA.id jobA).get jobA.id = some jobA := by simp
  have hconflict : (memoryOutbox.call (.enqueue b none bt)
      ⟨OrderedMap.empty.set jobA.id jobA, OrderedMap.empty.set jobA.idempotencyKey jobA.id⟩).1 =
      .error idempotencyConflict :=
    enqueue_conflict_of_bound hb hbound hexisting (by simpa using hsame)
  rw [← hfirst] at hconflict
  refine (h (.enqueue b none bt, _) ?_ b none bt rfl).1 hconflict
  rw [Object.run_cons, Object.run_cons]
  exact List.mem_cons_of_mem _ List.mem_cons_self

/-- **The default key and the conflict check.** On two valid events they agree iff `KeyTells`
holds, and a store answers both as it should iff `BoundKeyTells` does; where it holds of any two
events of a run, every enqueue of the run is answered as it should be. -/
theorem default_keys_agree (a b : OutboxEvent) (at' bt : Int) (cs : List OutboxCall) :
    (∀ jobA jobB, newJob a none at' = .ok jobA → newJob b none bt = .ok jobB →
      ((defaultIdempotencyKey a = defaultIdempotencyKey b ↔ sameLogicalEvent jobA b = true) ↔
        KeyTells a b) ∧
      ((∀ entry ∈ (memoryOutbox.run OutboxStore.empty
          [.enqueue a none at', .enqueue b none bt]).1, EnqueueAnswered entry) ↔ BoundKeyTells a b)) ∧
    ((∀ c ∈ cs, Keyless c) →
      (∀ a at' b bt, .enqueue a none at' ∈ cs → .enqueue b none bt ∈ cs → BoundKeyTells a b) →
      ∀ entry ∈ (memoryOutbox.run OutboxStore.empty cs).1, EnqueueAnswered entry) := by
  refine ⟨?_, fun hkeyless htells => run_answered hkeyless htells⟩
  intro jobA jobB ha hb
  obtain ⟨-, htenant, hevent, -, htype, haggregate⟩ := newJob_default ha
  obtain ⟨-, -, -, -, htype', haggregate'⟩ := newJob_default hb
  refine ⟨?_, ⟨fun h => bound_of_answered ha hb h, fun htells => ?_⟩⟩
  · rw [sameLogicalEvent_iff htenant hevent]
    exact keys_agree_iff a b
  · apply run_answered
    · intro c hc event key now heq
      subst heq
      simp only [List.mem_cons, OutboxCall.enqueue.injEq, List.not_mem_nil, or_false] at hc
      obtain ⟨-, rfl, -⟩ | ⟨-, rfl, -⟩ := hc <;> rfl
    · intro x xt y yt hx hy
      simp only [List.mem_cons, OutboxCall.enqueue.injEq, true_and, List.not_mem_nil,
        or_false] at hx hy
      have hself (event : OutboxEvent) : BoundKeyTells event event := fun _ =>
        ⟨rfl, rfl, rfl, rfl, rfl⟩
      have hsymm : BoundKeyTells b a := fun hcut => by
        obtain ⟨h₁, h₂, h₃, h₄, h₅⟩ := htells hcut.symm
        exact ⟨h₁.symm, h₂.symm, h₃.symm, h₄.symm, h₅.symm⟩
      obtain ⟨rfl, -⟩ | ⟨rfl, -⟩ := hx
      · obtain ⟨rfl, -⟩ | ⟨rfl, -⟩ := hy
        · exact hself _
        · exact htells
      · obtain ⟨rfl, -⟩ | ⟨rfl, -⟩ := hy
        · exact hsymm
        · exact hself _

/-- The event of a report of a tenant. -/
def approvedEvent (tenantId id aggregateId : String) : OutboxEvent where
  id := id
  eventType := "field_report.approved"
  aggregateType := "field_report"
  aggregateId := aggregateId
  tenantId := some tenantId

/-- `default_keys_agree` on two reports of one tenant. -/
theorem default_keys_agree_reports :
    (∃ job other, newJob (approvedEvent "t1" "e1" "r1") none 0 = .ok job ∧
      newJob (approvedEvent "t1" "e2" "r2") none 0 = .ok other ∧
      (defaultIdempotencyKey (approvedEvent "t1" "e1" "r1") =
          defaultIdempotencyKey (approvedEvent "t1" "e2" "r2") ↔
        sameLogicalEvent job (approvedEvent "t1" "e2" "r2") = true)) ∧
    ∀ entry ∈ (memoryOutbox.run OutboxStore.empty
      [.enqueue (approvedEvent "t1" "e1" "r1") none 0,
        .enqueue (approvedEvent "t1" "e2" "r2") none 0]).1, EnqueueAnswered entry := by
  have hjob : ∃ job, newJob (approvedEvent "t1" "e1" "r1") none 0 = .ok job := ⟨_, rfl⟩
  have hother : ∃ job, newJob (approvedEvent "t1" "e2" "r2") none 0 = .ok job := ⟨_, rfl⟩
  obtain ⟨job, hjob⟩ := hjob
  obtain ⟨other, hother⟩ := hother
  have htells : KeyTells (approvedEvent "t1" "e1" "r1") (approvedEvent "t1" "e2" "r2") := by
    unfold KeyTells
    decide +kernel
  have hbound : BoundKeyTells (approvedEvent "t1" "e1" "r1") (approvedEvent "t1" "e2" "r2") := by
    unfold BoundKeyTells
    decide +kernel
  have hpair := (default_keys_agree _ _ 0 0 []).1 job other hjob hother
  exact ⟨⟨job, other, hjob, hother, hpair.1.mpr htells⟩, hpair.2.mpr hbound⟩

/-- **Two tenants share a key.** The same report id of another tenant has the same key, is no same
logical event, and its event is refused. -/
theorem tenants_share_key :
    defaultIdempotencyKey (approvedEvent "t1" "e1" "r1") =
      defaultIdempotencyKey (approvedEvent "t2" "e2" "r1") ∧
    ∀ job, newJob (approvedEvent "t1" "e1" "r1") none 0 = .ok job →
      sameLogicalEvent job (approvedEvent "t2" "e2" "r1") = false := by
  refine ⟨rfl, ?_⟩
  intro job hjob
  obtain ⟨-, htenant, -⟩ := newJob_default hjob
  have hother : job.tenantId ≠ some "t2" := by
    rw [htenant]
    decide
  simp [sameLogicalEvent, approvedEvent, hother]

end Xygo.Analysis
