import Xygo.Model.Idempotency
import Xygo.Model.Paths

/-!
# The storage keys of idempotent requests

A storage key joins the tenant, the pathname and the client's key with colons, none of them escaped.
It can be taken apart again because of the router: a tenant is a part of the pathname and has no
slash, and a pathname ends in the segment of a collection, which has no colon. So a response is only
replayed to the tenant, the pathname and the client key it was kept for (`responses_replayed`).
-/

set_option autoImplicit false

namespace Xygo.Analysis

open Xygo.Computation Xygo.Model

/-! ## Pathnames -/

theorem splitPath_eq (pathname : String) : splitPath pathname = (namesOf pathname).filter (· ≠ "") :=
  rfl

/-- INTERNAL: the parts of a pathname that is routed.
SOURCE: apps/api/src/handlers.js:701-707, 976-997 -/
theorem parts_of_routed {pathname tenantId : String}
    (h : createTenantOf pathname = some tenantId) :
    ∃ segment ∈ collectionSegments, splitPath pathname = ["v1", "tenants", tenantId, segment] := by
  unfold createTenantOf at h
  split at h
  · rename_i tenant segment hparts
    split at h
    · rename_i hsegment
      obtain rfl := Option.some.inj h
      exact ⟨segment, hsegment, hparts⟩
    · cases h
  · cases h

/-- INTERNAL: a text of several names is its first name and the rest. -/
theorem eq_of_namesOf {text name : String} {names : List String} (h : namesOf text = name :: names)
    (hne : names ≠ []) : ∃ rest, text = name ++ "/" ++ rest := by
  have hchars : ∀ (l first : List Char) (others : List (List Char)),
      l.splitOnP (fun x => decide (x = '/')) = first :: others → others ≠ [] →
        ∃ rest, l = first ++ '/' :: rest := by
    intro l
    induction l with
    | nil =>
      intro first others hsplit hothers
      rw [List.splitOnP_nil] at hsplit
      simp_all
    | cons c l ih =>
      intro first others hsplit hothers
      rw [List.splitOnP_cons_eq_if_modifyHead] at hsplit
      split at hsplit
      · rename_i hc
        simp only [List.cons.injEq, decide_eq_true_eq] at hsplit hc
        exact ⟨l, by rw [← hsplit.1, hc]; rfl⟩
      · obtain ⟨next, more, hl⟩ := List.exists_cons_of_ne_nil
          (List.splitOnP_ne_nil (fun x => decide (x = '/')) l)
        rw [hl, List.modifyHead_cons] at hsplit
        obtain ⟨rfl, rfl⟩ := List.cons.inj hsplit
        obtain ⟨rest, hrest⟩ := ih next more hl hothers
        exact ⟨rest, by rw [hrest]; rfl⟩
  unfold namesOf splitText at h
  obtain ⟨first, others, hsplit, rfl, rfl⟩ := List.map_eq_cons_iff.mp h
  obtain ⟨rest, hrest⟩ := hchars _ _ _ hsplit (by simpa using hne)
  refine ⟨String.ofList rest, ?_⟩
  rw [← String.toList_inj, hrest]
  simp

/-- INTERNAL: a pathname that is routed begins with a slash or with its first part. -/
theorem beginning_of_routed {pathname tenantId : String}
    (h : createTenantOf pathname = some tenantId) :
    ∃ name rest, pathname = name ++ "/" ++ rest ∧ (name = "" ∨ name = "v1") := by
  obtain ⟨segment, -, hparts⟩ := parts_of_routed h
  rw [splitPath_eq] at hparts
  cases hnames : namesOf pathname with
  | nil =>
    rw [hnames] at hparts
    cases hparts
  | cons name names =>
    have hmany : names ≠ [] := by
      rintro rfl
      rw [hnames] at hparts
      have hlength := congrArg List.length hparts
      have hle := List.length_filter_le (fun part => decide (part ≠ "")) [name]
      rw [hlength] at hle
      simp at hle
    obtain ⟨rest, hrest⟩ := eq_of_namesOf hnames hmany
    refine ⟨name, rest, hrest, ?_⟩
    by_cases hempty : name = ""
    · exact .inl hempty
    · right
      rw [hnames, List.filter_cons_of_pos (by simpa using hempty)] at hparts
      exact (List.cons.inj hparts).1

/-- INTERNAL: a tenant of a pathname has no slash. -/
theorem tenant_of_routed {pathname tenantId : String}
    (h : createTenantOf pathname = some tenantId) : '/' ∉ tenantId.toList := by
  obtain ⟨segment, -, hparts⟩ := parts_of_routed h
  have hmem : tenantId ∈ splitPath pathname := by simp [hparts]
  exact slash_notMem_namesOf (List.mem_filter.mp hmem).1

/-- INTERNAL: no pathname that is routed goes on with a colon to another one. -/
theorem not_extended {pathname tenantId other : String} {rest : List Char}
    (h : createTenantOf pathname = some tenantId)
    (hother : createTenantOf (pathname ++ String.ofList (':' :: rest)) = some other) : False := by
  obtain ⟨segment, -, hparts⟩ := parts_of_routed h
  obtain ⟨otherSegment, hsegment, hotherParts⟩ := parts_of_routed hother
  obtain ⟨before, last, first, after, hnames, hrest, hboth⟩ :=
    namesOf_append pathname (String.ofList (':' :: rest))
  have hcolon : ':' ∈ first.toList := by
    unfold namesOf splitText at hrest
    rw [String.toList_ofList, List.splitOnP_cons_eq_if_modifyHead, if_neg (by decide)] at hrest
    obtain ⟨next, more, hsplit⟩ := List.exists_cons_of_ne_nil
      (List.splitOnP_ne_nil (fun x => decide (x = '/')) rest)
    rw [hsplit, List.modifyHead_cons, List.map_cons] at hrest
    rw [← (List.cons.inj hrest).1]
    simp
  have hjoined : last ++ first ≠ "" := by
    intro hempty
    have hmem : ':' ∈ (last ++ first).toList := by simp [hcolon]
    rw [hempty] at hmem
    simp at hmem
  rw [splitPath_eq, hnames, List.filter_append] at hparts
  have hpart : (fun part : String => decide (part ≠ "")) (last ++ first) = true :=
    decide_eq_true hjoined
  rw [splitPath_eq, hboth, List.filter_append,
    @List.filter_cons_of_pos String (fun part => decide (part ≠ "")) _ _ hpart] at hotherParts
  have hlength := congrArg List.length hparts
  have hotherLength := congrArg List.length hotherParts
  simp only [List.length_append, List.length_cons, List.length_nil] at hlength hotherLength
  by_cases hlast : last = ""
  · -- the pathname ends in a slash: what follows is a fifth part
    rw [List.filter_cons_of_neg (by simpa using hlast), List.filter_nil, List.length_nil] at hlength
    omega
  · -- what follows belongs to the segment
    rw [List.filter_cons_of_pos (by simpa using hlast), List.filter_nil, List.length_singleton]
      at hlength
    have hsame : last ++ first = otherSegment := by
      have hfourth := congrArg (fun parts : List String => parts[3]?) hotherParts
      rw [List.getElem?_append_right (by omega)] at hfourth
      have hthree : (before.filter (· ≠ "")).length = 3 := by omega
      rw [hthree] at hfourth
      exact Option.some.inj hfourth
    have hplain : ∀ name ∈ collectionSegments, ':' ∉ name.toList := by decide
    apply hplain otherSegment hsegment
    rw [← hsame]
    simp [hcolon]

/-! ## Keys -/

/-- INTERNAL: the tenant of a storage key. -/
theorem tenant_of_storageKey {a b : CreateRequest} (h : a.storageKey = b.storageKey) :
    a.tenantId = b.tenantId := by
  have hfirst : ∀ request : CreateRequest, ∃ name, (name = "" ∨ name = "v1") ∧
      (namesOf request.storageKey).head? = some (request.tenantId ++ ":" ++ name) := by
    intro request
    obtain ⟨name, rest, hpathname, hname⟩ := beginning_of_routed request.routed
    refine ⟨name, hname, ?_⟩
    have hslash : '/' ∉ (request.tenantId ++ ":" ++ name).toList := by
      have htenant := tenant_of_routed request.routed
      obtain rfl | rfl := hname <;> simp [htenant]
    have hkey : request.storageKey =
        request.tenantId ++ ":" ++ name ++ "/" ++ (rest ++ ":" ++ request.clientKey) := by
      rw [CreateRequest.storageKey, FieldReports.idempotencyKeyFor, hpathname]
      simp [String.append_assoc]
    rw [hkey, namesOf_cons hslash]
    rfl
  obtain ⟨name, hname, ha⟩ := hfirst a
  obtain ⟨other, hother, hb⟩ := hfirst b
  rw [h, hb] at ha
  have htexts := congrArg String.toList (Option.some.inj ha)
  have hends := congrArg List.getLast? htexts
  rw [← String.toList_inj]
  obtain rfl | rfl := hname <;> obtain rfl | rfl := hother
  · simpa using htexts.symm
  · simp at hends
  · simp at hends
  · simpa using htexts.symm

/-- INTERNAL: a storage key has one tenant, one pathname and one client key. -/
theorem storageKey_injective {a b : CreateRequest} (h : a.storageKey = b.storageKey) :
    a.tenantId = b.tenantId ∧ a.pathname = b.pathname ∧ a.clientKey = b.clientKey := by
  have htenant := tenant_of_storageKey h
  have htexts := congrArg String.toList h
  simp only [CreateRequest.storageKey, FieldReports.idempotencyKeyFor, String.toList_append,
    htenant, List.append_assoc, List.append_cancel_left_eq] at htexts
  have hextended : ∀ {first second : CreateRequest} {more : List Char},
      first.pathname.toList = second.pathname.toList ++ more →
      ":".toList ++ second.clientKey.toList = more ++ (":".toList ++ first.clientKey.toList) →
      more = [] := by
    intro first second more hpathname hrest
    cases more with
    | nil => rfl
    | cons c more =>
      obtain rfl : ':' = c := (List.cons.inj hrest).1
      have hrouted := first.routed
      rw [show first.pathname = second.pathname ++ String.ofList (':' :: more) by
        rw [← String.toList_inj, hpathname]
        simp] at hrouted
      exact (not_extended second.routed hrouted).elim
  obtain ⟨more, hpathname, hrest⟩ | ⟨more, hpathname, hrest⟩ :=
    List.append_eq_append_iff.mp htexts
  · obtain rfl := hextended hpathname hrest
    refine ⟨htenant, ?_, ?_⟩
    · rw [← String.toList_inj, hpathname, List.append_nil]
    · rw [← String.toList_inj]
      simpa using hrest
  · obtain rfl := hextended hpathname hrest
    refine ⟨htenant, ?_, ?_⟩
    · rw [← String.toList_inj, hpathname, List.append_nil]
    · rw [← String.toList_inj]
      simpa using hrest.symm

/-! ## Replays -/

section

variable {α : Type}

/-- What is kept was computed for a request with its key. -/
def KeptFor (log : List (CreateCall α × Option α)) (store : ResponseStore α) : Prop :=
  ∀ key entry, store.get key = some entry → ∃ request now,
    (.finish request entry.response now, none) ∈ log ∧ request.storageKey = key

/-- A response that is replayed was computed before for a request with the same key. -/
def Replayed (log : List (CreateCall α × Option α)) : Prop :=
  ∀ before after request now response,
    log = before ++ (.lookup request now, some response) :: after →
      ∃ other done, (.finish other response done, none) ∈ before ∧
        other.storageKey = request.storageKey

theorem KeptFor.append {log : List (CreateCall α × Option α)} {store : ResponseStore α}
    (h : KeptFor log store) (entry : CreateCall α × Option α) : KeptFor (log ++ [entry]) store := by
  intro key kept hget
  obtain ⟨request, now, hmem, hkey⟩ := h key kept hget
  exact ⟨request, now, List.mem_append_left _ hmem, hkey⟩

theorem Replayed.append {log : List (CreateCall α × Option α)} (h : Replayed log)
    {entry : CreateCall α × Option α}
    (hentry : ∀ request now response, entry = (.lookup request now, some response) →
      ∃ other done, (.finish other response done, none) ∈ log ∧
        other.storageKey = request.storageKey) : Replayed (log ++ [entry]) := by
  intro before after request now response hsplit
  obtain rfl | ⟨middle, last, rfl⟩ := after.eq_nil_or_concat
  · obtain ⟨rfl, hlast⟩ := List.append_inj' hsplit rfl
    exact hentry request now response (List.cons.inj hlast).1
  · rw [List.concat_eq_append, ← List.cons_append, ← List.append_assoc] at hsplit
    obtain ⟨hlog, -⟩ := List.append_inj' hsplit rfl
    exact h before middle request now response hlog

/-- INTERNAL: one call of the store.
SOURCE: apps/api/src/reliability/idempotency.js:8-22 -/
theorem replayStore_step {succeeded : α → Bool} {log : List (CreateCall α × Option α)}
    {store : ResponseStore α} (hkept : KeptFor log store) (hreplayed : Replayed log)
    (c : CreateCall α) :
    KeptFor (log ++ [(c, ((replayStore succeeded).call c store).1)])
        ((replayStore succeeded).call c store).2 ∧
      Replayed (log ++ [(c, ((replayStore succeeded).call c store).1)]) := by
  cases c with
  | lookup request now =>
    simp only [replayStore, ResponseStore.lookup]
    cases hget : store.get request.storageKey with
    | none => exact ⟨hkept.append _, hreplayed.append (by simp)⟩
    | some entry =>
      by_cases hexpired : now ≥ entry.expiresAt
      · simp only [hexpired, if_true]
        refine ⟨fun key kept hkey => ?_, hreplayed.append (by simp)⟩
        rw [OrderedMap.get_erase] at hkey
        split at hkey
        · cases hkey
        · exact hkept.append _ key kept hkey
      · simp only [hexpired, if_false]
        refine ⟨hkept.append _, hreplayed.append ?_⟩
        rintro asked asking response heq
        obtain ⟨other, done, hmem, hother⟩ := hkept _ entry hget
        simp only [Prod.mk.injEq, CreateCall.lookup.injEq, Option.some.injEq] at heq
        obtain ⟨⟨rfl, -⟩, rfl⟩ := heq
        exact ⟨other, done, hmem, hother⟩
  | finish request response now =>
    simp only [replayStore, ResponseStore.keep]
    refine ⟨?_, hreplayed.append (by simp)⟩
    split
    · intro key kept hkey
      rw [OrderedMap.get_set] at hkey
      split at hkey
      · rename_i hsame
        obtain rfl := Option.some.inj hkey
        exact ⟨request, now, by simp, by simp_all⟩
      · exact hkept.append _ key kept hkey
    · exact hkept.append _

/-- **Replayed responses.** Two requests have one storage key exactly when they have one tenant, one
pathname and one client key; along every run of requests on the store, whatever comes between the
two calls of one of them, a response that is replayed was computed before for such a request. -/
theorem responses_replayed (a b : CreateRequest) (succeeded : α → Bool)
    (calls : List (CreateCall α)) :
    (a.storageKey = b.storageKey ↔
      a.tenantId = b.tenantId ∧ a.pathname = b.pathname ∧ a.clientKey = b.clientKey) ∧
    ∀ before after request now response,
      ((replayStore succeeded).run .empty calls).1 =
          before ++ (.lookup request now, some response) :: after →
        ∃ other done, (.finish other response done, none) ∈ before ∧
          other.tenantId = request.tenantId ∧ other.pathname = request.pathname ∧
            other.clientKey = request.clientKey := by
  constructor
  · refine ⟨storageKey_injective, ?_⟩
    rintro ⟨htenant, hpathname, hclientKey⟩
    rw [CreateRequest.storageKey, CreateRequest.storageKey, htenant, hpathname, hclientKey]
  · have hkept : KeptFor [] (OrderedMap.empty : ResponseStore α) := by
      intro key entry hget
      rw [OrderedMap.get_empty] at hget
      cases hget
    have hreplayed : Replayed ([] : List (CreateCall α × Option α)) := by
      intro before after request now response hsplit
      simp at hsplit
    have hrun := (replayStore succeeded).history
      (I := fun log store => KeptFor log store ∧ Replayed log) ⟨hkept, hreplayed⟩
      (fun log store c h => replayStore_step h.1 h.2 c) calls
    intro before after request now response hsplit
    obtain ⟨other, done, hmem, hkey⟩ := hrun.2 before after request now response hsplit
    exact ⟨other, done, hmem, storageKey_injective hkey⟩

end

/-- A request that creates a project. -/
def projectRequest : CreateRequest where
  tenantId := "a:b"
  pathname := "/v1/tenants/a:b/projects"
  routed := by decide
  clientKey := "c:1"
  usable := by decide

/-- `responses_replayed` where a response is replayed. -/
theorem responses_replayed_once :
    ((replayStore fun _ : ℕ => true).run .empty
        [.finish projectRequest 7 0, .lookup projectRequest 1]).1 =
      [(.finish projectRequest 7 0, none), (.lookup projectRequest 1, some 7)] ∧
    ∃ other done, (CreateCall.finish other 7 done, none) ∈
        [(CreateCall.finish projectRequest 7 0, (none : Option ℕ))] ∧
      other.tenantId = projectRequest.tenantId := by
  have hrun : ((replayStore fun _ : ℕ => true).run .empty
      [.finish projectRequest 7 0, .lookup projectRequest 1]).1 =
        [(.finish projectRequest 7 0, none), (.lookup projectRequest 1, some 7)] := by
    rfl
  obtain ⟨other, done, hmem, htenant, -⟩ :=
    (responses_replayed projectRequest projectRequest (fun _ : ℕ => true)
      [.finish projectRequest 7 0, .lookup projectRequest 1]).2
      [(.finish projectRequest 7 0, none)] [] projectRequest 1 7 hrun
  exact ⟨hrun, other, done, hmem, htenant⟩

end Xygo.Analysis
