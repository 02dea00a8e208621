import Xygo.Model.Communication

/-!
# Searching messages across tenants

A search keeps the messages of the channels the session may access that have the query. Its test
throws on a channel of another tenant where it is meant to reject: the search of a session then has
no result at all. So it finds what it should, whatever other tenants have, exactly where no message
lies in a channel of another tenant (`search_isolated_iff`).
-/

set_option autoImplicit false

namespace Xygo.Analysis

open Xygo.Computation Xygo.Model

section

variable (session : Session) (channelMap : OrderedMap String Channel)
  (memberships : List ChannelMembership)

/-- Whether a session may access a channel. -/
def mayAccess (channel : Channel) : Bool :=
  match canAccessChannel session channel memberships with
  | .ok decision => decision.allowed
  | .error _ => false

/-- Whether a message is to be found. -/
def isToBeFound (P : Platform) (query : String) (message : Message) : Bool :=
  ((channelMap.get message.channelId).any (mayAccess session memberships)) &&
    includes (P.toLowerCase message.body) (P.toLowerCase query)

/-- The channels of the session's tenant. -/
def ownChannels : OrderedMap String Channel :=
  channelMap.filter fun _ channel => channel.tenantId = session.tenantId

/-- Whether a message lies in no channel of another tenant. -/
def isOwnMessage (message : Message) : Bool :=
  (channelMap.get message.channelId).all fun channel => channel.tenantId = session.tenantId

/-- What a search must give: the messages to be found, and the same without the channels and the
messages of other tenants. -/
structure IsIsolated (P : Platform) (messages : List Message) (query : String) : Prop where
  found : searchMessages P session channelMap memberships messages query =
    .ok (messages.filter (isToBeFound session channelMap memberships P query))
  alone : searchMessages P session (ownChannels session channelMap) memberships
      (messages.filter (isOwnMessage session channelMap)) query =
    searchMessages P session channelMap memberships messages query

end

section

variable {P : Platform} {session : Session} {channelMap : OrderedMap String Channel}
  {memberships : List ChannelMembership}

/-- INTERNAL: the guard of an access throws exactly on another tenant, or without staging.
SOURCE: packages/communication/src/index.js:199-200; packages/auth/src/synthetic-auth.js:27-35 -/
theorem canAccessChannel_ok_iff (session : Session) (channel : Channel)
    (memberships : List ChannelMembership) :
    (∃ decision, canAccessChannel session channel memberships = .ok decision) ↔
      session.staged = true ∧ channel.tenantId = session.tenantId := by
  constructor
  · rintro ⟨decision, h⟩
    unfold canAccessChannel at h
    cases hguard : assertSessionTenantAccess (some session.toSyntheticSession)
        channel.tenantId with
    | error e =>
      rw [hguard] at h
      cases h
    | ok own =>
      unfold assertSessionTenantAccess at hguard
      dsimp only at hguard
      split at hguard
      · cases hguard
      · rename_i hstaged
        split at hguard
        · cases hguard
        · rename_i htenant
          exact ⟨by simpa using hstaged, (not_not.mp htenant).symm⟩
  · rintro ⟨hstaged, htenant⟩
    have hguard : assertSessionTenantAccess (some session.toSyntheticSession)
        channel.tenantId = .ok session.toSyntheticSession := by
      simp [assertSessionTenantAccess, hstaged, htenant]
    cases haccess : canAccessChannel session channel memberships with
    | ok decision => exact ⟨decision, rfl⟩
    | error e =>
      unfold canAccessChannel at haccess
      rw [hguard] at haccess
      -- Behind the guard every branch returns.
      simp only [bind, Except.bind, pure, Except.pure] at haccess
      split_ifs at haccess

/-- INTERNAL: the test of a message answers unless the message lies in a channel of another tenant.
SOURCE: packages/communication/src/index.js:361-378 -/
theorem isFound_ok_iff (query : String) (message : Message) :
    (∃ found, isFound P session channelMap memberships query message = .ok found) ↔
      ∀ channel, channelMap.get message.channelId = some channel →
        session.staged = true ∧ channel.tenantId = session.tenantId := by
  unfold isFound
  cases hchannel : channelMap.get message.channelId with
  | none => simp
  | some channel =>
    simp only [Option.some.injEq, forall_eq']
    rw [← canAccessChannel_ok_iff session channel memberships]
    cases canAccessChannel session channel memberships with
    | error e =>
      constructor
      · rintro ⟨found, h⟩
        cases h
      · rintro ⟨decision, h⟩
        cases h
    | ok decision => exact iff_of_true ⟨_, rfl⟩ ⟨_, rfl⟩

/-- INTERNAL: where the test answers, it finds what is to be found. -/
theorem isFound_eq {query : String} {message : Message} {found : Bool}
    (h : isFound P session channelMap memberships query message = .ok found) :
    found = isToBeFound session channelMap memberships P query message := by
  unfold isFound at h
  unfold isToBeFound
  cases hchannel : channelMap.get message.channelId with
  | none =>
    rw [hchannel] at h
    cases h
    rfl
  | some channel =>
    rw [hchannel] at h
    dsimp only at h
    rw [Option.any_some, mayAccess]
    cases haccess : canAccessChannel session channel memberships with
    | error e =>
      rw [haccess] at h
      cases h
    | ok decision =>
      rw [haccess] at h
      exact (Except.ok.inj h).symm

/-- INTERNAL: without messages in foreign channels a search is one of the own tenant. -/
theorem search_alone {messages : List Message} (query : String)
    (h : ∀ message ∈ messages, ∀ channel, channelMap.get message.channelId = some channel →
      channel.tenantId = session.tenantId) :
    searchMessages P session (ownChannels session channelMap) memberships
        (messages.filter (isOwnMessage session channelMap)) query =
      searchMessages P session channelMap memberships messages query := by
  have hown : messages.filter (isOwnMessage session channelMap) = messages := by
    rw [List.filter_eq_self]
    intro message hmessage
    rw [isOwnMessage, Option.all_eq_true]
    intro channel hchannel
    exact decide_eq_true (h message hmessage channel hchannel)
  rw [hown]
  unfold searchMessages
  congr 1
  apply filterE_congr
  intro message hmessage
  have hget : (ownChannels session channelMap).get message.channelId =
      channelMap.get message.channelId := by
    rw [ownChannels, OrderedMap.get_filter]
    cases hchannel : channelMap.get message.channelId with
    | none => rfl
    | some channel =>
      have htenant := h message hmessage channel hchannel
      simp [Option.filter, htenant]
  unfold isFound
  rw [hget]

/-- **Isolated searches.** A blank query is refused, whatever there is to search. A search for
another one finds exactly the messages of the channels the session may access that have the query,
and finds the same without the channels and messages of other tenants, if and only if every message
that lies in a channel of the map lies in one of the session's tenant (and the session is a staged
one, as all sessions are).
SOURCE: packages/communication/src/index.js:357-379 -/
theorem search_isolated_iff (P : Platform) (session : Session)
    (channelMap : OrderedMap String Channel) (memberships : List ChannelMembership)
    (messages : List Message) (query : String) :
    (trim query = "" → searchMessages P session channelMap memberships messages query =
        .error (newError "Search query is required.")) ∧
      (trim query ≠ "" →
        (IsIsolated session channelMap memberships P messages query ↔
          ∀ message ∈ messages, ∀ channel, channelMap.get message.channelId = some channel →
            session.staged = true ∧ channel.tenantId = session.tenantId)) := by
  refine ⟨fun hblank => if_pos hblank, fun hquery => ⟨?_, ?_⟩⟩
  · intro h message hmessage
    have hfound := h.found
    rw [searchMessages, if_neg hquery] at hfound
    exact (isFound_ok_iff query message).mp (ok_of_filterE hfound message hmessage)
  · intro h
    refine ⟨?_, search_alone query fun message hmessage channel hchannel =>
      (h message hmessage channel hchannel).2⟩
    rw [searchMessages, if_neg hquery]
    apply filterE_of_ok
    intro message hmessage
    obtain ⟨found, hfound⟩ : ∃ found,
        isFound P session channelMap memberships query message = .ok found :=
      (isFound_ok_iff query message).mpr (h message hmessage)
    rw [hfound, isFound_eq hfound]

end

/-- A user of `tenant-a`. -/
def searcher : Session where
  tenantId := "tenant-a"
  userId := "user-a"

/-- A channel for a team of a tenant. -/
def teamChannel (id tenantId : String) : Channel where
  id := id
  tenantId := tenantId
  channelType := .teamChannel
  visibilityClass := .teamOnly

/-- The channels of two tenants. -/
def twoChannels : OrderedMap String Channel :=
  (OrderedMap.empty.set "a" (teamChannel "a" "tenant-a")).set "b" (teamChannel "b" "tenant-b")

/-- A message in a channel. -/
def messageIn (channelId tenantId : String) : Message where
  id := "message-" ++ channelId
  tenantId := tenantId
  channelId := channelId
  senderUserId := "user-b"
  body := "permit"

/-- A case mapping that leaves lower-case texts as they are. -/
def lowerCased : Platform := ⟨fun _ => "", fun _ _ => "", id⟩

/-- A message of the other tenant ends the search that finds the own message without it. -/
theorem foreign_message_ends_search :
    searchMessages lowerCased searcher twoChannels [] [messageIn "a" "tenant-a"] "permit" =
        .ok [messageIn "a" "tenant-a"] ∧
      searchMessages lowerCased searcher twoChannels []
          [messageIn "a" "tenant-a", messageIn "b" "tenant-b"] "permit" =
        .error (newError "Tenant access denied.") :=
  ⟨by rfl, by rfl⟩

end Xygo.Analysis
