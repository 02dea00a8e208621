import Xygo.Model.Communication

/-!
# The members of restricted channels

On a channel whose visibility class asks for a membership, the memberships decide who stays out, and
the policy decides who gets in; but its rule for channels lists the visibility classes it is about,
and these are not among them. So nobody gets in (`restricted_denied`), and members are treated as
they should be exactly where there are none (`members_admitted_iff`).
-/

set_option autoImplicit false

namespace Xygo.Analysis

open Xygo.Computation Xygo.Model

/-- The visibility classes that ask for a membership. -/
def membersOnly : List VisibilityClass :=
  [.private, .financeRestricted, .legalRestricted, .restrictedControl]

/-- Whether the user of a session is a member of a channel. -/
def isMember (session : Session) (channel : Channel) (memberships : List ChannelMembership) :
    Bool :=
  memberships.any fun membership =>
    membership.channelId = channel.id && membership.userId = session.userId

/-- What a membership must decide on a channel.

`access`: the session may access the channel exactly as a member.
`send`: a message is refused for lack of access exactly to others.
`search`: of the messages in the channel that have the query, a member finds all and others none.
`read`: a message is marked as read exactly for a member. -/
structure AdmitsMembers (P : Platform) (session : Session) (channel : Channel)
    (memberships : List ChannelMembership) : Prop where
  access : ∃ decision, canAccessChannel session channel memberships = .ok decision ∧
    (decision.allowed = true ↔ isMember session channel memberships = true)
  send : ∀ messageInput notificationPreferences audit outbox,
    (∃ reason, sendMessage P session channel memberships messageInput notificationPreferences
        audit outbox = .error (newError ("Message send denied: " ++ reason))) ↔
      isMember session channel memberships = false
  search : ∀ (channelMap : OrderedMap String Channel) (messages : List Message) (query : String),
    trim query ≠ "" →
    (∀ message ∈ messages, channelMap.get message.channelId = some channel ∧
      includes (P.toLowerCase message.body) (P.toLowerCase query) = true) →
    searchMessages P session channelMap memberships messages query =
      .ok (if isMember session channel memberships then messages else [])
  read : ∀ messageId,
    (∃ record, markMessageRead session messageId channel memberships = .ok record) ↔
      isMember session channel memberships = true

section

variable {session : Session} {channel : Channel} {memberships : List ChannelMembership}

/-! ## The policy -/

/-- INTERNAL: the rule of the policy on reading channels.
SOURCE: packages/authorization/src/policy.js:41-46 -/
theorem channelRule : (allowMatrix.find? fun rule =>
      rule.resource = "channel" && rule.action = "read") =
    some { resource := "channel"
           action := "read"
           organizationRoles := ["platform_admin", "company_admin", "supervisor", "employee"]
           visibilityClasses := some ["participant_only", "team_only", "department_only",
             "project_only", "company_public_summary"] } := by
  rfl

/-- INTERNAL: no rule is about reading announcement channels. -/
theorem announcementRule : (allowMatrix.find? fun rule =>
    rule.resource = "announcement_channel" && rule.action = "read") = none := by
  rfl

/-- INTERNAL: the rule on channels leaves out the classes that ask for a membership. -/
theorem class_not_listed (hclass : channel.visibilityClass ∈ membersOnly) :
    channel.visibilityClass.text ∉ ["participant_only", "team_only", "department_only",
      "project_only", "company_public_summary"] := by
  revert hclass
  cases channel.visibilityClass <;> decide

/-- INTERNAL: the policy denies every channel of such a class.
SOURCE: packages/authorization/src/policy.js:126-148 -/
theorem policy_denies (session : Session) (projectRole : Option String)
    (hclass : channel.visibilityClass ∈ membersOnly) :
    baseCommunicationDecision session channel "read" projectRole ≠ .allowed := by
  intro h
  unfold baseCommunicationDecision canPerform at h
  by_cases hannounce : channel.channelType = .announcementChannel
  · simp only [hannounce, if_true, announcementRule] at h
    cases h
  · simp only [hannounce, if_false, channelRule, Option.any_some, class_not_listed hclass,
      decide_false, Bool.not_false, if_true] at h
    split at h <;> cases h

/-! ## The operations -/

/-- INTERNAL: nobody gets into a channel of such a class.
SOURCE: packages/communication/src/index.js:199-222 -/
theorem restricted_denied (memberships : List ChannelMembership) (hstaged : session.staged = true)
    (htenant : session.tenantId = channel.tenantId)
    (hclass : channel.visibilityClass ∈ membersOnly) :
    ∃ reason, canAccessChannel session channel memberships =
      .ok { allowed := false, reason := reason } := by
  have hsession : assertSessionTenantAccess (some session.toSyntheticSession) channel.tenantId =
      .ok session.toSyntheticSession := by
    simp [assertSessionTenantAccess, hstaged, htenant]
  have hpolicy := policy_denies session ((session.projectRoles.find? fun entry =>
    entry.projectId = channel.projectId).bind (·.role)) hclass
  unfold canAccessChannel
  rw [hsession]
  by_cases hprivate : channel.visibilityClass = .private ∧
      (findChannelMembership memberships channel.id session.userId).isNone
  · exact ⟨"private_membership_required", if_pos hprivate⟩
  · exact ⟨_, (if_neg hprivate).trans (if_pos hpolicy)⟩

/-- INTERNAL: so a message is refused, nothing is found, and nothing is marked as read. -/
theorem restricted_operations (P : Platform) (memberships : List ChannelMembership)
    (hstaged : session.staged = true) (htenant : session.tenantId = channel.tenantId)
    (hclass : channel.visibilityClass ∈ membersOnly) :
    (∀ messageInput notificationPreferences audit outbox, ∃ reason,
        sendMessage P session channel memberships messageInput notificationPreferences audit
          outbox = .error (newError ("Message send denied: " ++ reason))) ∧
      (∀ (channelMap : OrderedMap String Channel) (messages : List Message) (query : String),
        trim query ≠ "" →
        (∀ message ∈ messages, channelMap.get message.channelId = some channel) →
        searchMessages P session channelMap memberships messages query = .ok []) ∧
      ∀ messageId record, markMessageRead session messageId channel memberships ≠ .ok record := by
  obtain ⟨reason, hdenied⟩ := restricted_denied memberships hstaged htenant hclass
  refine ⟨?_, ?_, ?_⟩
  · intro messageInput notificationPreferences audit outbox
    refine ⟨reason, ?_⟩
    unfold sendMessage
    rw [hdenied]
    rfl
  · intro channelMap messages query hquery hmessages
    have htest : ∀ message ∈ messages,
        isFound P session channelMap memberships query message = .ok false := by
      intro message hmessage
      unfold isFound
      rw [hmessages message hmessage]
      dsimp only
      rw [hdenied]
      rfl
    rw [searchMessages, if_neg hquery, filterE_of_ok htest]
    simp
  · intro messageId record
    unfold markMessageRead
    rw [hdenied]
    intro h
    cases h

/-- **Members of restricted channels.** On a channel that asks for a membership, of the session's
own tenant, members get access and others none, if and only if the session has no membership in the
channel, whatever its roles are.
SOURCE: packages/communication/src/index.js:186-249 -/
theorem members_admitted_iff (P : Platform) (session : Session) (channel : Channel)
    (memberships : List ChannelMembership) (hstaged : session.staged = true)
    (htenant : session.tenantId = channel.tenantId)
    (hclass : channel.visibilityClass ∈ membersOnly) :
    AdmitsMembers P session channel memberships ↔
      isMember session channel memberships = false := by
  obtain ⟨reason, hdenied⟩ := restricted_denied memberships hstaged htenant hclass
  obtain ⟨hsend, hsearch, hread⟩ :=
    restricted_operations P memberships hstaged htenant hclass
  constructor
  · intro h
    obtain ⟨decision, hdecision, hallowed⟩ := h.access
    rw [hdenied] at hdecision
    obtain rfl := Except.ok.inj hdecision
    simpa using hallowed
  · intro hnone
    refine ⟨⟨_, hdenied, by simp [hnone]⟩, ?_, ?_, ?_⟩
    · intro messageInput notificationPreferences audit outbox
      exact iff_of_true (hsend messageInput notificationPreferences audit outbox) hnone
    · intro channelMap messages query hquery hmessages
      rw [hnone]
      exact hsearch channelMap messages query hquery fun m hm => (hmessages m hm).1
    · intro messageId
      refine iff_of_false ?_ (by simp [hnone])
      rintro ⟨record, hrecord⟩
      exact hread messageId record hrecord

end

/-- An employee of `tenant-a`. -/
def employee : Session where
  tenantId := "tenant-a"
  userId := "user-a"

/-- A private channel of the same tenant. -/
def privateChannel : Channel where
  id := "channel-a"
  tenantId := "tenant-a"
  channelType := .directMessage
  visibilityClass := .private

/-- The membership of the employee in the channel. -/
def employeeMembership : ChannelMembership where
  tenantId := "tenant-a"
  channelId := "channel-a"
  userId := "user-a"

/-- A case mapping that leaves the texts below as they are. -/
def letterPlatform : Platform := ⟨fun _ => "", fun _ _ => "", id⟩

/-- Without a membership the employee is kept out, as it should be. -/
theorem members_admitted_outsider : AdmitsMembers letterPlatform employee privateChannel [] :=
  (members_admitted_iff letterPlatform employee privateChannel [] rfl rfl (by decide)).mpr rfl

/-- A member of a private channel is kept out of it. -/
theorem private_member_denied :
    isMember employee privateChannel [employeeMembership] = true ∧
      canAccessChannel employee privateChannel [employeeMembership] =
        .ok { allowed := false, reason := "visibility_class_denied" } :=
  ⟨by decide, by rfl⟩

end Xygo.Analysis
