import Xygo.Computation.Filters
import Xygo.Model.Authorization
import Xygo.Model.FindingRoutes
import Xygo.Model.Permits

/-!
# Channels and messages

`packages/communication` and the sessions of `packages/auth`: who may read a channel, and what is
sent, found and marked as read in one. Two layers decide on an access: the memberships and the
project scope here, and the roles and visibility classes of the access policy.
-/

set_option autoImplicit false

namespace Xygo.Model

open Xygo.Computation

/-! ### Sessions -/

/-- The role of a user in a project. -/
structure ProjectRole where
  projectId : Option String
  role : Option String

/-- What `createSyntheticSession` returns: a session with the roles of its user.
SOURCE: packages/auth/src/synthetic-auth.js:7-25 -/
structure Session extends SyntheticSession where
  organizationRole : String := "employee"
  projectRoles : List ProjectRole := []

/-! ### Channels -/

/-- `CHANNEL_TYPE_SET`
SOURCE: packages/communication/src/index.js:5-18 -/
inductive ChannelType
  | directMessage
  | groupMessage
  | teamChannel
  | departmentChannel
  | crossTeamChannel
  | projectChannel
  | disciplineChannel
  | coordinationChannel
  | executiveChannel
  | financeRestrictedChannel
  | legalRestrictedChannel
  | announcementChannel
  deriving DecidableEq, Repr

/-- `VISIBILITY_CLASS_SET`
SOURCE: packages/communication/src/index.js:20-32 -/
inductive VisibilityClass
  | «private»
  | participantOnly
  | teamOnly
  | departmentOnly
  | projectOnly
  | disciplineRestricted
  | restrictedControl
  | financeRestricted
  | legalRestricted
  | executiveOversight
  | companyPublicSummary
  deriving DecidableEq, Repr

/-- The text of a visibility class. -/
def VisibilityClass.text : VisibilityClass → String
  | .private => "private"
  | .participantOnly => "participant_only"
  | .teamOnly => "team_only"
  | .departmentOnly => "department_only"
  | .projectOnly => "project_only"
  | .disciplineRestricted => "discipline_restricted"
  | .restrictedControl => "restricted_control"
  | .financeRestricted => "finance_restricted"
  | .legalRestricted => "legal_restricted"
  | .executiveOversight => "executive_oversight"
  | .companyPublicSummary => "company_public_summary"

/-- What `createChannel` returns; the team, the department, the name and the creator are left out.
SOURCE: packages/communication/src/index.js:62-88 -/
structure Channel where
  id : String
  tenantId : String
  channelType : ChannelType
  visibilityClass : VisibilityClass
  projectId : Option String := none

/-- What `createChannelMembership` returns, without its own id and role.
SOURCE: packages/communication/src/index.js:90-108 -/
structure ChannelMembership where
  tenantId : String
  channelId : String
  userId : String

/-- What `createNotificationPreference` returns, without the preference on mentions, which nothing
reads.
SOURCE: packages/communication/src/index.js:110-122 -/
structure NotificationPreference where
  userId : String
  tenantId : String
  mutedChannelIds : List String := []
  announcementNotifications : Bool := true

/-- `findChannelMembership`
SOURCE: packages/communication/src/index.js:180-184 -/
def findChannelMembership (channelMemberships : List ChannelMembership)
    (channelId userId : String) : Option ChannelMembership :=
  channelMemberships.find? fun membership =>
    membership.channelId = channelId && membership.userId = userId

/-- `baseCommunicationDecision`
SOURCE: packages/communication/src/index.js:186-197 -/
def baseCommunicationDecision (session : Session) (channel : Channel) (action : String)
    (projectRole : Option String) : AccessReason :=
  canPerform {
    tenantId := session.tenantId
    resourceTenantId := channel.tenantId
    organizationRole := some session.organizationRole
    projectRole := projectRole
    resource :=
      if channel.channelType = .announcementChannel then "announcement_channel" else "channel"
    action := action
    visibilityClass := some channel.visibilityClass.text }

/-- A decision on a channel. -/
structure ChannelDecision where
  allowed : Bool
  reason : String
  deriving DecidableEq, Repr

/-- `canAccessChannel`
SOURCE: packages/communication/src/index.js:199-249 -/
def canAccessChannel (session : Session) (channel : Channel)
    (memberships : List ChannelMembership) : Except JsError ChannelDecision := do
  let _ ← assertSessionTenantAccess (some session.toSyntheticSession) channel.tenantId
  let membership := findChannelMembership memberships channel.id session.userId
  if channel.visibilityClass = .private ∧ membership.isNone then
    return { allowed := false, reason := "private_membership_required" }
  let projectRole := (session.projectRoles.find? fun entry =>
    entry.projectId = channel.projectId).bind (·.role)
  let decision := baseCommunicationDecision session channel "read" projectRole
  if decision ≠ .allowed then
    return { allowed := false, reason := decision.text }
  if channel.visibilityClass = .projectOnly ∧
      channel.projectId.any fun projectId =>
        projectId ≠ "" && decide (projectId ∉ session.allowedProjectIds) then
    return { allowed := false, reason := "project_scope_required" }
  if channel.visibilityClass ∈ [.financeRestricted, .legalRestricted, .restrictedControl] ∧
      membership.isNone then
    return { allowed := false, reason := "restricted_membership_required" }
  return { allowed := true, reason := "allowed" }

/-! ### Messages -/

/-- The characters of `[a-z0-9._-]`, in both cases. -/
def isMentionChar (c : Char) : Bool :=
  c.isAlphanum || c = '.' || c = '_' || c = '-'

/-- The names behind an `@`, as the pattern finds them one after the other: a name has no `@`. -/
def mentionsIn : List Char → List String
  | [] => []
  | c :: rest =>
    let name := rest.takeWhile isMentionChar
    if c = '@' ∧ name ≠ [] then String.ofList name :: mentionsIn rest else mentionsIn rest

/-- A message. -/
structure Message where
  id : String
  tenantId : String
  channelId : String
  senderUserId : String
  body : String
  threadRootId : Json := .null
  mentions : List String := []
  attachments : Json := .array []
  references : Json := .array []
  revision : Json := .number "1"
  deleted : Bool := false
  staged : Bool := true

/-- `{ ...value, ...members }` -/
def spreadMembers (value : Json) (members : List (String × Json)) : Json :=
  match value with
  | .object own => .object (own.filter (fun member => (members.lookup member.1).isNone) ++ members)
  | _ => .object members

section

variable (P : Platform)

/-- `parseMentions`
SOURCE: packages/communication/src/index.js:124-128 -/
def parseMentions (body : String) : List String := (mentionsIn body.toList).map P.toLowerCase

/-- `createMessage`
SOURCE: packages/communication/src/index.js:144-166 -/
def createMessage (input : Json) : Except JsError Message := do
  let id ← input.requiredString "id" "Message id"
  let tenantId ← input.requiredString "tenantId" "Message tenantId"
  let channelId ← input.requiredString "channelId" "Message channelId"
  let senderUserId ← input.requiredString "senderUserId" "Message senderUserId"
  let body ← input.requiredString "body" "Message body"
  requiredArray (input.orElse "attachments" (.array [])) "Message attachments"
  return {
    id := id
    tenantId := tenantId
    channelId := channelId
    senderUserId := senderUserId
    body := body
    threadRootId := input.orElse "threadRootId" .null
    mentions := parseMentions P body
    attachments := input.orElse "attachments" (.array [])
    references := input.orElse "references" (.array [])
    revision := input.orElse "revision" (.number "1") }

/-- A notification of a message. -/
structure NotificationEvent where
  id : String
  tenantId : String
  userId : String
  channelId : String
  messageId : String
  type : String
  staged : Bool := true

/-- Whether a membership of the channel is notified.
SOURCE: packages/communication/src/index.js:324-342 -/
def isNotified (message : Message) (channel : Channel) (senderUserId : String)
    (notificationPreferences : List NotificationPreference) (membership : ChannelMembership) :
    Bool :=
  let preference := notificationPreferences.find? fun item => item.userId = membership.userId
  let channelMuted := preference.any fun item => channel.id ∈ item.mutedChannelIds
  let mentioned := decide (P.toLowerCase membership.userId ∈ message.mentions)
  let announcementsOff := preference.any fun item => !item.announcementNotifications
  decide (membership.channelId = channel.id) && decide (membership.userId ≠ senderUserId) &&
    !(channelMuted && !mentioned) &&
    !(decide (channel.channelType = .announcementChannel) && announcementsOff)

/-- `buildNotificationEvents`
SOURCE: packages/communication/src/index.js:315-355 -/
def buildNotificationEvents (message : Message) (channel : Channel)
    (channelMemberships : List ChannelMembership)
    (notificationPreferences : List NotificationPreference) (senderUserId : String) :
    List NotificationEvent :=
  let recipientIds := ((channelMemberships.filter
    (isNotified P message channel senderUserId notificationPreferences)).map (·.userId)).reverse
  -- A set keeps the first of the ids that repeat.
  recipientIds.dedup.reverse.map fun userId =>
    { id := "notification-" ++ message.id ++ "-" ++ userId
      tenantId := channel.tenantId
      userId := userId
      channelId := channel.id
      messageId := message.id
      type := if P.toLowerCase userId ∈ message.mentions then "mention" else "channel_message" }

/-- What `sendMessage` returns. -/
structure SentMessage where
  message : Message
  auditEvent : AuditEvent
  outboxEvent : OutboxEvent
  notifications : List NotificationEvent

/-- `sendMessage`
SOURCE: packages/communication/src/index.js:251-313 -/
def sendMessage (session : Session) (channel : Channel)
    (channelMemberships : List ChannelMembership) (messageInput : Json)
    (notificationPreferences : List NotificationPreference) (audit : AuditDraw)
    (outbox : OutboxDraw) : Except JsError SentMessage := do
  let channelDecision ← canAccessChannel session channel channelMemberships
  if !channelDecision.allowed then
    throw (newError ("Message send denied: " ++ channelDecision.reason))
  if let some projectId := channel.projectId.filter (· ≠ "") then
    assertProjectAccess session.toSyntheticSession projectId
  let message ← createMessage P (spreadMembers messageInput
    [("tenantId", .string channel.tenantId), ("channelId", .string channel.id),
      ("senderUserId", .string session.userId)])
  let auditEvent ← createAuditEvent P {
    tenantId := channel.tenantId
    actorType := some "user"
    actorId := some session.userId
    action := "message.sent"
    resourceType := "message"
    resourceId := message.id } audit
  let outboxEvent ← createOutboxEvent {
    eventType := "communication.message.sent"
    aggregateType := "message"
    aggregateId := message.id
    tenantId := some channel.tenantId
    payload := some (.object [("channelId", .string channel.id),
      ("mentions", .array (message.mentions.map .string))]) } outbox
  return {
    message := message
    auditEvent := auditEvent
    outboxEvent := outboxEvent
    notifications := buildNotificationEvents P message channel channelMemberships
      notificationPreferences session.userId }

/-- The test of a message in `searchMessages`.
SOURCE: packages/communication/src/index.js:361-378 -/
def isFound (session : Session) (channelMap : OrderedMap String Channel)
    (channelMemberships : List ChannelMembership) (query : String) (message : Message) :
    Except JsError Bool :=
  match channelMap.get message.channelId with
  | none => .ok false
  | some channel => do
    let access ← canAccessChannel session channel channelMemberships
    return access.allowed && includes (P.toLowerCase message.body) (P.toLowerCase query)

/-- `searchMessages`
SOURCE: packages/communication/src/index.js:357-379 -/
def searchMessages (session : Session) (channelMap : OrderedMap String Channel)
    (channelMemberships : List ChannelMembership) (messages : List Message) (query : String) :
    Except JsError (List Message) :=
  if trim query = "" then .error (newError "Search query is required.")
  else filterE (isFound P session channelMap channelMemberships query) messages

end

/-- A read state. -/
structure ReadState where
  id : String
  tenantId : String
  channelId : String
  messageId : String
  userId : String
  staged : Bool := true

/-- `markMessageRead`
SOURCE: packages/communication/src/index.js:381-400 -/
def markMessageRead (session : Session) (messageId : String) (channel : Channel)
    (channelMemberships : List ChannelMembership) : Except JsError ReadState := do
  let access ← canAccessChannel session channel channelMemberships
  if !access.allowed then
    throw (newError ("Read state update denied: " ++ access.reason))
  return {
    id := "read-" ++ messageId ++ "-" ++ session.userId
    tenantId := channel.tenantId
    channelId := channel.id
    messageId := messageId
    userId := session.userId }

end Xygo.Model
