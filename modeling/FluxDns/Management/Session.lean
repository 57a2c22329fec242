import Mathlib.Data.List.MinMax
import Mathlib.Data.List.Sort
import FluxDns.Library.AssociationList
import FluxDns.Library.Execution
import FluxDns.Time

/-!
# The session store

Sessions with their refresh tokens, access tokens and one-time tickets, as three maps that are kept
in step.  Clock readings and random tokens are inputs of a call; every call works on the store as a
whole.
-/

namespace FluxDns.Management.Session

open Execution

abbrev Token := String

/-- A wall-clock reading in nanoseconds from the Unix epoch. -/
abbrev SystemTime := Int

def sessionAbsoluteTtl : Duration := 30 * 24 * 60 * 60 * second
def sessionIdleTtl : Duration := 24 * 60 * 60 * second
def sessionGlobalCapacity : Nat := 4096
def sessionPerUserCapacity : Nat := 16
def accessTokenTtl : Duration := 60 * 60 * second
def accessRenewWindow : Duration := 10 * 60 * second
def wsTicketTtl : Duration := 30 * second
def wsTicketGlobalCapacity : Nat := 128
def wsTicketPerSessionCapacity : Nat := 4

/-- What the store keeps of a session. -/
structure SessionRecord where
  username : String
  createdAt : Instant
  lastSeen : Instant
  expiresAt : Instant
  expiresAtUtc : SystemTime
  accessToken : Token
  accessExpiresAt : Instant
  accessExpiresAtUtc : SystemTime

/-- The session of an access token. -/
structure AccessRecord where
  sessionToken : Token
  expiresAt : Instant

/-- The session of a ticket. -/
structure WebSocketTicketRecord where
  sessionToken : Token
  expiresAt : Instant

/-- The maps behind the lock. -/
structure SessionData where
  sessions : Map Token SessionRecord
  accesses : Map Token AccessRecord
  websocketTickets : Map Token WebSocketTicketRecord

inductive SessionError where
  | randomSource
  | unavailable
  | timeFormat
  | capacity

/-- What a client sees of its session. -/
structure SessionView where
  user : String
  expiresAt : String

/-- A session with its access token. -/
structure AuthSession where
  session : SessionView
  accessToken : Token
  accessExpiresAtMs : Nat

/-- A new session with its token. -/
structure IssuedSession where
  token : Token
  view : AuthSession

/-- A new ticket and its end. -/
structure WebSocketTicket where
  ticket : Token
  expiresAtMs : Nat

/-- Both clocks, read by one call. -/
structure Reading where
  now : Instant
  utc : SystemTime

def millisSinceEpoch (time : SystemTime) : Option Nat :=
  if 0 ≤ time then some (time.toNat / 1000000) else none

section Views

variable (rfc3339 : SystemTime → Option String)

def sessionView (username : String) (expiresAt : SystemTime) : Except SessionError SessionView :=
  match rfc3339 expiresAt with
  | some text => .ok ⟨username, text⟩
  | none => .error .timeFormat

def authSession (record : SessionRecord) : Except SessionError AuthSession :=
  match millisSinceEpoch record.accessExpiresAtUtc with
  | none => .error .timeFormat
  | some millis =>
    if 9007199254740991 < millis then .error .timeFormat
    else
      match sessionView rfc3339 record.username record.expiresAtUtc with
      | .error error => .error error
      | .ok view => .ok ⟨view, record.accessToken, millis⟩

end Views

theorem accessToken_of_authSession {rfc3339 : SystemTime → Option String} {record : SessionRecord}
    {view : AuthSession} (viewed : authSession rfc3339 record = .ok view) :
    view.accessToken = record.accessToken := by
  unfold authSession at viewed
  split at viewed <;> try cases viewed
  split_ifs at viewed
  split at viewed <;> cases viewed
  rfl

/-- A session is live until its absolute end or until it was not seen for too long. -/
def SessionRecord.isLive (record : SessionRecord) (now : Instant) : Bool :=
  decide (now < record.expiresAt) &&
    decide (now.saturatingDurationSince record.lastSeen < sessionIdleTtl)

namespace SessionData

def empty : SessionData := ⟨∅, ∅, ∅⟩

variable (data : SessionData)

def removeSession (token : Token) : SessionData where
  sessions := data.sessions.erase token
  accesses := data.accesses.retain fun _ access => access.sessionToken != token
  websocketTickets := data.websocketTickets.retain fun _ ticket => ticket.sessionToken != token

def purgeExpired (now : Instant) : SessionData :=
  let sessions := data.sessions.retain fun _ session => session.isLive now
  { sessions
    accesses := data.accesses.retain fun _ access =>
      decide (now < access.expiresAt) && decide (access.sessionToken ∈ sessions)
    websocketTickets := data.websocketTickets.retain fun _ ticket =>
      decide (now < ticket.expiresAt) && decide (ticket.sessionToken ∈ sessions) }

variable (order : Token → Nat) (data : SessionData)

/-- The sessions in the order in which a hash map goes through them. -/
def iteration :
    List (Sigma fun _ : Token => SessionRecord) :=
  data.sessions.entries.insertionSort fun first later => order first.1 ≤ order later.1

def isFull : Bool :=
  decide (sessionGlobalCapacity ≤ data.sessions.entries.length)

variable (username : String)

def isFullFor : Bool :=
  decide (sessionPerUserCapacity ≤ data.sessions.count (·.username == username))

/-- The oldest session that may be given up. -/
def evictionCandidate :
    Option Token :=
  let candidates := (data.iteration order).filter fun entry =>
    data.isFull || entry.2.username == username
  (candidates.argmin fun entry => entry.2.createdAt).map (·.1)

/-- The loop of `enforce_capacity`, with a bound on its rounds. -/
def evict (order : Token → Nat) (username : String) : Nat → SessionData → SessionData
  | 0, data => data
  | rounds + 1, data =>
    if data.isFull || data.isFullFor username then
      match data.evictionCandidate order username with
      | none => data
      | some token => evict order username rounds (data.removeSession token)
    else data

/-- Every round gives up one session, so that there are not more rounds than sessions. -/
def enforceCapacity : SessionData :=
  evict order username data.sessions.entries.length data

def touch (token : Token) (record : SessionRecord) (now : Instant) : SessionData :=
  { data with sessions := data.sessions.insert token { record with lastSeen := now } }

end SessionData

def newSession (username : String) (reading : Reading) (accessToken : Token) : SessionRecord where
  username := username
  createdAt := reading.now
  lastSeen := reading.now
  expiresAt := reading.now + sessionAbsoluteTtl
  expiresAtUtc := reading.utc + sessionAbsoluteTtl
  accessToken := accessToken
  accessExpiresAt := reading.now + accessTokenTtl
  accessExpiresAtUtc := reading.utc + accessTokenTtl

section Calls

variable (rfc3339 : SystemTime → Option String)

def issue (order : Token → Nat) (data : SessionData) (username : String) (reading : Reading)
    (token accessToken : Option Token) : SessionData × Except SessionError IssuedSession :=
  match token, accessToken with
  | some token, some accessToken =>
    if token = accessToken ∨ token ∈ data.sessions ∨ accessToken ∈ data.accesses ∨
        accessToken ∈ data.sessions ∨ token ∈ data.accesses then
      (data, .error .randomSource)
    else
      let record := newSession username reading accessToken
      match authSession rfc3339 record with
      | .error error => (data, .error error)
      | .ok view =>
        let data := (data.purgeExpired reading.now).enforceCapacity order username
        ({ data with
            accesses := data.accesses.insert accessToken ⟨token, record.accessExpiresAt⟩
            sessions := data.sessions.insert token record },
          .ok ⟨token, view⟩)
  | _, _ => (data, .error .randomSource)

def lookup (data : SessionData) (token : Token) (now : Instant) :
    SessionData × Except SessionError (Option SessionView) :=
  let data := data.purgeExpired now
  match data.accesses.lookup token with
  | none => (data, .ok none)
  | some access =>
    match data.sessions.lookup access.sessionToken with
    | none => (data, .ok none)
    | some record =>
      (data.touch access.sessionToken record now,
        (sessionView rfc3339 record.username record.expiresAtUtc).map some)

/-- The access token is renewed shortly before its end, unless it lasts as long as the session. -/
def SessionRecord.needsRenewal (record : SessionRecord) (now : Instant) : Bool :=
  decide (record.accessExpiresAt < record.expiresAt) &&
    decide (record.accessExpiresAt.saturatingDurationSince now ≤ accessRenewWindow)

def SessionRecord.renew (record : SessionRecord) (reading : Reading) (replacement : Token) :
    SessionRecord :=
  let ttl := min accessTokenTtl (record.expiresAt.saturatingDurationSince reading.now)
  { record with
    accessToken := replacement
    accessExpiresAt := reading.now + ttl
    accessExpiresAtUtc := reading.utc + ttl }

variable (data : SessionData) (token : Token)

def finishRefresh (record : SessionRecord) (now : Instant) :
    SessionData × Except SessionError (Option AuthSession) :=
  match authSession rfc3339 record with
  | .error error => ({ data with sessions := data.sessions.insert token record }, .error error)
  | .ok view =>
    let data := data.touch token record now
    ({ data with
        accesses := data.accesses.insert view.accessToken ⟨token, record.accessExpiresAt⟩ },
      .ok (some view))

def refreshAt (reading : Reading)
    (replacement : Option Token) : SessionData × Except SessionError (Option AuthSession) :=
  let data := data.purgeExpired reading.now
  match data.sessions.lookup token with
  | none => (data, .ok none)
  | some record =>
    if record.needsRenewal reading.now then
      match replacement with
      | none => (data, .error .randomSource)
      | some replacement =>
        if replacement ∈ data.accesses ∨ replacement ∈ data.sessions then
          (data, .error .randomSource)
        else
          finishRefresh rfc3339 data token (record.renew reading replacement) reading.now
    else finishRefresh rfc3339 data token record reading.now

/-- The second component tells whether subscribers are notified. -/
def revoke (now : Instant) : SessionData × Bool :=
  let data := data.purgeExpired now
  match data.accesses.lookup token with
  | none => (data, false)
  | some access => (data.removeSession access.sessionToken, true)

def revokeAll : SessionData × Bool :=
  (.empty, !data.sessions.entries.isEmpty || !data.websocketTickets.entries.isEmpty)

def issueWebsocketTicket (accessToken : Token) (reading : Reading)
    (ticket : Option Token) : SessionData × Except SessionError (Option WebSocketTicket) :=
  let data := data.purgeExpired reading.now
  match data.accesses.lookup accessToken with
  | none => (data, .ok none)
  | some access =>
    match data.sessions.lookup access.sessionToken with
    | none => (data, .ok none)
    | some record =>
      let data := data.touch access.sessionToken record reading.now
      let held := data.websocketTickets.count (·.sessionToken == access.sessionToken)
      if wsTicketGlobalCapacity ≤ data.websocketTickets.entries.length ∨
          wsTicketPerSessionCapacity ≤ held then
        (data, .error .capacity)
      else
        match ticket with
        | none => (data, .error .randomSource)
        | some ticket =>
          if ticket ∈ data.sessions ∨ ticket ∈ data.accesses ∨
              ticket ∈ data.websocketTickets then
            (data, .error .randomSource)
          else
            match millisSinceEpoch (reading.utc + wsTicketTtl) with
            | none => (data, .error .timeFormat)
            | some millis =>
              if u64Size ≤ millis then (data, .error .timeFormat)
              else
                let expiresAt := reading.now + wsTicketTtl
                ({ data with
                    websocketTickets := data.websocketTickets.insert ticket
                      ⟨access.sessionToken, expiresAt⟩ },
                  .ok (some ⟨ticket, millis⟩))

def consumeWebsocketTicket (ticket : Token) (now : Instant) : SessionData × Option Token :=
  let data := data.purgeExpired now
  match data.websocketTickets.lookup ticket with
  | none => (data, none)
  | some record =>
    let data := { data with websocketTickets := data.websocketTickets.erase ticket }
    match data.sessions.lookup record.sessionToken with
    | none => (data, none)
    | some session => (data.touch record.sessionToken session now, some record.sessionToken)

def validateWebsocketSession (now : Instant) : SessionData × Bool :=
  let data := data.purgeExpired now
  match data.sessions.lookup token with
  | none => (data, false)
  | some record => (data.touch token record now, true)

end Calls

inductive Call where
  | issue (username : String) (reading : Reading) (token accessToken : Option Token)
      (order : Token → Nat)
  | lookup (token : Token) (now : Instant)
  | refresh (token : Token) (reading : Reading) (replacement : Option Token)
  | revoke (token : Token) (now : Instant)
  | revokeAll
  | issueTicket (accessToken : Token) (reading : Reading) (ticket : Option Token)
  | consumeTicket (ticket : Token) (now : Instant)
  | validate (session : Token) (now : Instant)

inductive Answer where
  | issued (result : Except SessionError IssuedSession)
  | found (result : Except SessionError (Option SessionView))
  | refreshed (result : Except SessionError (Option AuthSession))
  | revoked (notified : Bool)
  | ticket (result : Except SessionError (Option WebSocketTicket))
  | consumed (session : Option Token)
  | valid (result : Bool)

/-- One call on the store. -/
def call (rfc3339 : SystemTime → Option String) (data : SessionData) : Call → SessionData × Answer
  | .issue username reading token accessToken order =>
    (issue rfc3339 order data username reading token accessToken).map id .issued
  | .lookup token now => (lookup rfc3339 data token now).map id .found
  | .refresh token reading replacement =>
    (refreshAt rfc3339 data token reading replacement).map id .refreshed
  | .revoke token now => (revoke data token now).map id .revoked
  | .revokeAll => (revokeAll data).map id .revoked
  | .issueTicket accessToken reading ticket =>
    (issueWebsocketTicket data accessToken reading ticket).map id .ticket
  | .consumeTicket ticket now => (consumeWebsocketTicket data ticket now).map id .consumed
  | .validate session now => (validateWebsocketSession data session now).map id .valid

def Call.draws : Call → List Token
  | .issue _ _ token accessToken _ => token.toList ++ accessToken.toList
  | .refresh _ _ replacement => replacement.toList
  | .issueTicket _ _ ticket => ticket.toList
  | .lookup _ _ | .revoke _ _ | .revokeAll | .consumeTicket _ _ | .validate _ _ => []

/-- The reading of the monotonic clock that a call works with. -/
def Call.now : Call → Option Instant
  | .issue _ reading _ _ _ | .refresh _ reading _ | .issueTicket _ reading _ => some reading.now
  | .lookup _ now | .revoke _ now | .consumeTicket _ now | .validate _ now => some now
  | .revokeAll => none

def Call.credential : Call → Option Token
  | .lookup token _ | .refresh token _ _ | .issueTicket token _ _ | .consumeTicket token _
  | .validate token _ => some token
  | .issue _ _ _ _ _ | .revoke _ _ | .revokeAll => none

def Answer.authenticates : Answer → Bool
  | .found (.ok (some _)) | .refreshed (.ok (some _)) | .ticket (.ok (some _))
  | .consumed (some _) | .valid true => true
  | _ => false

/-- The store, with the tokens that were drawn so far and the latest clock reading. -/
structure World where
  data : SessionData
  drawn : List Token
  clock : Instant

def World.start : World := ⟨.empty, [], 0⟩

def step (rfc3339 : SystemTime → Option String) (world : World) (action : Call) :
    Option (World × Answer) :=
  let (data, answer) := call rfc3339 world.data action
  some (⟨data, world.drawn ++ action.draws, action.now.getD world.clock⟩, answer)

end FluxDns.Management.Session
