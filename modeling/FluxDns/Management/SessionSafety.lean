import FluxDns.Management.SessionUpdates

/-!
# Safety of the session store

Every call of the store keeps its invariant when its random tokens are fresh and the clock does not
go back, and what follows for whole runs.
-/

namespace FluxDns.Management.Session

open Execution SessionData AList List World Option SessionRecord

variable {rfc3339 : SystemTime → Option String} {clock : Instant} {record : SessionRecord}
  {drawn : List Token} {data : SessionData}

section Calls

variable {data : SessionData} {drawn : List Token} {clock : Instant} {now : Instant} {token : Token}
  {reading : Reading}

/-- A token that was not drawn before does not occur in the store or in what is left of it. -/
theorem SessionData.Invariant.not_mentions (inv : data.Invariant drawn clock)
    (fresh : token ∉ drawn) {shrunk : SessionData} (shrinks : data.Shrinks shrunk) :
    ¬shrunk.Mentions token :=
  fun mentions => fresh (inv.drawn token (mentions.of_shrinks shrinks))

theorem consistent_newSession {accessToken : Token} (linked : data.Linked)
    (fresh : ¬data.Mentions token) (fresh_access : ¬data.Mentions accessToken) (username : String)
    (reading : Reading) :
    Consistent data.accesses reading.now token (newSession username reading accessToken) where
  seen := Nat.le_refl _
  renewed := Nat.le_refl _
  ends := Nat.add_le_add_left (by decide) _
  access_ends key access found owner :=
    absurd (.session (owner ▸ linked.access key access found)) fresh
  current _ found := absurd (.access (mem_of_lookup found)) fresh_access
  older key access older :=
    absurd (.session (older.owner ▸ linked.access key access older.found)) fresh
  older_unique key _ access _ older :=
    absurd (.session (older.owner ▸ linked.access key access older.found)) fresh

variable (inv : data.Invariant drawn clock)

include inv

theorem SessionData.Invariant.purged (later : clock ≤ now) (draws : List Token) :
    Advances data drawn clock draws (some now) (data.purgeExpired now) :=
  (inv.advances later draws).shrink (data.shrinks_purgeExpired now) (data.linked_purgeExpired now)

theorem advances_issue (order : Token → Nat)
    (username : String) (later : clock ≤ reading.now) {token accessToken : Option Token}
    (fresh : ∀ drawn_token ∈ token.toList ++ accessToken.toList, drawn_token ∉ drawn) :
    Advances data drawn clock (token.toList ++ accessToken.toList) (some reading.now)
      (issue rfc3339 order data username reading token accessToken).1 := by
  have kept := inv.advances later (token.toList ++ accessToken.toList)
  match token, accessToken with
  | none, _ => exact kept
  | some _, none => exact kept
  | some token, some accessToken =>
    simp only [issue]
    split_ifs
    · exact kept
    · split
      · exact kept
      · obtain ⟨evicted, linked⟩ := (data.linked_purgeExpired reading.now).evict order username
          (data.purgeExpired reading.now).sessions.entries.length
        have shrinks := (data.shrinks_purgeExpired reading.now).trans evicted
        obtain ⟨room, user_room⟩ := evict_makes_room order username
          (Nat.le_refl (data.purgeExpired reading.now).sessions.entries.length)
        have absent := inv.not_mentions (fresh token (by simp)) shrinks
        have absent_access := inv.not_mentions (fresh accessToken (by simp)) shrinks
        have purged := kept.shrink shrinks linked
        have entered := purged.invariant.enter absent absent_access (by simp)
          (by simp [newSession]) room user_room
          (consistent_newSession linked absent absent_access username reading)
        exact Advances.grant
          ⟨entered, purged.update.enterSession (by simp) (by simp [newSession])⟩
          (lookup_insert _) rfl

theorem advances_lookup (later : clock ≤ now) (token : Token) :
    Advances data drawn clock [] (some now) (lookup rfc3339 data token now).1 := by
  have purged := inv.purged later []
  simp only [lookup]
  split
  · exact purged
  · split
    · exact purged
    · next found => exact purged.touch (.refl _) found

omit inv

theorem advances_finishRefresh {draws : List Token}
    (purged : Advances data drawn clock draws (some now) (data.purgeExpired now))
    (found : (data.purgeExpired now).sessions.lookup token = some record)
    {next : SessionRecord} (same_user : next.username = record.username)
    (consistent : Consistent (data.purgeExpired now).accesses now token next)
    (current : next.accessToken = record.accessToken ∨
      ¬(data.purgeExpired now).Mentions next.accessToken ∧ next.accessToken ∈ draws) :
    Advances data drawn clock draws (some now)
      (finishRefresh rfc3339 (data.purgeExpired now) token next now).1 := by
  simp only [finishRefresh]
  split
  · exact purged.replace (.refl _) found same_user consistent current
  · next view viewed =>
    have seen : Advances data drawn clock draws (some now)
        ((data.purgeExpired now).touch token next now) :=
      purged.replace (.refl _) found same_user consistent.touch current
    have granted := seen.grant (lookup_insert _) rfl
    rwa [accessToken_of_authSession viewed]

include inv

theorem advances_refreshAt (later : clock ≤ reading.now) (token : Token)
    {replacement : Option Token} (fresh : ∀ drawn_token ∈ replacement.toList, drawn_token ∉ drawn) :
    Advances data drawn clock replacement.toList (some reading.now)
      (refreshAt rfc3339 data token reading replacement).1 := by
  have purged := inv.purged later replacement.toList
  simp only [refreshAt]
  split
  · exact purged
  · next record found =>
    have consistent := purged.invariant.consistent token record found
    split_ifs with due
    · cases replacement with
      | none => exact purged
      | some replacement =>
        dsimp only
        split_ifs with known
        · exact purged
        · have absent := inv.not_mentions (fresh replacement (by simp))
            (data.shrinks_purgeExpired reading.now)
          have unknown : (data.purgeExpired reading.now).accesses.lookup replacement = none :=
            lookup_eq_none.mpr fun mem => known (.inl mem)
          have renewed := consistent.renew (fun _ _ => lt_of_lookup_purgeExpired) due
            (lt_of_session_purgeExpired found) unknown reading.utc
          exact advances_finishRefresh purged found rfl renewed
            (.inr ⟨absent, by simp [renew]⟩)
    · exact advances_finishRefresh purged found rfl consistent (.inl rfl)

theorem advances_revoke (later : clock ≤ now) (token : Token) :
    Advances data drawn clock [] (some now) (revoke data token now).1 := by
  have purged := inv.purged later []
  simp only [revoke]
  split
  · exact purged
  · next access found =>
    exact purged.shrink (shrinks_removeSession _ _)
      (purged.invariant.linked.removeSession access.sessionToken)

theorem advances_issueWebsocketTicket (later : clock ≤ reading.now) (accessToken : Token)
    {ticket : Option Token} (fresh : ∀ drawn_token ∈ ticket.toList, drawn_token ∉ drawn) :
    Advances data drawn clock ticket.toList (some reading.now)
      (issueWebsocketTicket data accessToken reading ticket).1 := by
  have purged := inv.purged later ticket.toList
  simp only [issueWebsocketTicket]
  split
  · exact purged
  · next access access_found =>
    split
    · exact purged
    · next record found =>
      have touched := purged.touch (.refl _) found
      split_ifs with full
      · exact touched
      · cases ticket with
        | none => exact touched
        | some ticket =>
          dsimp only
          split_ifs with known
          · exact touched
          · split
            · exact touched
            · split_ifs
              · exact touched
              · have before := (inv.purged later []).invariant.touch found
                rw [append_nil] at before
                have absent := fun mentions =>
                  fresh ticket (by simp) (before.drawn ticket mentions)
                simp only [not_or, not_le] at full
                exact ⟨touched.invariant.addTicket absent (by simp)
                    ((mem_insert _).mpr (.inl rfl)) full.1 full.2,
                  touched.update.setTicket (by simp) _⟩

theorem advances_consumeWebsocketTicket (later : clock ≤ now) (ticket : Token) :
    Advances data drawn clock [] (some now) (consumeWebsocketTicket data ticket now).1 := by
  have purged := inv.purged later []
  simp only [consumeWebsocketTicket]
  split
  · exact purged
  · have spent := purged.shrink (shrinks_spend _ ticket) (purged.invariant.linked.spend ticket)
    split
    · exact spent
    · next found => exact spent.touch (shrinks_spend _ ticket) found

theorem advances_validateWebsocketSession (later : clock ≤ now) (token : Token) :
    Advances data drawn clock [] (some now) (validateWebsocketSession data token now).1 := by
  have purged := inv.purged later []
  simp only [validateWebsocketSession]
  split
  · exact purged
  · next found => exact purged.touch (.refl _) found

theorem advances_call (action : Call)
    (later : ∀ now ∈ action.now, clock ≤ now) (fresh : ∀ token ∈ action.draws, token ∉ drawn) :
    Advances data drawn clock action.draws action.now (call rfc3339 data action).1 := by
  cases action with
  | issue username reading token accessToken order =>
    exact advances_issue inv order username (later _ rfl) fresh
  | lookup token now => exact advances_lookup inv (later _ rfl) token
  | refresh token reading replacement => exact advances_refreshAt inv (later _ rfl) token fresh
  | revoke token now => exact advances_revoke inv (later _ rfl) token
  | revokeAll =>
    have kept := inv.mono (subset_append_left drawn []) (Nat.le_refl clock)
    exact ⟨kept.shrink data.shrinks_empty linked_empty,
      (Update.refl data [] none).shrink data.shrinks_empty⟩
  | issueTicket accessToken reading ticket =>
    exact advances_issueWebsocketTicket inv (later _ rfl) accessToken fresh
  | consumeTicket ticket now => exact advances_consumeWebsocketTicket inv (later _ rfl) ticket
  | validate session now => exact advances_validateWebsocketSession inv (later _ rfl) session

end Calls

/-- The credential stands for the session: it is its refresh token, one of its access tokens or one
of its tickets. -/
inductive SessionData.Belongs (data : SessionData) (credential session : Token) : Prop where
  | refresh (same : credential = session) (found : credential ∈ data.sessions)
  | access (access : AccessRecord) (found : data.accesses.lookup credential = some access)
      (owner : access.sessionToken = session)
  | ticket (ticket : WebSocketTicketRecord)
      (found : data.websocketTickets.lookup credential = some ticket)
      (owner : ticket.sessionToken = session)

/-- The session is in the store and has not expired. -/
def SessionData.Live (data : SessionData) (session : Token) (now : Instant) : Prop :=
  ∃ record, data.sessions.lookup session = some record ∧ record.isLive now = true

section Credentials

variable {data : SessionData} {drawn : List Token} {clock : Instant} {credential session : Token}

theorem SessionData.Belongs.mentions (belongs : data.Belongs credential session) :
    data.Mentions credential := by
  cases belongs with
  | refresh same found => exact .session found
  | access access found owner => exact .access (mem_of_lookup found)
  | ticket ticket found owner => exact .ticket (mem_of_lookup found)

theorem SessionData.Bound.eq_of_belongs {other : Token} (bound : data.Bound credential session)
    (belongs : data.Belongs credential other) : other = session := by
  cases belongs with
  | refresh same found => exact same.symm.trans (bound.as_session found)
  | access access found owner => exact owner.symm.trans (bound.as_access access found)
  | ticket ticket found owner => exact owner.symm.trans (bound.as_ticket ticket found)

theorem SessionData.Invariant.bound_of_belongs (inv : data.Invariant drawn clock)
    (belongs : data.Belongs credential session) : data.Bound credential session := by
  obtain ⟨owner, bound⟩ := inv.bound credential
  rwa [bound.eq_of_belongs belongs]

theorem live_of_authenticates {action : Call} (presented : action.credential = some credential)
    (authenticated : (call rfc3339 data action).2.authenticates = true) :
    ∃ session, data.Belongs credential session ∧ ∃ now ∈ action.now, data.Live session now := by
  cases action with
  | lookup | issueTicket =>
    cases presented
    simp only [call, lookup, issueWebsocketTicket] at authenticated
    split at authenticated <;> try cases authenticated
    next access access_found =>
    split at authenticated <;> try cases authenticated
    next record found =>
    exact ⟨_, .access access ((data.shrinks_purgeExpired _).access access_found) rfl, _, rfl,
      record, live_of_lookup_purgeExpired found⟩
  | refresh | validate =>
    cases presented
    simp only [call, refreshAt, validateWebsocketSession] at authenticated
    split at authenticated <;> try cases authenticated
    next record found =>
    have live := live_of_lookup_purgeExpired found
    exact ⟨_, .refresh rfl (mem_of_lookup live.1), _, rfl, record, live⟩
  | consumeTicket ticket now =>
    cases presented
    simp only [call, consumeWebsocketTicket] at authenticated
    split at authenticated <;> try cases authenticated
    next stored stored_found =>
    split at authenticated <;> try cases authenticated
    next record found =>
    exact ⟨_, .ticket stored ((data.shrinks_purgeExpired _).ticket stored_found) rfl, now,
      rfl, record, live_of_lookup_purgeExpired found⟩
  | _ => cases presented

end Credentials

section Updates

variable {data next : SessionData} {draws : List Token} {now : Option Instant}
  {credential session : Token}

theorem SessionData.Bound.update (bound : data.Bound credential session)
    (update : Update data draws now next) (old : credential ∉ draws) :
    next.Bound credential session where
  as_session found := by
    obtain ⟨record, found⟩ := isSome_iff_exists.mp (lookup_isSome.mpr found)
    rcases update.session credential record found with drawn | ⟨stored, stored_found, _⟩
    · exact absurd drawn old
    · exact bound.as_session (mem_of_lookup stored_found)
  as_access access found := by
    rcases update.access credential access found with drawn | kept | ⟨stored, stored_found, same⟩
    · exact absurd drawn old
    · exact bound.as_access access kept
    · exact bound.as_current _ stored stored_found same
  as_ticket ticket found :=
    bound.as_ticket ticket ((update.ticket credential ticket found).resolve_left old)
  as_current token record found same := by
    rcases update.current token record found with drawn | ⟨stored, stored_found, kept⟩
    · exact absurd (same ▸ drawn) old
    · exact bound.as_current token stored stored_found (kept.symm.trans same)

/-- A session that has expired stays so. -/
theorem isLive_anti {earlier later : Instant} (order : earlier ≤ later)
    (live : record.isLive later = true) : record.isLive earlier = true := by
  simp only [isLive, Bool.and_eq_true, decide_eq_true_eq] at live ⊢
  exact ⟨Nat.lt_of_le_of_lt order live.1,
    Nat.lt_of_le_of_lt (Nat.sub_le_sub_right order record.lastSeen) live.2⟩

theorem SessionData.Live.anti {earlier later : Instant} (live : data.Live session later)
    (order : earlier ≤ later) : data.Live session earlier := by
  obtain ⟨record, found, live⟩ := live
  exact ⟨record, found, isLive_anti order live⟩

/-- A session that was not just drawn is not live after a call unless it was before. -/
theorem SessionData.Live.of_update (update : Update data draws now next) (old : session ∉ draws)
    (order : ∀ instant ∈ now, clock ≤ instant) (live : next.Live session (now.getD clock)) :
    data.Live session clock := by
  obtain ⟨record, found, live⟩ := live
  rcases update.session session record found with drawn | ⟨stored, stored_found, same | read⟩
  · exact absurd drawn old
  · subst same
    refine ⟨record, stored_found, isLive_anti ?_ live⟩
    cases now with
    | none => exact Nat.le_refl clock
    | some instant => exact order instant rfl
  · obtain ⟨instant, read, was_live⟩ := read
    exact ⟨stored, stored_found, isLive_anti (order instant read) was_live⟩

end Updates

abbrev SessionTransition := Transition World Call Answer

/-- The random tokens of the call are new and its clock reading is not an earlier one. -/
structure Fresh (transition : SessionTransition) : Prop where
  tokens : ∀ token ∈ transition.action.draws, token ∉ transition.before.drawn
  clock : ∀ now ∈ transition.action.now, transition.before.clock ≤ now

/-- The tokens of a run are drawn once, and the clock does not go back. -/
theorem forall_fresh {actions : List Call} (tokens : (actions.flatMap Call.draws).Nodup)
    (readings : (actions.filterMap Call.now).Pairwise (· ≤ ·)) :
    ∀ move ∈ transitions (step rfc3339) .start actions, Fresh move := by
  suffices from_any : ∀ world : World, world.drawn.Disjoint (actions.flatMap Call.draws) →
      (∀ now ∈ actions.filterMap Call.now, world.clock ≤ now) →
      ∀ move ∈ transitions (step rfc3339) world actions, Fresh move from
    from_any .start (disjoint_nil_left _) fun _ _ => Nat.zero_le _
  induction actions with
  | nil => simp [transitions]
  | cons action actions induction =>
    intro world disjoint later
    rw [flatMap_cons, nodup_append] at tokens
    rw [flatMap_cons, disjoint_append_right] at disjoint
    have action_later : ∀ now ∈ action.now, world.clock ≤ now := fun now read =>
      later now (mem_filterMap.mpr ⟨action, mem_cons_self, read⟩)
    have rest_later : ∀ now ∈ actions.filterMap Call.now, action.now.getD world.clock ≤ now := by
      intro now mem
      cases read : action.now with
      | none =>
        rw [filterMap_cons_none read] at later
        exact later now mem
      | some instant =>
        rw [filterMap_cons_some read, pairwise_cons] at readings
        exact readings.1 now mem
    have rest_readings : (actions.filterMap Call.now).Pairwise (· ≤ ·) :=
      readings.sublist ((sublist_cons_self action actions).filterMap Call.now)
    simp only [transitions, step, forall_mem_cons]
    refine ⟨⟨fun token drawn known => disjoint.1 known drawn, action_later⟩,
      induction tokens.2.1 rest_readings _ ?_ rest_later⟩
    exact disjoint_append_left.mpr
      ⟨disjoint.2, fun token drawn later => tokens.2.2 token drawn token later rfl⟩

section Steps

variable {move : SessionTransition}

theorem after_eq (taken : step rfc3339 move.before move.action = some (move.after, move.output)) :
    move.after = ⟨(call rfc3339 move.before.data move.action).1,
      move.before.drawn ++ move.action.draws,
      move.action.now.getD move.before.clock⟩ ∧
    move.output = (call rfc3339 move.before.data move.action).2 := by
  have same := some.inj taken
  exact ⟨(congrArg Prod.fst same).symm, (congrArg Prod.snd same).symm⟩

/-- The invariant of the store in a run. -/
def World.Invariant (world : World) : Prop := world.data.Invariant world.drawn world.clock

theorem not_mentions_empty (token : Token) : ¬empty.Mentions token := by
  intro mentions
  cases mentions with
  | session found | access found | ticket found => exact notMem_empty _ found
  | current session record found same => simp [empty] at found

theorem World.invariant_start : start.Invariant where
  bound credential := ⟨credential, bound_of_not_mentions (not_mentions_empty _) credential⟩
  drawn token mentions := absurd mentions (not_mentions_empty token)
  linked := linked_empty
  consistent session record found := by simp [start, empty] at found
  capacity := ⟨by decide, fun _ => Nat.zero_le _, by decide, fun _ => Nat.zero_le _⟩

def World.Bound (credential session : Token) (world : World) : Prop :=
  credential ∈ world.drawn ∧ world.data.Bound credential session

def World.Ended (session : Token) (world : World) : Prop :=
  session ∈ world.drawn ∧ ¬world.data.Live session world.clock

def World.Spent (ticket : Token) (world : World) : Prop :=
  ticket ∈ world.drawn ∧ world.data.websocketTickets.lookup ticket = none

variable (taken : Session.step rfc3339 move.before move.action = some (move.after, move.output))
  (fresh : Fresh move)

include fresh

theorem World.Invariant.advances (inv : move.before.Invariant) :
    Advances move.before.data move.before.drawn move.before.clock move.action.draws
      move.action.now (call rfc3339 move.before.data move.action).1 :=
  advances_call inv move.action fresh.clock fresh.tokens

variable (inv : move.before.Invariant)

include taken inv

theorem World.Invariant.step : move.after.Invariant := by
  rw [(after_eq taken).1]
  exact (inv.advances fresh).invariant

theorem World.Bound.step {credential session : Token}
    (bound : move.before.Bound credential session) : move.after.Bound credential session := by
  rw [(after_eq taken).1]
  exact ⟨mem_append_left _ bound.1, bound.2.update (inv.advances fresh).update
    fun drawn => fresh.tokens credential drawn bound.1⟩

theorem World.Ended.step {session : Token} (ended : move.before.Ended session) :
    move.after.Ended session := by
  rw [(after_eq taken).1]
  refine ⟨mem_append_left _ ended.1, fun live => ended.2 ?_⟩
  exact live.of_update (inv.advances fresh).update
    (fun drawn => fresh.tokens session drawn ended.1) fresh.clock

theorem World.Spent.step {ticket : Token} (spent : move.before.Spent ticket) :
    move.after.Spent ticket := by
  rw [(after_eq taken).1]
  refine ⟨mem_append_left _ spent.1, eq_none_iff_forall_ne_some.mpr ?_⟩
  intro stored found
  rcases (inv.advances fresh).update.ticket ticket stored found with drawn | kept
  · exact fresh.tokens ticket drawn spent.1
  · exact nomatch spent.2.symm.trans kept

end Steps

/-- What holds of the store between two calls. -/
structure SessionData.Safe (data : SessionData) : Prop where
  access_session : ∀ token access, data.accesses.lookup token = some access →
    ∃ record, data.sessions.lookup access.sessionToken = some record ∧
      access.expiresAt ≤ record.expiresAt ∧ access.expiresAt ≤ record.lastSeen + sessionIdleTtl
  ticket_session : ∀ token ticket, data.websocketTickets.lookup token = some ticket →
    ticket.sessionToken ∈ data.sessions
  two_accesses : ∀ session, data.accesses.count (·.sessionToken == session) ≤ 2
  sessions : data.sessions.entries.length ≤ 4096
  user_sessions : ∀ username, data.sessions.count (·.username == username) ≤ 16
  tickets : data.websocketTickets.entries.length ≤ 128
  session_tickets : ∀ session, data.websocketTickets.count (·.sessionToken == session) ≤ 4

theorem SessionData.Invariant.two_accesses (inv : data.Invariant drawn clock) (session : Token) :
    data.accesses.count (·.sessionToken == session) ≤ 2 := by
  cases found : data.sessions.lookup session with
  | none =>
    have none_left : data.accesses.count (·.sessionToken == session) ≤ ([] : List Token).length :=
      count_le_length fun token access access_found owner => by
        have linked := inv.linked.access token access access_found
        rw [eq_of_beq owner] at linked
        exact absurd linked (lookup_eq_none.mp found)
    exact none_left.trans (Nat.zero_le 2)
  | some record =>
    have consistent := inv.consistent session record found
    by_cases only : ∀ token access, ¬Older data.accesses session record token access
    · have current : data.accesses.count (·.sessionToken == session) ≤
          [record.accessToken].length :=
        count_le_length fun token access access_found owner => by
          by_contra other
          rw [mem_singleton] at other
          exact only token access ⟨access_found, eq_of_beq owner, other⟩
      exact current.trans (Nat.le_succ 1)
    · push Not at only
      obtain ⟨replaced, old, older⟩ := only
      -- every access token is the current one or this older one
      have two : data.accesses.count (·.sessionToken == session) ≤
          [record.accessToken, replaced].length := by
        refine count_le_length fun token access access_found owner => ?_
        by_cases current : token = record.accessToken
        · simp [current]
        · have same := consistent.older_unique token replaced access old
            ⟨access_found, eq_of_beq owner, current⟩ older
          simp [same]
      exact two

theorem SessionData.Invariant.safe (inv : data.Invariant drawn clock) : data.Safe where
  access_session token access found := by
    obtain ⟨record, session_found⟩ := isSome_iff_exists.mp
      (lookup_isSome.mpr (inv.linked.access token access found))
    obtain ⟨absolute, idle⟩ :=
      (inv.consistent _ record session_found).access_ends token access found rfl
    exact ⟨record, session_found, absolute, idle.trans (Nat.add_le_add_left (by decide) _)⟩
  ticket_session := inv.linked.ticket
  two_accesses := inv.two_accesses
  sessions := inv.capacity.sessions
  user_sessions := inv.capacity.users
  tickets := inv.capacity.tickets
  session_tickets := inv.capacity.session_tickets

def Consumes (transition : SessionTransition) (ticket : Token) : Prop :=
  (∃ now, transition.action = .consumeTicket ticket now) ∧ transition.output.authenticates = true

theorem spent_of_consumes {move : SessionTransition} {ticket : Token} (inv : move.before.Invariant)
    (taken : step rfc3339 move.before move.action = some (move.after, move.output))
    (consumes : Consumes move ticket) :
    (∃ stored, move.before.data.websocketTickets.lookup ticket = some stored) ∧
      move.after.Spent ticket := by
  obtain ⟨⟨now, called⟩, authenticated⟩ := consumes
  obtain ⟨after_is, output_is⟩ := after_eq taken
  rw [output_is, called] at authenticated
  rw [after_is, called]
  simp only [call, consumeWebsocketTicket] at authenticated
  split at authenticated <;> try cases authenticated
  next stored found =>
  have kept := (move.before.data.shrinks_purgeExpired now).ticket found
  refine ⟨⟨stored, kept⟩, mem_append_left _
    (Invariant.drawn inv ticket (.ticket (mem_of_lookup kept))), ?_⟩
  simp only [call, consumeWebsocketTicket, found]
  split <;> exact lookup_erase _ _

/-- The session is over when the call returns, and was not before. -/
def Ends (transition : SessionTransition) (session : Token) : Prop :=
  session ∈ transition.before.data.sessions ∧
    ¬transition.after.data.Live session transition.after.clock

/-- In every run whose random tokens are fresh and whose clock does not go back, the store is safe
after each call, a ticket is consumed at most once, a credential only authenticates a call while its
session is live, and after the end of a session none of its credentials authenticates again. -/
theorem session_store_safe (rfc3339 : SystemTime → Option String) (actions : List Call)
    (tokens : (actions.flatMap Call.draws).Nodup)
    (readings : (actions.filterMap Call.now).Pairwise (· ≤ ·)) :
    let steps := transitions (step rfc3339) .start actions
    (∀ transition ∈ steps, transition.after.data.Safe) ∧
    (∀ ticket, steps.Pairwise fun earlier later =>
      Consumes earlier ticket → ¬Consumes later ticket) ∧
    (∀ issued later, [issued, later].Sublist steps → ∀ credential session,
      issued.after.data.Belongs credential session → later.action.credential = some credential →
      later.output.authenticates = true →
        ∃ now ∈ later.action.now, later.before.data.Live session now) ∧
    ∀ issued ended later, [issued, ended, later].Sublist steps → ∀ credential session,
      issued.after.data.Belongs credential session → Ends ended session →
      later.action.credential = some credential → later.output.authenticates = false := by
  intro steps
  have fresh : ∀ transition ∈ steps, Fresh transition := forall_fresh tokens readings
  have preserves (transition : SessionTransition) (invariant : transition.before.Invariant)
      (taken : step rfc3339 transition.before transition.action =
        some (transition.after, transition.output)) (fresh : Fresh transition) :
      transition.after.Invariant :=
    Invariant.step taken fresh invariant
  have kept := forall_before_of_guarded Invariant Fresh preserves invariant_start fresh
  have kept_after := forall_after_of_guarded Invariant Fresh preserves invariant_start
    fresh
  have stays {Index : Type} (stable : Index → World → Prop) := fun keeps =>
    pairwise_of_stable Invariant stable Fresh preserves keeps invariant_start fresh
  have spent_stays := stays Spent fun _ _ spent taken guard =>
    spent.step taken guard.2 guard.1
  have bound_stays (credential : Token) := stays (Bound credential)
    fun _ _ bound taken guard => bound.step taken guard.2 guard.1
  have ended_stays := stays Ended fun _ _ ended taken guard =>
    ended.step taken guard.2 guard.1
  have only_live (issued later : SessionTransition) (order : [issued, later].Sublist steps)
      (credential session : Token) (belongs : issued.after.data.Belongs credential session)
      (presented : later.action.credential = some credential)
      (authenticated : later.output.authenticates = true) :
      ∃ now ∈ later.action.now, later.before.data.Live session now := by
    have issued_invariant : issued.after.data.Invariant issued.after.drawn issued.after.clock :=
      kept_after issued (order.subset (by simp))
    have bound : issued.after.Bound credential session :=
      ⟨issued_invariant.drawn credential belongs.mentions,
        issued_invariant.bound_of_belongs belongs⟩
    have still := pairwise_pair.mp ((bound_stays credential).sublist order) session bound
    rw [(after_eq (kept later (order.subset (by simp))).2).2] at authenticated
    obtain ⟨owner, owned, now, read, live⟩ := live_of_authenticates presented authenticated
    rw [still.2.eq_of_belongs owned] at live
    exact ⟨now, read, live⟩
  refine ⟨fun transition member => (kept_after transition member).safe, fun ticket => ?_,
    only_live, ?_⟩
  · refine spent_stays.imp_of_mem fun {earlier later} earlier_mem later_mem stays
      consumed again => ?_
    have spent := (spent_of_consumes (kept earlier earlier_mem).1 (kept earlier earlier_mem).2
      consumed).2
    obtain ⟨stored, found⟩ := (spent_of_consumes (kept later later_mem).1 (kept later later_mem).2
      again).1
    exact nomatch (stays ticket spent).2.symm.trans found
  · intro issued ended later order credential session belongs ends presented
    by_contra authenticated
    rw [Bool.not_eq_false] at authenticated
    have first_last : [issued, later].Sublist steps :=
      .trans (.cons_cons _ (.cons _ (.refl _))) order
    have last_two : [ended, later].Sublist steps := .trans (.cons _ (.refl _)) order
    obtain ⟨now, read, live⟩ :=
      only_live issued later first_last credential session belongs presented authenticated
    have ended_mem := last_two.subset (mem_cons_self)
    have before_drawn := Invariant.drawn (kept ended ended_mem).1 session
      (.session ends.1)
    have past : ended.after.Ended session := by
      refine ⟨?_, ends.2⟩
      rw [(after_eq (kept ended ended_mem).2).1]
      exact mem_append_left _ before_drawn
    have still := pairwise_pair.mp (ended_stays.sublist last_two) session past
    exact still.2 (live.anti ((fresh later (last_two.subset (by simp))).clock now read))

/-- A session with a ticket that is presented twice, and an access token after its revocation. -/
def sampleCalls : List Call :=
  [.issue "admin" ⟨1, 0⟩ (some "session") (some "access") fun _ => 0,
    .issueTicket "access" ⟨2, 0⟩ (some "ticket"), .consumeTicket "ticket" 3,
    .consumeTicket "ticket" 4, .revoke "access" 5, .lookup "access" 6]

theorem session_store_safe_sample :
    let steps := transitions (step fun _ => some "1970-01-31T00:00:00Z") .start sampleCalls
    steps.map (·.output.authenticates) = [false, true, true, false, false, false] ∧
    steps.Pairwise fun earlier later => Consumes earlier "ticket" → ¬Consumes later "ticket" :=
  ⟨by decide +kernel, (session_store_safe _ sampleCalls (by decide) (by decide)).2.1 "ticket"⟩

end FluxDns.Management.Session
