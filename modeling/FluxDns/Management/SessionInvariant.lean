import FluxDns.Management.Session

/-!
# The invariant of the session store

What the three maps of the store have to do with each other, and that every single change of the
store keeps it.  The changes that only remove entries are treated together.
-/

namespace FluxDns.Management.Session

open AList SessionData Option SessionRecord

namespace SessionData

variable (data : SessionData)

/-- Everything the store has for a credential is for the same session. -/
structure Bound (credential session : Token) : Prop where
  as_session : credential ∈ data.sessions → credential = session
  as_access : ∀ access, data.accesses.lookup credential = some access →
    access.sessionToken = session
  as_ticket : ∀ ticket, data.websocketTickets.lookup credential = some ticket →
    ticket.sessionToken = session
  as_current : ∀ token record, data.sessions.lookup token = some record →
    record.accessToken = credential → token = session

/-- The token occurs in the store. -/
inductive Mentions (token : Token) : Prop where
  | session (found : token ∈ data.sessions)
  | access (found : token ∈ data.accesses)
  | ticket (found : token ∈ data.websocketTickets)
  | current (session : Token) (record : SessionRecord)
      (found : data.sessions.lookup session = some record) (same : record.accessToken = token)

/-- An access token of a session other than its current one. -/
structure Older (accesses : Map Token AccessRecord) (session : Token)
    (record : SessionRecord) (token : Token) (access : AccessRecord) : Prop where
  found : accesses.lookup token = some access
  owner : access.sessionToken = session
  other : token ≠ record.accessToken

/-- A session and its access tokens.  A token that was replaced ends at least a whole lifetime less
the renewal window before the current one, unless the current one ends with the session. -/
structure Consistent (accesses : Map Token AccessRecord) (clock : Instant)
    (session : Token) (record : SessionRecord) : Prop where
  seen : record.lastSeen ≤ clock
  renewed : record.accessExpiresAt ≤ clock + accessTokenTtl
  ends : record.accessExpiresAt ≤ record.expiresAt
  access_ends : ∀ token access, accesses.lookup token = some access →
    access.sessionToken = session →
      access.expiresAt ≤ record.expiresAt ∧ access.expiresAt ≤ record.lastSeen + accessTokenTtl
  current : ∀ access, accesses.lookup record.accessToken = some access →
    access.expiresAt = record.accessExpiresAt
  older : ∀ token access, Older accesses session record token access →
    record.accessExpiresAt = record.expiresAt ∨
      access.expiresAt + accessTokenTtl ≤ record.accessExpiresAt + accessRenewWindow
  older_unique : ∀ first second access other, Older accesses session record first access →
    Older accesses session record second other → first = second

/-- Access tokens and tickets refer to sessions of the store. -/
structure Linked : Prop where
  access : ∀ token access, data.accesses.lookup token = some access →
    access.sessionToken ∈ data.sessions
  ticket : ∀ token ticket, data.websocketTickets.lookup token = some ticket →
    ticket.sessionToken ∈ data.sessions

/-- All maps are within their capacities. -/
structure WithinCapacity : Prop where
  sessions : data.sessions.entries.length ≤ sessionGlobalCapacity
  users : ∀ username, data.sessions.count (·.username == username) ≤ sessionPerUserCapacity
  tickets : data.websocketTickets.entries.length ≤ wsTicketGlobalCapacity
  session_tickets : ∀ session,
    data.websocketTickets.count (·.sessionToken == session) ≤ wsTicketPerSessionCapacity

/-- What holds of the store between two calls. -/
structure Invariant (drawn : List Token) (clock : Instant) : Prop where
  bound : ∀ credential, ∃ session, data.Bound credential session
  drawn : ∀ token, data.Mentions token → token ∈ drawn
  linked : data.Linked
  consistent : ∀ session record, data.sessions.lookup session = some record →
    Consistent data.accesses clock session record
  capacity : data.WithinCapacity

/-- The second store has only entries of the first. -/
structure Shrinks (shrunk : SessionData) : Prop where
  sessions : shrunk.sessions.entries.Sublist data.sessions.entries
  accesses : shrunk.accesses.entries.Sublist data.accesses.entries
  tickets : shrunk.websocketTickets.entries.Sublist data.websocketTickets.entries

theorem Shrinks.refl : data.Shrinks data := ⟨.refl _, .refl _, .refl _⟩

variable {data} {shrunk : SessionData} {token key : Token} {record : SessionRecord}
  {clock : Instant} {drawn : List Token}

theorem Shrinks.trans {middle : SessionData} (first : data.Shrinks middle)
    (second : middle.Shrinks shrunk) : data.Shrinks shrunk :=
  ⟨second.sessions.trans first.sessions, second.accesses.trans first.accesses,
    second.tickets.trans first.tickets⟩

theorem mem_of_lookup {β : Type*} {map : Map Token β} {value : β}
    (found : map.lookup key = some value) : key ∈ map :=
  lookup_isSome.mp (isSome_of_eq_some found)

/-- Only the accesses of the session and of its current token matter. -/
theorem Consistent.of_accesses {accesses others : Map Token AccessRecord}
    {session : Token} (consistent : Consistent accesses clock session record)
    (known : ∀ key access, others.lookup key = some access →
      access.sessionToken = session ∨ key = record.accessToken →
        accesses.lookup key = some access) : Consistent others clock session record := by
  have older_known {key : Token} {access : AccessRecord}
      (older : Older others session record key access) : Older accesses session record key access :=
    { older with found := known key access older.found (.inl older.owner) }
  exact { consistent with
    access_ends := fun key access found owner =>
      consistent.access_ends key access (known key access found (.inl owner)) owner
    current := fun access found => consistent.current access (known _ access found (.inr rfl))
    older := fun key access older => consistent.older key access (older_known older)
    older_unique := fun first second access other older older' =>
      consistent.older_unique first second access other (older_known older) (older_known older') }

section Sublists

variable {β : Type*} {small large : Map Token β}

private theorem lookup_of_sublist (sublist : small.entries.Sublist large.entries)
    {value : β} (found : small.lookup key = some value) : large.lookup key = some value :=
  lookup_eq_some_iff.mpr (sublist.subset (lookup_eq_some_iff.mp found))

private theorem mem_of_sublist (sublist : small.entries.Sublist large.entries)
    (mem : key ∈ small) : key ∈ large :=
  (sublist.map Sigma.fst).subset mem

end Sublists

variable (shrinks : data.Shrinks shrunk)

include shrinks

theorem Shrinks.session (found : shrunk.sessions.lookup token = some record) :
    data.sessions.lookup token = some record :=
  lookup_of_sublist shrinks.sessions found

theorem Shrinks.access {access : AccessRecord}
    (found : shrunk.accesses.lookup token = some access) :
    data.accesses.lookup token = some access :=
  lookup_of_sublist shrinks.accesses found

theorem Shrinks.ticket {ticket : WebSocketTicketRecord}
    (found : shrunk.websocketTickets.lookup token = some ticket) :
    data.websocketTickets.lookup token = some ticket :=
  lookup_of_sublist shrinks.tickets found

theorem Bound.shrink {credential session : Token} (bound : data.Bound credential session) :
    shrunk.Bound credential session where
  as_session mem := bound.as_session (mem_of_sublist shrinks.sessions mem)
  as_access access found := bound.as_access access (shrinks.access found)
  as_ticket ticket found := bound.as_ticket ticket (shrinks.ticket found)
  as_current token record found := bound.as_current token record (shrinks.session found)

theorem Mentions.of_shrinks (mentions : shrunk.Mentions token) : data.Mentions token := by
  cases mentions with
  | session found => exact .session (mem_of_sublist shrinks.sessions found)
  | access found => exact .access (mem_of_sublist shrinks.accesses found)
  | ticket found => exact .ticket (mem_of_sublist shrinks.tickets found)
  | current session record found same => exact .current session record (shrinks.session found) same

theorem WithinCapacity.shrink (capacity : data.WithinCapacity) : shrunk.WithinCapacity where
  sessions := shrinks.sessions.length_le.trans capacity.sessions
  users username := shrinks.sessions.countP_le.trans (capacity.users username)
  tickets := shrinks.tickets.length_le.trans capacity.tickets
  session_tickets session := shrinks.tickets.countP_le.trans (capacity.session_tickets session)

/-- Removals that leave no dangling reference keep the invariant. -/
theorem Invariant.shrink (inv : data.Invariant drawn clock) (linked : shrunk.Linked) :
    shrunk.Invariant drawn clock where
  bound credential := (inv.bound credential).imp fun _ bound => bound.shrink shrinks
  drawn token mentions := inv.drawn token (mentions.of_shrinks shrinks)
  linked := linked
  consistent session record found :=
    (inv.consistent session record (shrinks.session found)).of_accesses
      fun _ _ access_found _ => shrinks.access access_found
  capacity := inv.capacity.shrink shrinks

omit shrinks

/-- More tokens may have been drawn, and time may have passed. -/
theorem Invariant.mono {more : List Token} {later : Instant} (inv : data.Invariant drawn clock)
    (subset : drawn ⊆ more) (order : clock ≤ later) :
    data.Invariant more later where
  __ := inv
  drawn token mentions := subset (inv.drawn token mentions)
  consistent session record found :=
    let consistent := inv.consistent session record found
    { consistent with
      seen := consistent.seen.trans order
      renewed := consistent.renewed.trans (Nat.add_le_add_right order _) }

variable (data)

theorem shrinks_empty : data.Shrinks .empty :=
  ⟨List.nil_sublist _, List.nil_sublist _, List.nil_sublist _⟩

theorem linked_empty : empty.Linked where
  access token access found := by simp [empty] at found
  ticket token ticket found := by simp [empty] at found

theorem shrinks_purgeExpired (now : Instant) : data.Shrinks (data.purgeExpired now) :=
  ⟨List.filter_sublist, List.filter_sublist, List.filter_sublist⟩

theorem linked_purgeExpired (now : Instant) : (data.purgeExpired now).Linked where
  access token access found := by
    simp only [purgeExpired, lookup_retain, filter_eq_some_iff, Bool.and_eq_true,
      decide_eq_true_eq] at found
    exact found.2.2
  ticket token ticket found := by
    simp only [purgeExpired, lookup_retain, filter_eq_some_iff, Bool.and_eq_true,
      decide_eq_true_eq] at found
    exact found.2.2

theorem lookup_purgeExpired (now : Instant) (token : Token) :
    (data.purgeExpired now).sessions.lookup token =
      (data.sessions.lookup token).filter (·.isLive now) := by
  simp [purgeExpired]

variable {data}

theorem lt_of_session_purgeExpired {now : Instant}
    (found : (data.purgeExpired now).sessions.lookup token = some record) :
    now < record.expiresAt := by
  simp only [lookup_purgeExpired, filter_eq_some_iff, isLive,
    Bool.and_eq_true, decide_eq_true_eq] at found
  exact found.2.1

theorem lt_of_lookup_purgeExpired {now : Instant} {access : AccessRecord}
    (found : (data.purgeExpired now).accesses.lookup token = some access) :
    now < access.expiresAt := by
  simp only [purgeExpired, lookup_retain, filter_eq_some_iff,
    Bool.and_eq_true, decide_eq_true_eq] at found
  exact found.2.1

theorem shrinks_removeSession (data : SessionData) (token : Token) :
    data.Shrinks (data.removeSession token) :=
  ⟨List.kerase_sublist _ _, List.filter_sublist, List.filter_sublist⟩

theorem Linked.removeSession (linked : data.Linked) (token : Token) :
    (data.removeSession token).Linked where
  access other access found := by
    simp only [SessionData.removeSession, lookup_retain, filter_eq_some_iff,
      bne_iff_ne] at found
    exact mem_erase.mpr ⟨found.2, linked.access other access found.1⟩
  ticket other ticket found := by
    simp only [SessionData.removeSession, lookup_retain, filter_eq_some_iff,
      bne_iff_ne] at found
    exact mem_erase.mpr ⟨found.2, linked.ticket other ticket found.1⟩

theorem shrinks_spend (data : SessionData) (ticket : Token) :
    data.Shrinks { data with websocketTickets := data.websocketTickets.erase ticket } :=
  ⟨.refl _, .refl _, List.kerase_sublist _ _⟩

theorem Linked.spend (linked : data.Linked) (ticket : Token) :
    Linked { data with websocketTickets := data.websocketTickets.erase ticket } where
  access := linked.access
  ticket token record found := linked.ticket token record (lookup_of_lookup_erase found)

theorem Linked.evict (linked : data.Linked) (order : Token → Nat) (username : String)
    (rounds : Nat) : data.Shrinks (evict order username rounds data) ∧
      (evict order username rounds data).Linked := by
  induction rounds generalizing data with
  | zero => exact ⟨.refl data, linked⟩
  | succ rounds induction =>
    rw [evict]
    split_ifs
    · split
      · exact ⟨.refl data, linked⟩
      · exact (induction (linked.removeSession _)).imp_left (data.shrinks_removeSession _).trans
    · exact ⟨.refl data, linked⟩

theorem mem_iteration {order : Token → Nat} {entry : Sigma fun _ : Token => SessionRecord} :
    entry ∈ data.iteration order ↔ entry ∈ data.sessions.entries :=
  (List.perm_insertionSort _ _).mem_iff

theorem exists_evictionCandidate (order : Token → Nat) {username : String}
    (full : (data.isFull || data.isFullFor username) = true) :
    ∃ token, data.evictionCandidate order username = some token ∧ token ∈ data.sessions := by
  have candidates : (data.iteration order).filter (fun entry =>
      data.isFull || entry.2.username == username) ≠ [] := by
    rcases Bool.or_eq_true_iff.mp full with all | own
    · have count : 0 < data.sessions.entries.length :=
        Nat.lt_of_lt_of_le (by decide) (of_decide_eq_true all)
      obtain ⟨entry, mem⟩ := List.exists_mem_of_length_pos count
      exact List.ne_nil_of_mem (List.mem_filter.mpr ⟨mem_iteration.mpr mem, by simp [all]⟩)
    · have count : 0 < data.sessions.count (·.username == username) :=
        Nat.lt_of_lt_of_le (by decide) (of_decide_eq_true own)
      obtain ⟨entry, mem, named⟩ := List.countP_pos_iff.mp count
      exact List.ne_nil_of_mem (List.mem_filter.mpr ⟨mem_iteration.mpr mem, by simp [named]⟩)
  cases chosen : ((data.iteration order).filter fun entry =>
      data.isFull || entry.2.username == username).argmin (fun entry => entry.2.createdAt) with
  | none => exact absurd (List.argmin_eq_none.mp chosen) candidates
  | some entry =>
    refine ⟨entry.1, by rw [evictionCandidate, chosen]; rfl, ?_⟩
    have mem := mem_iteration.mp (List.mem_filter.mp (List.argmin_mem chosen)).1
    exact List.mem_map_of_mem mem

theorem length_removeSession (found : token ∈ data.sessions) :
    (data.removeSession token).sessions.entries.length + 1 = data.sessions.entries.length := by
  obtain ⟨record, found⟩ := isSome_iff_exists.mp (lookup_isSome.mpr found)
  have split := count_erase found fun _ => true
  simpa [count, SessionData.removeSession] using split.symm

theorem evict_makes_room (order : Token → Nat) (username : String) {rounds : Nat}
    (enough : data.sessions.entries.length ≤ rounds) :
    let left := evict order username rounds data
    left.isFull = false ∧ left.isFullFor username = false := by
  induction rounds generalizing data with
  | zero =>
    have bounded : data.sessions.count (·.username == username) ≤ 0 :=
      List.countP_le_length.trans enough
    refine ⟨decide_eq_false (Nat.not_le.mpr ?_), decide_eq_false (Nat.not_le.mpr ?_)⟩
    · exact Nat.lt_of_le_of_lt enough (by decide)
    · exact Nat.lt_of_le_of_lt bounded (by decide)
  | succ rounds induction =>
    rw [evict]
    split_ifs with full
    · obtain ⟨token, chosen, found⟩ := exists_evictionCandidate order full
      rw [chosen]
      have shorter := length_removeSession found
      exact induction (by omega)
    · simpa using full

/-- The store after a session was entered or replaced. -/
abbrev setSession (data : SessionData) (token : Token) (record : SessionRecord) : SessionData :=
  { data with sessions := data.sessions.insert token record }

abbrev setAccess (data : SessionData) (token : Token) (access : AccessRecord) : SessionData :=
  { data with accesses := data.accesses.insert token access }

/-- The store after a ticket was entered. -/
abbrev setTicket (data : SessionData) (token : Token) (ticket : WebSocketTicketRecord) :
    SessionData :=
  { data with websocketTickets := data.websocketTickets.insert token ticket }

section Bound

variable {data : SessionData} {credential session token : Token}

theorem bound_of_not_mentions (absent : ¬data.Mentions credential) (session : Token) :
    data.Bound credential session where
  as_session found := absurd (.session found) absent
  as_access _ found :=
    absurd (.access (mem_of_lookup found)) absent
  as_ticket _ found :=
    absurd (.ticket (mem_of_lookup found)) absent
  as_current token record found same := absurd (.current token record found same) absent

variable (bound : data.Bound credential session)

include bound

theorem Bound.setSession (own : credential = token → token = session)
    (current : record.accessToken = credential → token = session) :
    (data.setSession token record).Bound credential session where
  __ := bound
  as_session found := by
    rcases (mem_insert _).mp found with same | old
    · exact same.trans (own same)
    · exact bound.as_session old
  as_current := forall_lookup_insert current bound.as_current

theorem Bound.setAccess {access : AccessRecord}
    (own : credential = token → access.sessionToken = session) :
    (data.setAccess token access).Bound credential session where
  __ := bound
  as_access stored found := by
    rcases of_lookup_insert found with ⟨here, rfl⟩ | ⟨_, old⟩
    · exact own here
    · exact bound.as_access stored old

theorem Bound.setTicket {ticket : WebSocketTicketRecord}
    (own : credential = token → ticket.sessionToken = session) :
    (data.setTicket token ticket).Bound credential session where
  __ := bound
  as_ticket stored found := by
    rcases of_lookup_insert found with ⟨here, rfl⟩ | ⟨_, old⟩
    · exact own here
    · exact bound.as_ticket stored old

end Bound

section Mentions

variable {data : SessionData} {mentioned token : Token}

theorem Mentions.of_setSession (mentions : (data.setSession token record).Mentions mentioned) :
    data.Mentions mentioned ∨ mentioned = token ∨ mentioned = record.accessToken := by
  cases mentions with
  | session found =>
    rcases (mem_insert _).mp found with same | old
    · exact .inr (.inl same)
    · exact .inl (.session old)
  | access found => exact .inl (.access found)
  | ticket found => exact .inl (.ticket found)
  | current session stored found same =>
    rcases of_lookup_insert found with ⟨-, rfl⟩ | ⟨_, old⟩
    · exact .inr (.inr same.symm)
    · exact .inl (.current session stored old same)

theorem Mentions.of_setAccess {access : AccessRecord}
    (mentions : (data.setAccess token access).Mentions mentioned) :
    data.Mentions mentioned ∨ mentioned = token := by
  cases mentions with
  | session found => exact .inl (.session found)
  | access found => exact ((mem_insert _).mp found).symm.imp_left .access
  | ticket found => exact .inl (.ticket found)
  | current session stored found same => exact .inl (.current session stored found same)

theorem Mentions.of_setTicket {ticket : WebSocketTicketRecord}
    (mentions : (data.setTicket token ticket).Mentions mentioned) :
    data.Mentions mentioned ∨ mentioned = token := by
  cases mentions with
  | session found => exact .inl (.session found)
  | access found => exact .inl (.access found)
  | ticket found => exact ((mem_insert _).mp found).symm.imp_left .ticket
  | current session stored found same => exact .inl (.current session stored found same)

end Mentions

private theorem replaced_ended {now replaced current ends ttl window : Nat}
    (short : window + window ≤ ttl) (last : current < ends) (due : current - now ≤ window)
    (early : current = ends ∨ replaced + ttl ≤ current + window) : replaced ≤ now := by
  omega

private theorem renewed_end {now replaced ends : Nat} (live : now < ends)
    (due : replaced - now ≤ accessRenewWindow) :
    now + min accessTokenTtl (ends - now) ≤ now + accessTokenTtl ∧
    now + min accessTokenTtl (ends - now) ≤ ends ∧
    (now + min accessTokenTtl (ends - now) = ends ∨
      replaced + accessTokenTtl ≤ now + min accessTokenTtl (ends - now) + accessRenewWindow) := by
  omega

section Consistent

variable {accesses : Map Token AccessRecord} {clock : Instant} {session : Token}
  {record : SessionRecord}

variable (consistent : Consistent accesses clock session record)

include consistent

theorem Consistent.touch : Consistent accesses clock session { record with lastSeen := clock } where
  __ := consistent
  seen := Nat.le_refl clock
  access_ends token access found owner :=
    let ends := consistent.access_ends token access found owner
    ⟨ends.1, ends.2.trans (Nat.add_le_add_right consistent.seen _)⟩
  older token access older := consistent.older token access { older with }
  older_unique first second access other older older' :=
    consistent.older_unique first second access other { older with }
      ⟨older'.found, older'.owner, older'.other⟩

theorem Consistent.insert_other {token : Token} {access : AccessRecord}
    (foreign : access.sessionToken ≠ session) (other : token ≠ record.accessToken) :
    Consistent (accesses.insert token access) clock session record := by
  refine consistent.of_accesses fun key stored found own => ?_
  rcases of_lookup_insert found with ⟨rfl, rfl⟩ | ⟨_, old⟩
  · exact absurd own (not_or.mpr ⟨foreign, other⟩)
  · exact old

theorem Consistent.insert_current (seen : record.lastSeen = clock) :
    Consistent (accesses.insert record.accessToken ⟨session, record.accessExpiresAt⟩) clock session
      record := by
  have older_before {key : Token} {stored : AccessRecord}
      (older : Older (accesses.insert record.accessToken ⟨session, record.accessExpiresAt⟩) session
        record key stored) : Older accesses session record key stored :=
    ⟨(lookup_insert_ne older.other).symm.trans older.found, older.owner, older.other⟩
  exact { consistent with
    access_ends := forall_lookup_insert
      (fun _ => ⟨consistent.ends, seen ▸ consistent.renewed⟩) consistent.access_ends
    current := fun stored found => by
      rw [lookup_insert] at found
      cases found
      rfl
    older := fun key stored older => consistent.older key stored (older_before older)
    older_unique := fun first second stored other older older' =>
      consistent.older_unique first second stored other (older_before older) (older_before older') }

variable (purged : ∀ token access, accesses.lookup token = some access → clock < access.expiresAt)

include purged

theorem Consistent.not_older (due : record.needsRenewal clock = true) (token : Token)
    (access : AccessRecord) : ¬Older accesses session record token access := by
  intro older
  simp only [needsRenewal, Bool.and_eq_true, decide_eq_true_eq] at due
  have ended := replaced_ended (by decide) due.1 due.2 (consistent.older token access older)
  exact absurd (purged token access older.found) (Nat.not_lt.mpr ended)

/-- A renewal in a purged store: the old access token is the only one left. -/
theorem Consistent.renew (due : record.needsRenewal clock = true) (live : clock < record.expiresAt)
    {replacement : Token} (fresh : accesses.lookup replacement = none) (utc : SystemTime) :
    Consistent accesses clock session (record.renew ⟨clock, utc⟩ replacement) := by
  have was_current {token : Token} {access : AccessRecord}
      (found : accesses.lookup token = some access) (owner : access.sessionToken = session) :
      token = record.accessToken := by
    by_contra other
    exact consistent.not_older purged due token access ⟨found, owner, other⟩
  simp only [needsRenewal, Bool.and_eq_true, decide_eq_true_eq] at due
  obtain ⟨bounded, within, early⟩ := renewed_end live due.2
  exact {
    seen := consistent.seen
    renewed := bounded
    ends := within
    access_ends := consistent.access_ends
    current := fun access found => nomatch fresh.symm.trans found
    older := fun token access older => by
      have same := was_current older.found older.owner
      subst same
      rw [consistent.current access older.found]
      exact early
    older_unique := fun first second access other older older' =>
      (was_current older.found older.owner).trans (was_current older'.found older'.owner).symm }

end Consistent

section Changes

variable {data : SessionData} {drawn : List Token} {clock : Instant} {token : Token}
  {record : SessionRecord}

theorem Invariant.eq_of_current (inv : data.Invariant drawn clock) {other : Token}
    {stored : SessionRecord} (found : data.sessions.lookup token = some record)
    (other_found : data.sessions.lookup other = some stored)
    (same : record.accessToken = stored.accessToken) : token = other := by
  obtain ⟨session, bound⟩ := inv.bound stored.accessToken
  rw [bound.as_current token record found same, bound.as_current other stored other_found rfl]

theorem Linked.setSession (linked : data.Linked) : (data.setSession token record).Linked where
  access key access found := (mem_insert _).mpr (.inr (linked.access key access found))
  ticket key ticket found := (mem_insert _).mpr (.inr (linked.ticket key ticket found))

variable (inv : data.Invariant drawn clock)

include inv

theorem Invariant.enter (fresh : ¬data.Mentions token)
    (fresh_access : ¬data.Mentions record.accessToken)
    (token_drawn : token ∈ drawn) (access_drawn : record.accessToken ∈ drawn)
    (room : data.isFull = false) (user_room : data.isFullFor record.username = false)
    (consistent : Consistent data.accesses clock token record) :
    (data.setSession token record).Invariant drawn clock where
  bound credential := by
    by_cases own : credential = token
    · subst own
      exact ⟨credential, (bound_of_not_mentions fresh credential).setSession (fun _ => rfl)
        fun _ => rfl⟩
    · by_cases current : record.accessToken = credential
      · subst current
        exact ⟨token, (bound_of_not_mentions fresh_access token).setSession (fun _ => rfl)
          fun _ => rfl⟩
      · obtain ⟨session, bound⟩ := inv.bound credential
        exact ⟨session, bound.setSession (fun same => absurd same own)
          fun same => absurd same current⟩
  drawn mentioned mentions := by
    rcases mentions.of_setSession with old | rfl | rfl
    · exact inv.drawn mentioned old
    · exact token_drawn
    · exact access_drawn
  linked := inv.linked.setSession
  consistent := forall_lookup_insert consistent inv.consistent
  capacity := by
    have absent : token ∉ data.sessions := fun found => fresh (.session found)
    simp only [isFull, decide_eq_false_iff_not, not_le] at room
    simp only [isFullFor, decide_eq_false_iff_not, not_le] at user_room
    exact { inv.capacity with
      sessions := by
        rw [entries_insert_of_notMem absent, List.length_cons]
        exact room
      users := fun username => by
        rw [count_insert_of_notMem absent]
        split_ifs with same
        · rw [← eq_of_beq same]
          exact user_room
        · exact inv.capacity.users username }

variable (found : data.sessions.lookup token = some record)

include found

theorem Invariant.replace {next : SessionRecord} (same_user : next.username = record.username)
    (consistent : Consistent data.accesses clock token next)
    (current : next.accessToken = record.accessToken ∨
      ¬data.Mentions next.accessToken ∧ next.accessToken ∈ drawn) :
    (data.setSession token next).Invariant drawn clock where
  bound credential := by
    by_cases fresh : next.accessToken = credential ∧ ¬data.Mentions credential
    · exact ⟨token, (bound_of_not_mentions fresh.2 token).setSession (fun _ => rfl) fun _ => rfl⟩
    · obtain ⟨session, bound⟩ := inv.bound credential
      refine ⟨session, bound.setSession (fun own => ?_) fun own => ?_⟩
      · rw [← own]
        exact bound.as_session (own ▸ mem_of_lookup found)
      · rcases current with same | absent
        · exact bound.as_current token record found (same.symm.trans own)
        · exact absurd ⟨own, own ▸ absent.1⟩ fresh
  drawn mentioned mentions := by
    rcases mentions.of_setSession with old | rfl | rfl
    · exact inv.drawn mentioned old
    · exact inv.drawn _ (.session (mem_of_lookup found))
    · rcases current with same | absent
      · exact inv.drawn _ (.current token record found same.symm)
      · exact absent.2
  linked := inv.linked.setSession
  consistent := forall_lookup_insert consistent inv.consistent
  capacity := { inv.capacity with
    sessions := by
      have unchanged := count_insert_of_lookup found (fun _ => true) next rfl
      simp only [count, List.countP_true] at unchanged
      exact unchanged.trans_le inv.capacity.sessions
    users := fun username => by
      rw [count_insert_of_lookup found _ next (by rw [same_user])]
      exact inv.capacity.users username }

theorem Invariant.touch : (data.touch token record clock).Invariant drawn clock :=
  inv.replace found rfl (inv.consistent token record found).touch (.inl rfl)

theorem Invariant.grant (seen : record.lastSeen = clock) :
    (data.setAccess record.accessToken ⟨token, record.accessExpiresAt⟩).Invariant drawn clock where
  bound credential := by
    obtain ⟨session, bound⟩ := inv.bound credential
    exact ⟨session, bound.setAccess fun own => bound.as_current token record found own.symm⟩
  drawn mentioned mentions := by
    rcases mentions.of_setAccess with old | rfl
    · exact inv.drawn mentioned old
    · exact inv.drawn _ (.current token record found rfl)
  linked := {
    access := forall_lookup_insert (mem_of_lookup found) inv.linked.access
    ticket := inv.linked.ticket }
  consistent session stored stored_found := by
    have consistent := inv.consistent session stored stored_found
    by_cases own : token = session
    · subst own
      cases found.symm.trans stored_found
      exact consistent.insert_current seen
    · exact consistent.insert_other own fun same =>
        own (inv.eq_of_current found stored_found same)
  capacity := { inv.capacity with }

omit found

theorem Invariant.addTicket {ticket : Token}
    {stored : WebSocketTicketRecord} (fresh : ¬data.Mentions ticket) (ticket_drawn : ticket ∈ drawn)
    (found : stored.sessionToken ∈ data.sessions)
    (room : data.websocketTickets.entries.length < wsTicketGlobalCapacity)
    (session_room : data.websocketTickets.count (·.sessionToken == stored.sessionToken) <
      wsTicketPerSessionCapacity) :
    (data.setTicket ticket stored).Invariant drawn clock where
  bound credential := by
    by_cases own : credential = ticket
    · subst own
      exact ⟨stored.sessionToken,
        (bound_of_not_mentions fresh stored.sessionToken).setTicket fun _ => rfl⟩
    · obtain ⟨session, bound⟩ := inv.bound credential
      exact ⟨session, bound.setTicket fun same => absurd same own⟩
  drawn mentioned mentions := by
    rcases mentions.of_setTicket with old | rfl
    · exact inv.drawn mentioned old
    · exact ticket_drawn
  linked := {
    access := inv.linked.access
    ticket := forall_lookup_insert found inv.linked.ticket }
  consistent := inv.consistent
  capacity := by
    have absent : ticket ∉ data.websocketTickets := fun found => fresh (.ticket found)
    exact { inv.capacity with
      tickets := by
        rw [entries_insert_of_notMem absent, List.length_cons]
        exact room
      session_tickets := fun session => by
        rw [count_insert_of_notMem absent]
        split_ifs with same
        · rw [← eq_of_beq same]
          exact session_room
        · exact inv.capacity.session_tickets session }

end Changes

end SessionData

end FluxDns.Management.Session
