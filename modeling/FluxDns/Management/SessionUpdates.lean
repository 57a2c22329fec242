import FluxDns.Management.SessionInvariant

/-!
# What a call does to the session store

Where the entries of the store after a call come from: they were there before, or their tokens were
drawn by the call, or they belong to a session that was live at its clock reading.
-/

namespace FluxDns.Management.Session

open SessionData AList

/-- Where the entries of the store after a call come from. -/
structure Update (data : SessionData) (draws : List Token) (now : Option Instant)
    (next : SessionData) : Prop where
  session : ∀ token record, next.sessions.lookup token = some record → token ∈ draws ∨
    ∃ old, data.sessions.lookup token = some old ∧
      (record = old ∨ ∃ instant ∈ now, old.isLive instant = true)
  current : ∀ token record, next.sessions.lookup token = some record →
    record.accessToken ∈ draws ∨
      ∃ old, data.sessions.lookup token = some old ∧ record.accessToken = old.accessToken
  access : ∀ token access, next.accesses.lookup token = some access →
    token ∈ draws ∨ data.accesses.lookup token = some access ∨
      ∃ old, data.sessions.lookup access.sessionToken = some old ∧ old.accessToken = token
  ticket : ∀ token ticket, next.websocketTickets.lookup token = some ticket →
    token ∈ draws ∨ data.websocketTickets.lookup token = some ticket

section Updates

variable {data next : SessionData} {draws : List Token} {now : Option Instant} {token : Token}
  {record : SessionRecord} {instant : Instant}

theorem Update.refl (data : SessionData) (draws : List Token) (now : Option Instant) :
    Update data draws now data where
  session _ record found := .inr ⟨record, found, .inl rfl⟩
  current _ record found := .inr ⟨record, found, rfl⟩
  access _ _ found := .inr (.inl found)
  ticket _ _ found := .inr found

variable (update : Update data draws now next)

include update

theorem Update.shrink {shrunk : SessionData} (shrinks : next.Shrinks shrunk) :
    Update data draws now shrunk where
  session token record found := update.session token record (shrinks.session found)
  current token record found := update.current token record (shrinks.session found)
  access token access found := update.access token access (shrinks.access found)
  ticket token ticket found := update.ticket token ticket (shrinks.ticket found)

/-- A live session keeps its access token or gets one that the call has drawn. -/
theorem Update.setSession {old : SessionRecord} (found : data.sessions.lookup token = some old)
    (read : instant ∈ now) (live : old.isLive instant = true)
    (current : record.accessToken = old.accessToken ∨ record.accessToken ∈ draws) :
    Update data draws now (next.setSession token record) :=
  { update with
    session := forall_lookup_insert (.inr ⟨old, found, .inr ⟨instant, read, live⟩⟩)
      update.session
    current := forall_lookup_insert (current.symm.imp_right fun same => ⟨old, found, same⟩)
      update.current }

theorem Update.enterSession (drawn : token ∈ draws) (access_drawn : record.accessToken ∈ draws) :
    Update data draws now (next.setSession token record) :=
  { update with
    session := forall_lookup_insert (.inl drawn) update.session
    current := forall_lookup_insert (.inl access_drawn) update.current }

theorem Update.setAccess {access : AccessRecord}
    (own : token ∈ draws ∨ ∃ old, data.sessions.lookup access.sessionToken = some old ∧
      old.accessToken = token) : Update data draws now (next.setAccess token access) :=
  { update with access := forall_lookup_insert (own.imp_right .inr) update.access }

theorem Update.setTicket (drawn : token ∈ draws) (ticket : WebSocketTicketRecord) :
    Update data draws now (next.setTicket token ticket) :=
  { update with ticket := forall_lookup_insert (.inl drawn) update.ticket }

omit update

theorem live_of_lookup_purgeExpired
    (found : (data.purgeExpired instant).sessions.lookup token = some record) :
    data.sessions.lookup token = some record ∧ record.isLive instant = true := by
  rwa [lookup_purgeExpired, Option.filter_eq_some_iff] at found

end Updates

/-- After a call the invariant holds again, and the entries come from where they may. -/
structure Advances (data : SessionData) (drawn : List Token) (clock : Instant) (draws : List Token)
    (now : Option Instant) (next : SessionData) : Prop where
  invariant : next.Invariant (drawn ++ draws) (now.getD clock)
  update : Update data draws now next

section Advances

variable {data next : SessionData} {drawn draws : List Token} {clock now : Instant} {token : Token}
  {record : SessionRecord}

theorem SessionData.Invariant.advances (inv : data.Invariant drawn clock) (later : clock ≤ now)
    (draws : List Token) : Advances data drawn clock draws (some now) data :=
  ⟨inv.mono (List.subset_append_left _ _) later, .refl data draws _⟩

variable (advances : Advances data drawn clock draws (some now) next)

include advances

theorem Advances.shrink {shrunk : SessionData} (shrinks : next.Shrinks shrunk)
    (linked : shrunk.Linked) : Advances data drawn clock draws (some now) shrunk :=
  ⟨advances.invariant.shrink shrinks linked, advances.update.shrink shrinks⟩

theorem Advances.grant (found : next.sessions.lookup token = some record)
    (seen : record.lastSeen = now) :
    Advances data drawn clock draws (some now)
      (next.setAccess record.accessToken ⟨token, record.accessExpiresAt⟩) := by
  refine ⟨advances.invariant.grant found seen, advances.update.setAccess ?_⟩
  exact (advances.update.current token record found).imp_right fun ⟨old, old_found, same⟩ =>
    ⟨old, old_found, same.symm⟩

variable (shrinks : (data.purgeExpired now).Shrinks next)
  (found : next.sessions.lookup token = some record)

include shrinks found

/-- What a purge has left was live, so that it may be changed. -/
theorem Advances.replace {renewed : SessionRecord} (same_user : renewed.username = record.username)
    (consistent : Consistent next.accesses now token renewed)
    (current : renewed.accessToken = record.accessToken ∨
      ¬next.Mentions renewed.accessToken ∧ renewed.accessToken ∈ draws) :
    Advances data drawn clock draws (some now) (next.setSession token renewed) := by
  obtain ⟨old_found, live⟩ := live_of_lookup_purgeExpired (shrinks.session found)
  exact ⟨advances.invariant.replace found same_user consistent
      (current.imp_right (And.imp_right (List.mem_append_right drawn))),
    advances.update.setSession old_found rfl live (current.imp_right And.right)⟩

theorem Advances.touch : Advances data drawn clock draws (some now) (next.touch token record now) :=
  advances.replace shrinks found rfl (advances.invariant.consistent token record found).touch
    (.inl rfl)

end Advances

end FluxDns.Management.Session
