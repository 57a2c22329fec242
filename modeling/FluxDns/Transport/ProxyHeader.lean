import FluxDns.Transport.Forwarded
import FluxDns.Library.ByteReader

/-!
# The PROXY header of a connection

A proxy sends a header in front of the bytes of its client.  The session reads it byte by byte, so
that it takes nothing of the protocol that follows.
-/

namespace FluxDns.Transport

open ByteReader List

def maxProxyV1Bytes : Nat := 107

def maxProxyV2Bytes : Nat := 536

/-- `PROXY` and a space. -/
def proxyV1Prefix : List UInt8 := [80, 82, 79, 88, 89, 32]

def proxyV2Signature : List UInt8 := [13, 10, 13, 10, 0, 13, 10, 81, 85, 73, 84, 10]

inductive ProxyHeaderParse where
  | complete (consumed : Nat) (client : IpAddr)
  | incomplete

def findSubslice (haystack needle : List UInt8) : Option Nat :=
  (range (haystack.length + 1 - needle.length)).find? fun start =>
    decide (slice haystack start (start + needle.length) = needle)

def isIpv4 : IpAddr → Bool
  | .v4 _ => true
  | .v6 _ => false

variable (readers : Readers)

/-- The fields of the line of version 1. -/
def parseProxyLine (line : List UInt8) : Option IpAddr := do
  let text ← String.fromUTF8? ⟨line.toArray⟩
  match (text.toList.splitOnP isAsciiWhitespace).filter (· ≠ []) with
  | [name, protocol, source, destination, sourcePort, destinationPort] =>
    let source ← parseSingleIp readers source
    let destination ← parseSingleIp readers destination
    let sourcePort ← readers.u16 sourcePort
    let destinationPort ← readers.u16 destinationPort
    if name = "PROXY".toList ∧ sourcePort ≠ 0 ∧ destinationPort ≠ 0 ∧
        (protocol = "TCP4".toList ∧ isIpv4 source ∧ isIpv4 destination ∨
          protocol = "TCP6".toList ∧ !isIpv4 source ∧ !isIpv4 destination) then some source
    else none
  | _ => none

variable (buffer : List UInt8)

def parseProxyV1 : Except Unit ProxyHeaderParse :=
  match findSubslice buffer [13, 10] with
  | none => if buffer.length < maxProxyV1Bytes then .ok .incomplete else .error ()
  | some lineEnd =>
    if maxProxyV1Bytes < lineEnd + 2 then .error ()
    else
      match parseProxyLine readers (slice buffer 0 lineEnd) with
      | none => .error ()
      | some client => .ok (.complete (lineEnd + 2) client)

/-- The address of the client and both ports; families other than TCP over IP are unknown. -/
def proxyAddresses (family payloadLength : Nat) :
    Option (IpAddr × Nat × Nat) :=
  if family = 0x11 ∧ 12 ≤ payloadLength then
    some (.v4 (.ofNat 32 (fromBigEndian (slice buffer 16 20))), fromBigEndian (slice buffer 24 26),
      fromBigEndian (slice buffer 26 28))
  else if family = 0x21 ∧ 36 ≤ payloadLength then
    some (.v6 (.ofNat 128 (fromBigEndian (slice buffer 16 32))), fromBigEndian (slice buffer 48 50),
      fromBigEndian (slice buffer 50 52))
  else none

def parseProxyV2 : Except Unit ProxyHeaderParse :=
  if buffer.length < 16 then .ok .incomplete
  else
    let versionCommand := fromBigEndian (slice buffer 12 13)
    let payloadLength := fromBigEndian (slice buffer 14 16)
    if versionCommand / 16 ≠ 2 ∨ versionCommand % 16 ≠ 1 ∨ maxProxyV2Bytes < 16 + payloadLength then
      .error ()
    else if buffer.length < 16 + payloadLength then .ok .incomplete
    else
      match proxyAddresses buffer (fromBigEndian (slice buffer 13 14)) payloadLength with
      | none => .error ()
      | some (client, sourcePort, destinationPort) =>
        if sourcePort = 0 ∨ destinationPort = 0 then .error ()
        else .ok (.complete (16 + payloadLength) client)

def parseProxyHeader : Except Unit ProxyHeaderParse :=
  if buffer <+: proxyV1Prefix then .ok .incomplete
  else if proxyV1Prefix <+: buffer then parseProxyV1 readers buffer
  else if buffer <+: proxyV2Signature then .ok .incomplete
  else if proxyV2Signature <+: buffer then parseProxyV2 buffer
  else .error ()

inductive ProxyEvent where
  /-- The bytes that stay in the buffer, and those that were not read. -/
  | accepted (client : IpAddr) (buffer stream : List UInt8)
  | malformed (taken : Nat)

/-- The loop of `receive` before the header is done, over what the peer sends until it closes. -/
def readProxyHeader (readers : Readers) (buffer stream : List UInt8) : ProxyEvent :=
  match parseProxyHeader readers buffer with
  | .error _ => .malformed buffer.length
  | .ok (.complete consumed client) => .accepted client (buffer.drop consumed) stream
  | .ok .incomplete =>
    if maxProxyV2Bytes ≤ buffer.length then .malformed buffer.length
    else
      match stream with
      | [] => .malformed buffer.length
      | byte :: rest => readProxyHeader readers (buffer ++ [byte]) rest

variable {readers : Readers} {buffer haystack needle : List UInt8} {start consumed : Nat}
  {client : IpAddr}

theorem findSubslice_eq_some : findSubslice haystack needle = some start ↔
    slice haystack start (start + needle.length) = needle ∧
      start + needle.length ≤ haystack.length ∧
      ∀ earlier < start, slice haystack earlier (earlier + needle.length) ≠ needle := by
  simp only [findSubslice, find?_range_eq_some, decide_eq_true_eq, mem_range,
    Bool.not_eq_true', decide_eq_false_iff_not]
  exact and_congr_right fun _ => and_congr_left fun _ => by omega

/-- Further bytes add only parts that end among them. -/
theorem findSubslice_append_iff (suffix : List UInt8) : findSubslice haystack needle = some start ↔
      findSubslice (haystack ++ suffix) needle = some start ∧
        start + needle.length ≤ haystack.length := by
  simp only [findSubslice_eq_some, length_append]
  constructor
  · rintro ⟨here, within, first⟩
    refine ⟨⟨by rwa [slice_append_of_le suffix within], by omega, fun earlier before => ?_⟩, within⟩
    rw [slice_append_of_le suffix (by omega)]
    exact first earlier before
  · rintro ⟨⟨here, -, first⟩, within⟩
    rw [slice_append_of_le suffix within] at here
    refine ⟨here, within, fun earlier before => ?_⟩
    rw [← slice_append_of_le suffix (by omega)]
    exact first earlier before

/-- There is no verdict yet, and a header that is complete later ends among the later bytes. -/
structure Waits (buffer whole : List UInt8) (now later : Except Unit ProxyHeaderParse) : Prop where
  incomplete : now = .ok .incomplete
  consumed : ∀ consumed client, later = .ok (.complete consumed client) →
    buffer.length < consumed ∧ consumed ≤ whole.length

theorem parseProxyV1_append (readers : Readers) (buffer suffix : List UInt8) :
    Waits buffer (buffer ++ suffix) (parseProxyV1 readers buffer)
        (parseProxyV1 readers (buffer ++ suffix)) ∨
      parseProxyV1 readers (buffer ++ suffix) = parseProxyV1 readers buffer := by
  unfold parseProxyV1
  cases found : findSubslice buffer [13, 10] with
  | some lineEnd =>
    right
    obtain ⟨later, within⟩ := (findSubslice_append_iff suffix).mp found
    rw [later]
    simp only [slice_append_of_le suffix (Nat.le_of_add_right_le within)]
  | none =>
    have beyond {lineEnd : Nat} (later : findSubslice (buffer ++ suffix) [13, 10] = some lineEnd) :
        buffer.length < lineEnd + 2 := by
      by_contra within
      have earlier := (findSubslice_append_iff suffix).mpr ⟨later, Nat.le_of_not_lt within⟩
      rw [found] at earlier
      cases earlier
    by_cases short : buffer.length < maxProxyV1Bytes
    · refine .inl ⟨if_pos short, fun consumed client done => ?_⟩
      repeat' split at done
      all_goals cases done
      next later _ _ _ => exact ⟨beyond later, (findSubslice_eq_some.mp later).2.1⟩
    · right
      simp only [if_neg short]
      split
      · exact if_neg (by rw [length_append]; omega)
      · next later => exact if_pos ((Nat.le_of_not_lt short).trans_lt (beyond later))

theorem proxyAddresses_append (suffix : List UInt8) {family payloadLength : Nat}
    (within : 16 + payloadLength ≤ buffer.length) :
    proxyAddresses (buffer ++ suffix) family payloadLength =
      proxyAddresses buffer family payloadLength := by
  unfold proxyAddresses
  split_ifs <;> simp (disch := omega) only [slice_append_of_le]

theorem consumed_of_parseProxyV2 (done : parseProxyV2 buffer = .ok (.complete consumed client)) :
    16 ≤ consumed ∧ consumed ≤ buffer.length := by
  unfold parseProxyV2 at done
  dsimp only at done
  repeat' split at done
  all_goals cases done
  omega

theorem parseProxyV2_append (buffer suffix : List UInt8) :
    Waits buffer (buffer ++ suffix) (parseProxyV2 buffer) (parseProxyV2 (buffer ++ suffix)) ∨
      parseProxyV2 (buffer ++ suffix) = parseProxyV2 buffer := by
  by_cases short : buffer.length < 16
  · refine .inl ⟨if_pos short, fun consumed client done => ?_⟩
    obtain ⟨most, within⟩ := consumed_of_parseProxyV2 done
    exact ⟨short.trans_le most, within⟩
  have long : ¬(buffer ++ suffix).length < 16 := by
    rw [length_append]
    omega
  simp only [parseProxyV2, if_neg short, if_neg long,
    slice_append_of_le suffix (show 13 ≤ buffer.length by omega),
    slice_append_of_le suffix (show 14 ≤ buffer.length by omega),
    slice_append_of_le suffix (show 16 ≤ buffer.length by omega)]
  split_ifs with refused now later later
  · exact .inr rfl
  · exact .inl ⟨rfl, fun _ _ done => by cases done⟩
  · refine .inl ⟨rfl, fun consumed client done => ?_⟩
    repeat' split at done
    all_goals cases done
    exact ⟨now, Nat.le_of_not_lt later⟩
  · rw [length_append] at later
    omega
  · right
    rw [proxyAddresses_append suffix (Nat.le_of_not_lt now)]

/-- Further bytes do not change a verdict. -/
theorem parseProxyHeader_append (readers : Readers) (buffer suffix : List UInt8) :
    Waits buffer (buffer ++ suffix) (parseProxyHeader readers buffer)
        (parseProxyHeader readers (buffer ++ suffix)) ∨
      parseProxyHeader readers (buffer ++ suffix) = parseProxyHeader readers buffer := by
  have longer {header : List UInt8} (differs : ¬buffer <+: header) : ¬buffer ++ suffix <+: header :=
    fun le => differs ((prefix_append _ _).trans le)
  have starts {header : List UInt8} (differs : ¬buffer <+: header) :
      header <+: buffer ++ suffix ↔ header <+: buffer := by
    refine ⟨fun le => ?_, fun le => le.trans (prefix_append _ _)⟩
    have comparable := prefix_or_prefix_of_prefix le (prefix_append _ _)
    exact comparable.resolve_right differs
  unfold parseProxyHeader
  by_cases first : buffer <+: proxyV1Prefix
  · have short : buffer.length ≤ 6 := first.length_le
    refine .inl ⟨if_pos first, fun consumed client done => ?_⟩
    split_ifs at done with _ v1 <;> try cases done
    · unfold parseProxyV1 at done
      repeat' split at done
      all_goals cases done
      next lineEnd found _ _ _ =>
      obtain ⟨here, within, -⟩ := findSubslice_eq_some.mp found
      refine ⟨?_, within⟩
      -- The letters of the signature do not end a line.
      obtain ⟨rest, whole⟩ := v1
      rw [← whole] at here
      by_contra early
      obtain rfl | rfl | rfl | rfl | rfl : lineEnd = 0 ∨ lineEnd = 1 ∨ lineEnd = 2 ∨ lineEnd = 3 ∨
          lineEnd = 4 := by omega
      all_goals simp [slice, proxyV1Prefix] at here
    · obtain ⟨most, within⟩ := consumed_of_parseProxyV2 done
      exact ⟨by omega, within⟩
  simp only [if_neg first, if_neg (longer first), starts first]
  by_cases v1 : proxyV1Prefix <+: buffer
  · simp only [if_pos v1]
    exact parseProxyV1_append readers buffer suffix
  simp only [if_neg v1]
  by_cases second : buffer <+: proxyV2Signature
  · have short : buffer.length ≤ 12 := second.length_le
    refine .inl ⟨if_pos second, fun consumed client done => ?_⟩
    split_ifs at done <;> try cases done
    obtain ⟨most, within⟩ := consumed_of_parseProxyV2 done
    exact ⟨by omega, within⟩
  simp only [if_neg second, if_neg (longer second), starts second]
  by_cases v2 : proxyV2Signature <+: buffer
  · simp only [if_pos v2]
    exact parseProxyV2_append buffer suffix
  · exact .inr (by rw [if_neg v2, if_neg v2])

theorem length_lt_of_incomplete (waiting : parseProxyHeader readers buffer = .ok .incomplete) :
    buffer.length < maxProxyV2Bytes := by
  unfold parseProxyHeader parseProxyV1 parseProxyV2 at waiting
  dsimp only at waiting
  repeat' split at waiting
  all_goals cases waiting
  · next first => exact first.length_le.trans_lt (by decide)
  · next short => exact short.trans (by decide)
  · next second => exact second.length_le.trans_lt (by decide)
  · next short => exact short.trans (by decide)
  · omega

/-- The verdict on a stream within 536 bytes: an error, or a header and what follows it. -/
def Settles (readers : Readers) (stream : List UInt8) (event : ProxyEvent) : Prop :=
  (∃ taken rest, stream = taken ++ rest ∧ taken.length ≤ maxProxyV2Bytes ∧
      (parseProxyHeader readers taken = .error () ∨ rest = []) ∧
      event = .malformed taken.length) ∨
    ∃ header rest client, stream = header ++ rest ∧ header.length ≤ maxProxyV2Bytes ∧
      parseProxyHeader readers header = .ok (.complete header.length client) ∧
      event = .accepted client [] rest

theorem settles_readProxyHeader {stream : List UInt8} (short : buffer.length ≤ maxProxyV2Bytes)
    (waited : buffer = [] ∨ ∃ before byte, buffer = before ++ [byte] ∧
      parseProxyHeader readers before = .ok .incomplete) :
    Settles readers (buffer ++ stream) (readProxyHeader readers buffer stream) := by
  induction stream generalizing buffer with
  | nil | cons byte rest induction =>
    unfold readProxyHeader
    split
    · next refused => exact .inl ⟨buffer, _, rfl, short, .inl refused, rfl⟩
    · next consumed client done =>
      have all : consumed = buffer.length := by
        rcases waited with rfl | ⟨before, byte, rfl, waiting⟩
        · cases done
        · rcases parseProxyHeader_append readers before [byte] with waits | same
          · obtain ⟨more, within⟩ := waits.consumed _ _ done
            rw [length_append] at within ⊢
            exact Nat.le_antisymm within more
          · cases (done.symm.trans same).trans waiting
      subst all
      exact .inr ⟨buffer, _, client, rfl, short, done, by rw [drop_length]⟩
    · next waiting =>
      have room := length_lt_of_incomplete waiting
      rw [if_neg (Nat.not_le.mpr room)]
      first
      | exact .inl ⟨buffer, [], rfl, short, .inr rfl, rfl⟩
      | rw [append_cons]
        exact induction (by rw [length_append]; exact room) (.inr ⟨buffer, byte, rfl, waiting⟩)

/-- Further bytes do not change the verdict on a header.  Read byte by byte, every stream has its
verdict within 536 bytes, and an accepted header consumes just the bytes that were read. -/
theorem proxy_header_reading (readers : Readers) :
    (∀ buffer suffix, parseProxyHeader readers buffer = .ok .incomplete ∨
      parseProxyHeader readers (buffer ++ suffix) = parseProxyHeader readers buffer) ∧
    ∀ stream, Settles readers stream (readProxyHeader readers [] stream) :=
  ⟨fun buffer suffix => (parseProxyHeader_append readers buffer suffix).imp_left Waits.incomplete,
    fun _ => settles_readProxyHeader (Nat.zero_le _) (.inl rfl)⟩

end FluxDns.Transport
