import FluxDns.Config.Validate

/-!
# Forwarded clients

A proxy appends the address that it has seen to a header of the request.  What the client has
written in front of it does not decide which address is taken.
-/

namespace FluxDns.Transport

open Config List

/-- Why a request has no client address. -/
inductive ClientIpResolutionError where
  | untrustedPeer
  | missing
  | invalid
  deriving DecidableEq

/-- The last address that is no trusted proxy, or the first of all. -/
def selectForwardedClient (chain : List IpAddr) (trustedProxies : List IpNet) : Option IpAddr :=
  (chain.reverse.find? fun address => !trustedProxies.any (·.contains address)) <|> chain.head?

/-- The client of a DoH request.  The header that the endpoint reads is given by its addresses, if
it was sent and could be parsed. -/
def resolveClientIp (endpoint : ClientIpDto) (peer : IpAddr)
    (chain : Option (Option (List IpAddr))) (proxyClient : Option IpAddr) :
    Except ClientIpResolutionError IpAddr :=
  let trustedProxies := endpoint.trustedProxies.getD []
  let otherwise (disposition : Option ForwardedDisposition) (error : ClientIpResolutionError) :
      Except ClientIpResolutionError IpAddr :=
    match disposition.getD .reject with
    | .reject => .error error
    | .usePeer => .ok peer
  if endpoint.source = .peer then .ok peer
  else if !trustedProxies.any (·.contains peer) then .error .untrustedPeer
  else if endpoint.source = .proxyProtocol then
    match proxyClient with
    | some client => .ok client
    | none => .error .invalid
  else if endpoint.header = none then .error .missing
  else
    match chain with
    | none => otherwise endpoint.onMissing .missing
    | some none => otherwise endpoint.onInvalid .invalid
    | some (some chain) =>
      match selectForwardedClient chain trustedProxies with
      | some client => .ok client
      | none => .error .invalid

/-- How the standard library reads addresses and ports. -/
structure Readers where
  ip : List Char → Option IpAddr
  u16 : List Char → Option UInt16

/-- The headers that may name the client. -/
structure ParsedForwardedHeaders where
  xForwardedFor : Option (List Char)
  xRealIp : Option (List Char)
  forwarded : Option (List Char)

def trim (text : List Char) : List Char :=
  ((text.dropWhile isWhiteSpace).reverse.dropWhile isWhiteSpace).reverse

def isAsciiWhitespace (char : Char) : Bool := [' ', '\t', '\n', '\x0c', '\r'].contains char

variable (readers : Readers) (value : List Char)

def parseSingleIp : Option IpAddr :=
  let value := trim value
  if value.isEmpty || value.any isAsciiWhitespace then none else readers.ip value

/-- The addresses of the elements between commas. -/
def parseChain (element : List Char → Option IpAddr) (value : List Char) : Option (List IpAddr) :=
  ((value.splitOn ',').mapM element).filter (· ≠ [])

def parseIpChain : List Char → Option (List IpAddr) :=
  parseChain (parseSingleIp readers)

/-- The text between two quotes, if there is a quote at all. -/
def unquote : Option (List Char) :=
  if value.head? = some '\x22' then
    let inner := value.tail.dropLast
    if value.getLast? ≠ some '\x22' ∨ value.length < 2 ∨ '\x22' ∈ inner ∨ '\x5c' ∈ inner then none
    else some inner
  else some value

def parseForwardedIp : Option IpAddr := do
  match ← unquote value with
  | '[' :: rest =>
    let (address, suffix) ← splitOnce ']' rest
    match suffix with
    | [] => readers.ip address
    | ':' :: port => if (readers.u16 port).isSome then readers.ip address else none
    | _ => none
  | value => parseSingleIp readers value

/-- The address of the only parameter `for`. -/
def parseParameters (readers : Readers) : Option IpAddr → List (List Char) → Option IpAddr
  | address, [] => address
  | address, parameter :: rest => do
    let (name, value) ← splitOnce '=' (trim parameter)
    if (trim name).map Char.toLower = "for".toList then
      if address.isSome then none
      else
        let own ← parseForwardedIp readers (trim value)
        parseParameters readers (some own) rest
    else parseParameters readers address rest

def parseForwardedElement (element : List Char) : Option IpAddr :=
  parseParameters readers none (element.splitOn ';')

def parseForwardedChain : List Char → Option (List IpAddr) :=
  parseChain (parseForwardedElement readers)

/-- The addresses of the header that the endpoint reads. -/
def forwardedChain (headers : ParsedForwardedHeaders) :
    ForwardedHeader → Option (Option (List IpAddr))
  | .xForwardedFor => headers.xForwardedFor.map (parseIpChain readers)
  | .xRealIp => headers.xRealIp.map fun value => (parseSingleIp readers value).map ([·])
  | .forwarded => headers.forwarded.map (parseForwardedChain readers)

/-- `DohClientIpPolicy::resolve` -/
def resolve (policy : ClientIpDto) (peer : IpAddr)
    (headers : ParsedForwardedHeaders) (proxyClient : Option IpAddr) :
    Except ClientIpResolutionError IpAddr :=
  resolveClientIp policy peer (policy.header.bind (forwardedChain readers headers)) proxyClient

/-- The peer or a forwarded address belongs to a proxy. -/
def trusts (policy : ClientIpDto) (address : IpAddr) : Bool :=
  (policy.trustedProxies.getD []).any (·.contains address)

/-- The reader of the elements of a header that lists proxies, and the value of this header. -/
inductive Lists (readers : Readers) (headers : ParsedForwardedHeaders) :
    ForwardedHeader → (List Char → Option IpAddr) → List Char → Prop
  | xForwardedFor {value : List Char} (sent : headers.xForwardedFor = some value) :
      Lists readers headers .xForwardedFor (parseSingleIp readers) value
  | forwarded {value : List Char} (sent : headers.forwarded = some value) :
      Lists readers headers .forwarded (parseForwardedElement readers) value

section Chains

variable {readers : Readers} {headers : ParsedForwardedHeaders} {policy : ClientIpDto}
  {header : ForwardedHeader} {element : List Char → Option IpAddr} {value : List Char}
  {elements : List (List Char)}

theorem Lists.forwardedChain_eq (lists : Lists readers headers header element value) :
    forwardedChain readers headers header = some (parseChain element value) := by
  cases lists with
  | xForwardedFor sent => rw [forwardedChain, sent]; rfl
  | forwarded sent => rw [forwardedChain, sent]; rfl

/-- Elements without commas stay elements behind any text. -/
theorem splitOn_appended (front : Option (List Char))
    (plain : ∀ text ∈ elements, ',' ∉ text) (nonempty : elements ≠ []) :
    ∃ texts, ([','].intercalate (front.toList ++ elements)).splitOn ',' = texts ++ elements := by
  have joined := splitOn_intercalate ',' plain nonempty
  cases front with
  | none => exact ⟨[], joined⟩
  | some front =>
    refine ⟨front.splitOn ',', ?_⟩
    obtain ⟨first, rest, rfl⟩ := exists_cons_of_ne_nil nonempty
    have behind : [','].intercalate ((some front).toList ++ first :: rest) =
        front ++ ',' :: [','].intercalate (first :: rest) := by
      simp [intercalate]
    rw [behind, splitOn_append_cons_self, joined]

/-- A chain that can be read ends with the addresses of its last elements. -/
theorem parseChain_appended (front : Option (List Char))
    {addresses : List IpAddr} (plain : ∀ text ∈ elements, ',' ∉ text) (nonempty : elements ≠ [])
    (read : elements.mapM element = some addresses) {chain : List IpAddr}
    (parsed : parseChain element ([','].intercalate (front.toList ++ elements)) = some chain) :
    ∃ before, chain = before ++ addresses := by
  obtain ⟨texts, split_eq⟩ := splitOn_appended front plain nonempty
  obtain ⟨parsed, -⟩ := Option.filter_eq_some_iff.mp parsed
  rw [split_eq, mapM_append, read] at parsed
  cases before : texts.mapM element with
  | none => simp [before] at parsed
  | some before =>
    simp only [before, Option.bind_eq_bind, Option.bind_some, Option.pure_def] at parsed
    exact ⟨_, (Option.some.inj parsed).symm⟩

theorem selectForwardedClient_appended {before proxies : List IpAddr} {client : IpAddr}
    (untrusted : trusts policy client = false) (trusted : ∀ proxy ∈ proxies, trusts policy proxy) :
    selectForwardedClient (before ++ client :: proxies) (policy.trustedProxies.getD []) =
      some client := by
  have skipped : (proxies.reverse.find? fun address =>
      !(policy.trustedProxies.getD []).any (·.contains address)) = none := by
    rw [find?_eq_none]
    intro proxy mem
    have own := trusted proxy (mem_reverse.mp mem)
    rw [trusts] at own
    simp [own]
  rw [trusts] at untrusted
  rw [selectForwardedClient, reverse_append, reverse_cons, append_assoc,
    find?_append, skipped]
  simp [untrusted]

end Chains

/-- Behind a trusted peer that rejects unreadable headers, the client is the last address that is
not trusted or an error, whatever stands in front of it; an untrusted peer has no say. -/
theorem forwarded_client_not_spoofed (readers : Readers) (policy : ClientIpDto) (peer : IpAddr)
    (headers : ParsedForwardedHeaders) (proxyClient : Option IpAddr) :
    (trusts policy peer = true → policy.source = .forwardedHeader →
      policy.onInvalid.getD .reject = .reject →
      ∀ header element front own proxies client addresses, policy.header = some header →
        Lists readers headers header element
          ([','].intercalate (Option.toList front ++ own :: proxies)) →
        (∀ text ∈ own :: proxies, ',' ∉ text) → element own = some client →
        proxies.mapM element = some addresses → trusts policy client = false →
        (∀ proxy ∈ addresses, trusts policy proxy = true) →
        resolve readers policy peer headers proxyClient = .ok client ∨
          ∃ error, resolve readers policy peer headers proxyClient = .error error) ∧
    (trusts policy peer = false → resolve readers policy peer headers proxyClient =
      if policy.source = .peer then .ok peer else .error .untrustedPeer) := by
  constructor
  · intro peer_trusted source rejects header element front own proxies client addresses selected
      lists plain own_read proxies_read untrusted trusted
    rw [trusts] at peer_trusted
    have read : (own :: proxies).mapM element = some (client :: addresses) := by
      simp [own_read, proxies_read]
    simp only [resolve, resolveClientIp, selected, Option.bind_some, lists.forwardedChain_eq,
      source, peer_trusted, rejects]
    cases parsed : parseChain element ([','].intercalate (front.toList ++ own :: proxies)) with
    | none => exact .inr ⟨_, rfl⟩
    | some chain =>
      obtain ⟨before, rfl⟩ := parseChain_appended front plain (by simp) read parsed
      simp [selectForwardedClient_appended untrusted trusted]
  · intro peer_untrusted
    rw [trusts] at peer_untrusted
    simp [resolve, resolveClientIp, peer_untrusted]

section Example

/-- A reader that knows the texts of two addresses. -/
def sampleReaders : Readers where
  ip text := if text = "192.0.2.7".toList then some (.v4 0xc0000207#32)
    else if text = "127.0.0.1".toList then some (.v4 0x7f000001#32) else none
  u16 _ := none

def samplePolicy : ClientIpDto :=
  ⟨.forwardedHeader, some .forwarded, some [.v4 0x7f000001#32 (Fin.last 32)], none, none⟩

/-- The client has claimed to be a proxy itself. -/
def sampleHeaders : ParsedForwardedHeaders :=
  ⟨none, none, some "for=127.0.0.1,for=192.0.2.7,for=127.0.0.1".toList⟩

theorem forwarded_client_not_spoofed_sample :
    resolve sampleReaders samplePolicy (.v4 0x7f000001#32) sampleHeaders none =
      .ok (.v4 0xc0000207#32) := by
  have resolved := (forwarded_client_not_spoofed sampleReaders samplePolicy (.v4 0x7f000001#32)
    sampleHeaders none).1 (by decide) rfl rfl .forwarded (parseForwardedElement sampleReaders)
    (some "for=127.0.0.1".toList) "for=192.0.2.7".toList ["for=127.0.0.1".toList]
    (.v4 0xc0000207#32) [.v4 0x7f000001#32] rfl (.forwarded rfl) (by decide) rfl rfl (by decide)
    (by decide)
  refine resolved.resolve_right fun ⟨error, failed⟩ => ?_
  have accepted : (resolve sampleReaders samplePolicy (.v4 0x7f000001#32) sampleHeaders none).isOk =
      true := by decide +kernel
  rw [failed] at accepted
  cases accepted

end Example

end FluxDns.Transport
