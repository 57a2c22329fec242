import Mathlib.Data.Prod.Lex
import FluxDns.Config.Identifier
import FluxDns.Dns.Message
import FluxDns.Library.AssociationList

/-!
# Compiled resources

The indexes that hosts and rule set resources are compiled to, and the snapshots that carry them.
-/

namespace FluxDns.Resource

open Config

/-- A DNS name in lower case without its final dot. -/
structure CanonicalDomain where
  text : String
  deriving DecidableEq

namespace CanonicalDomain

def isWildcard (domain : CanonicalDomain) : Bool := "*.".toList.isPrefixOf domain.text.toList

/-- `str::trim` on ASCII white space, the only one that a parsable name can be surrounded by. -/
def trim (text : List Char) : List Char :=
  ((text.dropWhile Char.isWhitespace).reverse.dropWhile Char.isWhitespace).reverse

/-- `CanonicalDomain::parse`, where the name library prints the fully qualified name that it reads
from a text. -/
def parse (nameToAscii : String → Option String) (value : String) : Option CanonicalDomain := do
  let value := trim value.toList
  let name := if "*.".toList.isPrefixOf value then value.drop 2 else value
  if name = [] ∨ '*' ∈ name then none
  else
    let printed ← nameToAscii (String.ofList value)
    let lower := printed.toList.map Char.toLower
    let normalized := if lower = ['.'] then lower else lower.dropLast
    if normalized = [] ∨ normalized = ['*'] then none
    else some ⟨String.ofList normalized⟩

end CanonicalDomain

/-- `split('.')` on characters. -/
def splitLabels : List Char → List (List Char)
  | [] => [[]]
  | char :: rest =>
    match splitLabels rest with
    | [] => [[char]]
    | label :: labels => if char = '.' then [] :: label :: labels else (char :: label) :: labels

/-- The label lists that are left when leading labels are dropped one after the other. -/
def suffixes (labels : List (List Char)) : List (List (List Char)) := labels.tails.filter (· ≠ [])

def joinLabels (labels : List (List Char)) : String := String.ofList (List.intercalate ['.'] labels)

inductive HostsRecord where
  | address (addr : IpAddr)
  | cname (target : CanonicalDomain)

/-- A compiled hosts resource. -/
structure HostsIndex where
  exact : Map CanonicalDomain (List HostsRecord)
  wildcard : Map CanonicalDomain (List HostsRecord)

/-- An exact owner first, then the longest wildcard above the name. -/
def HostsIndex.lookup (index : HostsIndex) (name : CanonicalDomain) : Option (List HostsRecord) :=
  match index.exact.lookup name with
  | some records => some records
  | none =>
    if name.isWildcard then none
    else
      (suffixes (splitLabels name.text.toList)).tail.findSome? fun labels =>
        index.wildcard.lookup ⟨"*." ++ joinLabels labels⟩

inductive RuleMatch where
  | exact
  | suffix (labelCount : Nat)
  | keyword (ordinal : Nat)
  | regex (ordinal : Nat)

/-- A compiled pattern by the texts that it matches. -/
structure CompiledRegex where
  isMatch : String → Bool

/-- The matchers of one rule list; the index under a selector consists of nothing else. -/
structure RuleMatchers where
  exact : List CanonicalDomain
  suffix : List CanonicalDomain
  /-- The keywords in their order. -/
  keywords : List String
  regex : List CompiledRegex

def occursIn (keyword text : List Char) : Bool := text.tails.any keyword.isPrefixOf

def RuleMatchers.matches (nameToAscii : String → Option String) (index : RuleMatchers)
    (name : CanonicalDomain) : Option RuleMatch :=
  if name ∈ index.exact then some .exact
  else
    let bySuffix := (suffixes (splitLabels name.text.toList)).findSome? fun labels => do
      let candidate ← CanonicalDomain.parse nameToAscii (joinLabels labels)
      if candidate ∈ index.suffix then some (RuleMatch.suffix labels.length) else none
    let byKeyword := (index.keywords.findIdx? fun keyword =>
      occursIn keyword.toList name.text.toList).map RuleMatch.keyword
    let byRegex := (index.regex.findIdx? fun regex => regex.isMatch name.text).map RuleMatch.regex
    bySuffix <|> byKeyword <|> byRegex

/-- `RuleIndex`: the selectors of a `dat` resource, each with its own matchers. -/
structure RuleIndex extends RuleMatchers where
  selectors : Map String RuleMatchers

namespace RuleIndex

def isSelectorMap (index : RuleIndex) : Bool := !index.selectors.entries.isEmpty

def selector (index : RuleIndex) (value : String) : Option RuleMatchers :=
  index.selectors.lookup value

end RuleIndex

/-- `ResourceVersion`, ordered by its epoch and then by its revision. -/
structure ResourceVersion where
  epoch : UInt64
  revision : UInt64
  deriving DecidableEq

variable (left right : ResourceVersion)

/-- The derived order of versions. -/
def ResourceVersion.le : Bool :=
  decide (left.epoch < right.epoch) ||
    left.epoch == right.epoch && decide (left.revision ≤ right.revision)

instance : LinearOrder ResourceVersion :=
  LinearOrder.lift' (fun version => toLex (version.epoch.toNat, version.revision.toNat)) (by
    rintro ⟨epoch, revision⟩ ⟨otherEpoch, otherRevision⟩ same
    simpa [UInt64.toNat_inj] using same)

theorem ResourceVersion.le_def : left ≤ right ↔ left.epoch.toNat < right.epoch.toNat ∨
      left.epoch.toNat = right.epoch.toNat ∧ left.revision.toNat ≤ right.revision.toNat :=
  Prod.Lex.toLex_le_toLex

theorem ResourceVersion.le_iff : left.le right = true ↔ left ≤ right := by
  rw [ResourceVersion.le_def]
  simp [ResourceVersion.le, UInt64.lt_iff_toNat_lt, UInt64.le_iff_toNat_le, UInt64.toNat_inj]

/-- The part of `ResourceSnapshot` that a policy takes over. -/
structure ResourceSnapshot (Index : Type) where
  resourceId : ConfigId
  version : ResourceVersion
  contentHash : String
  compiled : Index

end FluxDns.Resource
