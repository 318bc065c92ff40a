/-
The data model of `holochain_core_types`: entry types, entries, chain headers and
capability grants.

Addresses (`HashString`s: content hashes and agent keys) are a type parameter `A`; the
model only compares them. Content addressing itself (`AddressableContent::address`, a hash
of the serialised content from `holochain_persistence_api`) is not under the repository:
where a definition needs it, it takes the hash as a function `CasContent A → A`.

Payloads no modelled function reads (the DNA, link lists, chain migrations) are kept as
their JSON text.
-/
import Mathlib.Data.List.Basic

namespace Holochain

/-- `EntryType`: the type of an entry; `App` carries the application's type name. -/
inductive EntryType
  | app (name : String)
  | dna
  | agentId
  | deletion
  | linkAdd
  | linkRemove
  | linkList
  | chainHeader
  | chainMigrate
  | capTokenGrant
  | capTokenClaim
  deriving DecidableEq, Repr

namespace EntryType

/-- `EntryType::is_app`. -/
def isApp : EntryType → Bool
  | app _ => true
  | _ => false

/-- `EntryType::is_sys`. -/
def isSys (t : EntryType) : Bool := !t.isApp

/-- `From<EntryType> for String`: system types carry the `%` prefix. -/
def toString : EntryType → String
  | app name => name
  | agentId => "%agent_id"
  | deletion => "%deletion"
  | dna => "%dna"
  | chainHeader => "%chain_header"
  | linkAdd => "%link_add"
  | linkRemove => "%link_remove"
  | linkList => "%link_list"
  | chainMigrate => "%chain_migrate"
  | capTokenClaim => "%cap_token_claim"
  | capTokenGrant => "%cap_token_grant"

/-- `EntryType::from_str`. The source's error type is never produced: every string that is
not a system name is an application type name, the empty string included. -/
def fromStr (s : String) : EntryType :=
  if s = "%agent_id" then agentId
  else if s = "%deletion" then deletion
  else if s = "%dna" then dna
  else if s = "%chain_header" then chainHeader
  else if s = "%link_add" then linkAdd
  else if s = "%link_remove" then linkRemove
  else if s = "%link_list" then linkList
  else if s = "%chain_migrate" then chainMigrate
  else if s = "%cap_token_claim" then capTokenClaim
  else if s = "%cap_token_grant" then capTokenGrant
  else app s

end EntryType

variable (A : Type)

/-- `Provenance(source, signature)`: an agent key and its signature of some data. -/
structure Provenance where
  source : A
  signature : String
  deriving DecidableEq, Repr

/-- `ChainHeader`. The timestamp (`Iso8601`) is kept as nanoseconds since the epoch. -/
structure ChainHeader where
  entryType : EntryType
  entryAddress : A
  provenances : List (Provenance A)
  /-- the immediately preceding header -/
  link : Option A
  /-- the most recent earlier header of the same entry type -/
  linkSameType : Option A
  /-- the header of the previous version of this entry -/
  linkUpdateDelete : Option A
  timestamp : Int
  deriving DecidableEq, Repr

/-- `CapabilityType`. -/
inductive CapabilityType
  | «public»
  | transferable
  | assigned
  deriving DecidableEq, Repr

/-- `CapFunctions`: function names by zome name (a `BTreeMap<String, Vec<String>>`). -/
abbrev CapFunctions := List (String × List String)

/-- `CapTokenGrant`: a grant entry of the callee. Its capability type is not stored but
read off the shape of `assignees` (`CapTokenGrant::cap_type`). -/
structure CapTokenGrant where
  id : String
  assignees : Option (List A)
  functions : CapFunctions
  deriving DecidableEq, Repr

/-- `CapTokenClaim`: a token held by a caller. -/
structure CapTokenClaim where
  id : String
  grantor : A
  token : A
  deriving DecidableEq, Repr

/-- `Link`, the part of `LinkData` the reducers read. -/
structure LinkData where
  base : A
  target : A
  linkType : String
  tag : String
  deriving DecidableEq, Repr

/-- `Entry`. -/
inductive Entry
  | app (entryType : String) (value : String)
  | dna (json : String)
  | agentId (nick : String) (pubSignKey : A)
  | deletion (deletedEntryAddress : A)
  | linkAdd (link : LinkData A)
  | linkRemove (link : LinkData A) (linksToRemove : List A)
  | linkList (json : String)
  | chainHeader (header : ChainHeader A)
  | chainMigrate (json : String)
  | capTokenClaim (claim : CapTokenClaim A)
  | capTokenGrant (grant : CapTokenGrant A)
  deriving DecidableEq, Repr

/-- What the content-addressable store holds: the serialised form of an entry or of a
header. The two are stored side by side and told apart by decoding. -/
inductive CasContent
  | entry (e : Entry A)
  | header (h : ChainHeader A)
  deriving DecidableEq, Repr

variable {A}

/-- `Entry::entry_type`. -/
def Entry.entryType : Entry A → EntryType
  | .app t _ => .app t
  | .dna _ => .dna
  | .agentId _ _ => .agentId
  | .deletion _ => .deletion
  | .linkAdd _ => .linkAdd
  | .linkRemove _ _ => .linkRemove
  | .linkList _ => .linkList
  | .chainHeader _ => .chainHeader
  | .chainMigrate _ => .chainMigrate
  | .capTokenClaim _ => .capTokenClaim
  | .capTokenGrant _ => .capTokenGrant

end Holochain
