/-
The data types of the lib3h protocol (`lib3h_protocol::data_types`), the records that the
sim2h relay and the core's network handler exchange. The crate is not part of the
repository: each record has the fields the repository's code builds and reads, under the
names it uses. Agent ids, space, entry and aspect hashes are addresses of one type `A`;
byte payloads (`Opaque`) are byte lists.
-/
import Mathlib.Data.List.Basic

namespace Holochain

/-- `Opaque`: bytes a record carries without interpreting them. -/
abbrev Opaque := List UInt8

variable (A : Type)

/-- `SpaceData`: an agent joining or leaving a space. -/
structure SpaceData where
  requestId : String
  spaceAddress : A
  agentId : A
  deriving DecidableEq, Repr

/-- `DirectMessageData`: a node-to-node message, or its answer under the same request id. -/
structure DirectMessageData where
  spaceAddress : A
  requestId : String
  toAgentId : A
  fromAgentId : A
  content : Opaque
  deriving DecidableEq, Repr

/-- `EntryAspectData`: one aspect of an entry, its content serialized. -/
structure EntryAspectData where
  aspectAddress : A
  typeHint : String
  aspect : Opaque
  publishTs : Nat
  deriving DecidableEq, Repr

/-- `EntryData`: an entry's address and aspects. -/
structure EntryData where
  entryAddress : A
  aspectList : List (EntryAspectData A)
  deriving DecidableEq, Repr

/-- `ProvidedEntryData`: an entry an agent publishes. -/
structure ProvidedEntryData where
  spaceAddress : A
  providerAgentId : A
  entry : EntryData A
  deriving DecidableEq, Repr

/-- `StoreEntryAspectData`: a request to hold one aspect. -/
structure StoreEntryAspectData where
  requestId : String
  spaceAddress : A
  providerAgentId : A
  entryAddress : A
  entryAspect : EntryAspectData A
  deriving DecidableEq, Repr

/-- `GetListData`: a request for an agent's list of authored or held entries. -/
structure GetListData where
  spaceAddress : A
  providerAgentId : A
  requestId : String
  deriving DecidableEq, Repr

/-- `EntryListData`: such a list, aspect hashes by entry hash (a `HashMap`). -/
structure EntryListData where
  spaceAddress : A
  providerAgentId : A
  requestId : String
  addressMap : List (A × List A)
  deriving DecidableEq, Repr

/-- `FetchEntryData`: a request for some aspects of an entry. -/
structure FetchEntryData where
  spaceAddress : A
  entryAddress : A
  requestId : String
  providerAgentId : A
  aspectAddressList : Option (List A)
  deriving DecidableEq, Repr

/-- `FetchEntryResultData`: the fetched aspects. -/
structure FetchEntryResultData where
  spaceAddress : A
  providerAgentId : A
  requestId : String
  entry : EntryData A
  deriving DecidableEq, Repr

/-- `QueryEntryData`: a query about an entry, serialized. -/
structure QueryEntryData where
  spaceAddress : A
  entryAddress : A
  requestId : String
  requesterAgentId : A
  query : Opaque
  deriving DecidableEq, Repr

/-- `QueryEntryResultData`: the answer to a query, serialized. -/
structure QueryEntryResultData where
  spaceAddress : A
  entryAddress : A
  requestId : String
  requesterAgentId : A
  responderAgentId : A
  queryResult : Opaque
  deriving DecidableEq, Repr

/-- `GenericResultData`: a failure reported by the network. -/
structure GenericResultData where
  requestId : String
  spaceAddress : A
  toAgentId : A
  resultInfo : Opaque
  deriving DecidableEq, Repr

end Holochain
