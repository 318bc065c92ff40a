/-
What dropping a uri does to the sim2h store (`Store::drop_connection_by_uri`, with
`drop_connection_inner`, `clear_holding` and `check_drop_spaces`).

In each space that maps the uri to an agent, the agent's holdings are cleared and its
connection and the uri it was on are removed; then every space without connections is
dropped. Over every run the uri is on the mapped agent's connection (`reachable_uriRoutes`),
so in a space that is kept the uri routes nowhere afterwards and nothing of the other agents
changes (`dropConnectionByUri_frame`). The uri is found through the uri map only, and the
garbage collection takes every empty space (`drop_connection_by_uri_misses`).
-/
import Holochain.Sim2h.ImState

namespace Holochain.Sim2h

variable {A U : Type} [DecidableEq A]

/-- The agent is in the holding of the aspect of the entry. -/
def Space.HoldsAspect (s : Space A U) (agentId entryHash aspectHash : A) : Prop :=
  agentId ∈ ((s.entryToAllAspects.lookup entryHash).bind (·.aspects.lookup aspectHash)).getD ∅

instance (s : Space A U) (agentId entryHash aspectHash : A) :
    Decidable (s.HoldsAspect agentId entryHash aspectHash) :=
  inferInstanceAs (Decidable (agentId ∈ _))

namespace Space

variable {s : Space A U}

/-- `clear_holding` takes the agent out of every holding and nobody else. -/
theorem holdsAspect_clearHolding (agentId b entryHash aspectHash : A) :
    (s.clearHolding agentId).HoldsAspect b entryHash aspectHash ↔
      b ≠ agentId ∧ s.HoldsAspect b entryHash aspectHash := by
  unfold HoldsAspect
  rw [lookup_entryToAllAspects_clearHolding]
  cases s.entryToAllAspects.lookup entryHash with
  | none => simp
  | some info =>
    cases hx : info.aspects.lookup aspectHash with
    | none => simp [AList.lookup_mapVal, hx]
    | some holding => simp [AList.lookup_mapVal, hx, Finset.mem_erase]

end Space

variable [DecidableEq U] {s : Store A U}

namespace Store

theorem holdsAspect_dropConnectionInner (space : Space A U) (agentId b entryHash aspectHash : A) :
    (dropConnectionInner space agentId).HoldsAspect b entryHash aspectHash ↔
      b ≠ agentId ∧ space.HoldsAspect b entryHash aspectHash := by
  unfold Space.HoldsAspect
  rw [entryToAllAspects_dropConnectionInner]
  exact Space.holdsAspect_clearHolding agentId b entryHash aspectHash

/-- A space after the drop is a space of the store, dropped from if it maps the uri, and
with a connection left. -/
theorem lookup_spaces_dropConnectionByUri {uri : U} {spaceHash : A} {space' : Space A U}
    (hspace' : (s.dropConnectionByUri uri).spaces.lookup spaceHash = some space') :
    ∃ space, s.spaces.lookup spaceHash = some space ∧ space'.connections.entries ≠ [] ∧
      space' = match space.uriToConnection.lookup uri with
        | some agentId => dropConnectionInner space agentId
        | none => space := by
  simp only [Store.dropConnectionByUri, checkDropSpaces, AList.lookup_filter,
    AList.lookup_mapVal] at hspace'
  obtain ⟨hmapped, hkept⟩ := Option.filter_eq_some_iff.mp hspace'
  obtain ⟨space, hspace, rfl⟩ := Option.map_eq_some_iff.mp hmapped
  refine ⟨space, hspace, ?_, rfl⟩
  simpa using hkept

/-- Dropping a uri, in a space that is kept: the uri routes nowhere, the agent it routed to
has no connection and holds nothing, and every other uri, connection and holding is as it
was. -/
theorem dropConnectionByUri_frame (hroutes : s.UriRoutes) (uri : U) {spaceHash : A}
    {space' : Space A U}
    (hspace' : (s.dropConnectionByUri uri).spaces.lookup spaceHash = some space') :
    ∃ space, s.spaces.lookup spaceHash = some space ∧
      space'.connections.entries ≠ [] ∧
      space'.uriToConnection.lookup uri = none ∧
      (∀ u, u ≠ uri → space'.uriToConnection.lookup u = space.uriToConnection.lookup u) ∧
      (∀ a, space.uriToConnection.lookup uri = some a →
        space'.connections.lookup a = none ∧ ∀ e x, ¬space'.HoldsAspect a e x) ∧
      (∀ b, space.uriToConnection.lookup uri ≠ some b →
        space'.connections.lookup b = space.connections.lookup b ∧
          ∀ e x, space'.HoldsAspect b e x ↔ space.HoldsAspect b e x) := by
  obtain ⟨space, hspace, hkept, rfl⟩ := lookup_spaces_dropConnectionByUri hspace'
  refine ⟨space, hspace, hkept, ?_⟩
  cases hmapped : space.uriToConnection.lookup uri with
  | none =>
    -- the space does not know the uri and is kept as it was
    dsimp only
    refine ⟨hmapped, fun _ _ => rfl, ?_, fun _ _ => ⟨rfl, fun _ _ => Iff.rfl⟩⟩
    intro a hnone
    cases hnone
  | some a =>
    -- the uri is on the mapped agent's connection, which the drop removes with the uri
    obtain ⟨c, hc, hcu⟩ := hroutes spaceHash space hspace uri a hmapped
    have hold : ∀ u, (space.connections.lookup a).map (·.uri) = some u ↔ u = uri := by
      intro u
      rw [hc, Option.map_some, Option.some.injEq, hcu, eq_comm]
    refine ⟨?_, fun u hu => ?_, fun a' ha' => ?_, fun b hb => ?_⟩
    · rw [lookup_uriToConnection_dropConnectionInner, if_pos ((hold uri).mpr rfl)]
    · rw [lookup_uriToConnection_dropConnectionInner, if_neg (fun h => hu ((hold u).mp h))]
    · cases ha'
      refine ⟨by rw [lookup_connections_dropConnectionInner, if_pos rfl], fun e x hholds => ?_⟩
      exact ((holdsAspect_dropConnectionInner space a a e x).mp hholds).1 rfl
    · have hba : b ≠ a := fun h => hb (by rw [h])
      refine ⟨by rw [lookup_connections_dropConnectionInner, if_neg hba], fun e x => ?_⟩
      rw [holdsAspect_dropConnectionInner]
      exact and_iff_right hba

end Store

/-- Dropping a uri misses a connection on it and takes other agents' holdings. An agent that
joined on uri 100 before another agent joined on it keeps its connection on uri 100 after
the drop, since the uri routes only to the second. An agent that reports holdings in a space
without connections loses them at the next drop of any uri, since every empty space is
dropped. -/
theorem drop_connection_by_uri_misses :
    (∃ s : Store Nat Nat,
      Run.Reachable (StoreStep (fun _ => some 0) (fun _ => 0)) (Store.new 0 none) s ∧
      (((s.mutate (fun _ => some 0) (fun _ => 0) (.dropConnectionByUri 100)).spaces.lookup 1).bind
        (·.connections.lookup 10)).map (·.uri) = some 100) ∧
    (∃ s : Store Nat Nat,
      Run.Reachable (StoreStep (fun _ => some 0) (fun _ => 0)) (Store.new 0 none) s ∧
      (s.spaces.lookup 2).any (fun space => decide (space.HoldsAspect 5 7 8)) = true ∧
      ((s.mutate (fun _ => some 0) (fun _ => 0) (.dropConnectionByUri 100)).spaces.lookup
        2).isNone = true) := by
  refine ⟨⟨_, .step (.newConnection 1 11 100 0)
      (.step (.newConnection 1 10 100 0) .init rfl) rfl, ?_⟩,
    ⟨_, .step (.agentHoldsAspects 2 5 7 [8])
      (.step (.newConnection 1 10 100 0) .init rfl) rfl, ?_, ?_⟩⟩ <;> decide

end Holochain.Sim2h
