import RaftATui.Library.Majority
import RaftATui.Proof.Cluster.Durability

namespace RaftATui
open Machinery
open Machinery.Trace (Obeys)

/-- A majority of the nodes has applied the entry or vouched for it, each in one of its lives. -/
def Replicated (accepts : Message → List Entry) (nodes : Finset Nat) (past : Nat → List (List Effect))
    (entry : Entry) : Prop :=
  ∃ holders, Majority nodes holders ∧
    ∀ node ∈ holders, ∃ trace ∈ past node, ∃ effect ∈ trace, entry ∈ effect.shows accepts

section Nodes

variable {accepts : Message → List Entry} {nodes : Finset Nat} {X : Nat → Externals} {peers : Nat → List Nat}
  {db : Nat → Db} {past : Nat → List (List Effect)}

/-- Each majority has a node that keeps a replicated entry. -/
theorem Replicated.keeps {entry : Entry} (replicated : Replicated accepts nodes past entry)
    (lives : ∀ node ∈ nodes, Lives (X node) (peers node) (Committing accepts) (db node) (past node))
    {quorum : Finset Nat} (majority : Majority nodes quorum) : ∃ node ∈ quorum, (db node).Keeps entry := by
  obtain ⟨holders, many, holds⟩ := replicated
  obtain ⟨node, held, member⟩ := many.meet majority
  obtain ⟨trace, lived, effect, found, shown⟩ := holds node held
  exact ⟨node, member, ((lives node (many.inside held)).guards trace lived effect found entry shown).2.keeps⟩

end Nodes

end RaftATui
