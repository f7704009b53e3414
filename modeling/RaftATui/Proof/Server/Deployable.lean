import RaftATui.Proof.Client.Redirect
import RaftATui.Proof.Server.PeerList
import Mathlib.Data.List.Pairwise

namespace RaftATui
open Machinery

section Ports

variable {Ip : Type}

/-- This is the address that the gRPC server of a peer listens on. -/
def SocketAddr.listener (addr : SocketAddr Ip) : SocketAddr Ip := { addr with port := addr.port + 1000 }

/-- On one host the ports are neither equal nor a thousand apart. -/
def SocketAddr.Apart (first second : SocketAddr Ip) : Prop :=
  first.ip = second.ip → first.port ≠ second.port ∧ first.port.toNat + 1000 ≠ second.port.toNat ∧
    second.port.toNat + 1000 ≠ first.port.toNat

instance [DecidableEq Ip] (first second : SocketAddr Ip) : Decidable (first.Apart second) :=
  inferInstanceAs (Decidable (first.ip = second.ip → _))

namespace SocketAddr

/-- Two addresses are apart in both directions. -/
theorem Apart.symm {first second : SocketAddr Ip} (apart : first.Apart second) : second.Apart first := by
  intro host
  obtain ⟨differ, above, below⟩ := apart host.symm
  exact ⟨differ.symm, below, above⟩

/-- The listener of a small port is one thousand above it. -/
theorem listener_port {addr : SocketAddr Ip} (small : addr.port.toNat ≤ 64535) :
    addr.listener.port.toNat = addr.port.toNat + 1000 := by
  change (addr.port + 1000).toNat = _
  rw [UInt16.toNat_add]
  change (addr.port.toNat + 1000) % 65536 = _
  omega

/-- A debug build has a listener exactly for the ports up to 64535. -/
theorem grpc_debug_eq_some_iff {addr shifted : SocketAddr Ip} :
    addr.grpc .debug = some shifted ↔ addr.port.toNat ≤ 64535 ∧ shifted = addr.listener := by
  have size : UInt16.size = 65536 := rfl
  rw [grpc, size]
  split
  · next large =>
      constructor
      · intro none
        cases none
      · rintro ⟨small, _⟩
        omega
  · next fits =>
      have small : addr.port.toNat ≤ 64535 := by
        have room : ¬ 65536 ≤ addr.port.toNat + 1000 := fun large => fits ⟨rfl, large⟩
        omega
      constructor
      · intro same
        exact ⟨small, (Option.some.inj same).symm⟩
      · rintro ⟨_, rfl⟩
        rfl

/-- An address is its host and its port. -/
theorem eq_of_host {first second : SocketAddr Ip} (host : first.ip = second.ip)
    (port : first.port.toNat = second.port.toNat) : first = second := by
  cases first
  cases second
  cases host
  cases UInt16.toNat_inj.mp port
  rfl

/-- The listener stays on its host. -/
theorem listener_ip (addr : SocketAddr Ip) : addr.listener.ip = addr.ip := by
  dsimp only [listener]

/-- An address is a listener exactly one thousand ports above on the same host. -/
theorem eq_listener_iff {first second : SocketAddr Ip} (small : second.port.toNat ≤ 64535) :
    first = second.listener ↔ first.ip = second.ip ∧ second.port.toNat + 1000 = first.port.toNat := by
  rw [← listener_port small]
  constructor
  · intro same
    rw [same, listener_ip]
    exact ⟨rfl, rfl⟩
  · rintro ⟨host, port⟩
    apply eq_of_host
    · rw [listener_ip, host]
    · exact port.symm

/-- Two peers that are apart share no address. -/
theorem apart_iff {first second : SocketAddr Ip} (firstSmall : first.port.toNat ≤ 64535)
    (secondSmall : second.port.toNat ≤ 64535) :
    first.Apart second ↔ first ≠ second ∧ first ≠ second.listener ∧ second ≠ first.listener := by
  rw [Ne, Ne, Ne, eq_listener_iff firstSmall, eq_listener_iff secondSmall]
  constructor
  · intro apart
    refine ⟨fun same => ?_, fun same => (apart same.1).2.2 same.2, fun same => (apart same.1.symm).2.1 same.2⟩
    exact (apart (congrArg SocketAddr.ip same)).1 (congrArg SocketAddr.port same)
  · rintro ⟨differ, below, above⟩ host
    refine ⟨fun port => differ ?_, fun port => above ⟨host.symm, port⟩, fun port => below ⟨host, port⟩⟩
    exact eq_of_host host (congrArg UInt16.toNat port)

/-- No peer listens on its own raft address. -/
theorem ne_listener {addr : SocketAddr Ip} (small : addr.port.toNat ≤ 64535) : addr ≠ addr.listener := by
  rw [Ne, eq_listener_iff small]
  omega

/-- Two listeners are one only when their peers are. -/
theorem listener_inj {first second : SocketAddr Ip} (firstSmall : first.port.toNat ≤ 64535)
    (secondSmall : second.port.toNat ≤ 64535) (same : first.listener = second.listener) : first = second := by
  obtain ⟨host, port⟩ := (eq_listener_iff secondSmall).mp same
  rw [listener_ip] at host
  rw [listener_port firstSmall] at port
  exact eq_of_host host (by omega)

/-- No address of some peers and their listeners comes twice exactly when the peers are apart. -/
theorem nodup_listeners_iff {addrs : List (SocketAddr Ip)} (small : ∀ addr ∈ addrs, addr.port.toNat ≤ 64535) :
    (addrs ++ addrs.map listener).Nodup ↔ addrs.Pairwise Apart := by
  rw [List.nodup_append]
  constructor
  · rintro ⟨distinct, _, disjoint⟩
    apply distinct.imp_of_mem
    intro first second firstIn secondIn differ
    apply (apart_iff (small first firstIn) (small second secondIn)).mpr
    refine ⟨differ, ?_, ?_⟩
    · exact disjoint first firstIn _ (List.mem_map_of_mem secondIn)
    · exact disjoint second secondIn _ (List.mem_map_of_mem firstIn)
  · intro apart
    have separate : addrs.Pairwise fun first second =>
        first ≠ second ∧ first ≠ second.listener ∧ second ≠ first.listener :=
      apart.imp_of_mem fun firstIn secondIn => (apart_iff (small _ firstIn) (small _ secondIn)).mp
    have symmetric : Std.Symm fun first second : SocketAddr Ip =>
        first ≠ second.listener ∧ second ≠ first.listener := ⟨fun _ _ => And.symm⟩
    have disjoint := (separate.imp And.right).forall_of_forall fun addr inside =>
      ⟨ne_listener (small addr inside), ne_listener (small addr inside)⟩
    refine ⟨separate.imp And.left, ?_, ?_⟩
    · rw [List.nodup_iff_pairwise_ne, List.pairwise_map]
      apply separate.imp_of_mem
      intro first second firstIn secondIn different same
      exact different.1 (listener_inj (small first firstIn) (small second secondIn) same)
    · intro first firstIn shifted inside
      obtain ⟨second, secondIn, rfl⟩ := List.mem_map.mp inside
      exact (disjoint firstIn secondIn).1

end SocketAddr

end Ports

namespace Cli

variable {Ip : Type} {text : PeerText Ip} {peers : PeerMap Ip}

/-- The servers of all peers compute their ports, and no two of their addresses are the same. -/
def Deployable (peers : PeerMap Ip) : Prop :=
  ∃ listeners, List.Forall₂ (fun peer listener => ∃ service,
      spawnGrpcServer .debug peer.2 peers = some (listener, service)) peers.toList listeners ∧
    (peers.toList.map Prod.snd ++ listeners).Nodup

/-- The stated ports leave room for a thousand more, and on one host they are neither equal nor that far apart. -/
def Spaced (text : PeerText Ip) (peersStr : String) : Prop :=
  ∃ bindings, List.Forall₂ (Binds text) (segments (peersStr.toList.splitOn ',')) bindings ∧
    (∀ peer ∈ bindings, peer.2.port.toNat ≤ 64535) ∧
    bindings.Pairwise fun first second => first.2.Apart second.2

/-- A server spawns exactly when no port of the list overflows. -/
theorem spawns_iff {myAddr listener : SocketAddr Ip} :
    (∃ service, spawnGrpcServer .debug myAddr peers = some (listener, service)) ↔
      (∀ peer ∈ peers.toList, peer.2.port.toNat ≤ 64535) ∧ myAddr.port.toNat ≤ 64535 ∧ listener = myAddr.listener := by
  have room : (peers.toList.all fun peer => (peer.2.grpc .debug).isSome) = true ↔
      ∀ peer ∈ peers.toList, peer.2.port.toNat ≤ 64535 := by
    simp only [List.all_eq_true, Option.isSome_iff_exists, SocketAddr.grpc_debug_eq_some_iff, exists_and_left,
      exists_eq, and_true]
  simp only [spawnGrpcServer, Option.bind_eq_bind, Option.bind_eq_some_iff, SocketAddr.grpc_debug_eq_some_iff,
    Option.ite_none_right_eq_some, Option.some.injEq, Prod.mk.injEq, room]
  constructor
  · rintro ⟨_, _, ⟨small, rfl⟩, all, rfl, _⟩
    exact ⟨all, small, rfl⟩
  · rintro ⟨all, small, rfl⟩
    exact ⟨_, _, ⟨small, rfl⟩, all, rfl, rfl⟩

/-- The map of a list is deployable exactly when its peers are apart. -/
theorem deployable_iff_apart : Deployable peers ↔ (∀ peer ∈ peers.toList, peer.2.port.toNat ≤ 64535) ∧
    peers.toList.Pairwise fun first second => first.2.Apart second.2 := by
  have distinct (small : ∀ peer ∈ peers.toList, peer.2.port.toNat ≤ 64535) :
      (peers.toList.map Prod.snd ++ (peers.toList.map Prod.snd).map SocketAddr.listener).Nodup ↔
        peers.toList.Pairwise fun first second => first.2.Apart second.2 := by
    rw [SocketAddr.nodup_listeners_iff, List.pairwise_map]
    intro addr inside
    obtain ⟨peer, member, rfl⟩ := List.mem_map.mp inside
    exact small peer member
  simp only [Deployable, spawns_iff]
  constructor
  · rintro ⟨listeners, spawned, apart⟩
    obtain ⟨small, spawned⟩ := (List.forall₂_and_left _ _).mp (spawned.imp fun _ _ => And.right)
    have same : (peers.toList.map Prod.snd).map SocketAddr.listener = listeners := by
      rw [← List.forall₂_eq_eq_eq, List.map_map, List.forall₂_map_left_iff]
      exact spawned.imp fun _ _ equal => equal.symm
    rw [← same] at apart
    exact ⟨small, (distinct small).mp apart⟩
  · rintro ⟨small, apart⟩
    refine ⟨_, ?_, (distinct small).mpr apart⟩
    rw [List.map_map, List.forall₂_map_right_iff, List.forall₂_same]
    exact fun peer inside => ⟨small, small peer inside, rfl⟩

/-- A piece of a list binds one peer only. -/
theorem binds_unique : Relator.RightUnique (Binds text) := by
  intro segment first second firstBinds secondBinds
  have same := (parsePeer_eq_ok_iff.mpr firstBinds).symm.trans (parsePeer_eq_ok_iff.mpr secondBinds)
  exact Except.ok.inj same

/-- An accepted list is deployable exactly when its ports are spaced. -/
theorem deployable_iff {peersStr : String} (accepted : parsePeers text peersStr = .ok peers) :
    Deployable peers ↔ Spaced text peersStr := by
  obtain ⟨_, bindings, bound, _, same⟩ := parsePeers_eq_ok_iff.mp accepted
  have order : peers.toList.Pairwise (fun first second => first.2.Apart second.2) ↔
      bindings.Pairwise fun first second => first.2.Apart second.2 :=
    same.pairwise_iff fun apart => apart.symm
  have members : (∀ peer ∈ peers.toList, peer.2.port.toNat ≤ 64535) ↔
      ∀ peer ∈ bindings, peer.2.port.toNat ≤ 64535 := by
    simp only [same.mem_iff]
  rw [deployable_iff_apart, order, members]
  constructor
  · rintro ⟨small, apart⟩
    exact ⟨bindings, bound, small, apart⟩
  · rintro ⟨others, stated, small, apart⟩
    rw [List.right_unique_forall₂' binds_unique bound stated]
    exact ⟨small, apart⟩

/-- The pair of the example can be deployed. -/
theorem deployable_iff_pair : Deployable Client.pairPeers ↔
    Spaced Ipv4Addr.peerText "1=127.0.0.1:6001,2=127.0.0.1:6002" := by
  have shown : shownPeers Ipv4Addr.peerText [(1, Client.localhost 6001), (2, Client.localhost 6002)] =
      "1=127.0.0.1:6001,2=127.0.0.1:6002" := by decide +kernel
  have listed : Client.pairPeers.toList = [(1, Client.localhost 6001), (2, Client.localhost 6002)] := by
    decide +kernel
  rw [← shown]
  exact deployable_iff (parsePeers_shownPeers (.of_eq listed) (by decide) (by decide))

/-- A list of peers that are not apart is accepted all the same. -/
theorem accepts_undeployable {peersStr : String} {listing : List (Nat × SocketAddr Ipv4Addr)}
    (shown : shownPeers Ipv4Addr.peerText listing = peersStr) (filled : listing ≠ [])
    (small : ∀ peer ∈ listing, peer.1 < 2 ^ 64)
    (ascending : listing.Pairwise fun first second => compare first.1 second.1 = .lt)
    (crowded : ¬ ((∀ peer ∈ listing, peer.2.port.toNat ≤ 64535) ∧
      listing.Pairwise fun first second => first.2.Apart second.2)) :
    ∃ peers, parsePeers Ipv4Addr.peerText peersStr = .ok peers ∧ ¬ Deployable peers := by
  have listed := OrderedTree.toList_ofList ascending
  refine ⟨.ofList listing, ?_, ?_⟩
  · rw [← shown]
    exact parsePeers_shownPeers (.of_eq listed) filled small
  · rw [deployable_iff_apart, listed]
    exact crowded

/-- One port overflows, two peers share an address, and a listener takes the address of another peer. -/
theorem undeployable_lists :
    (∃ peers, parsePeers Ipv4Addr.peerText "1=127.0.0.1:65000" = .ok peers ∧ ¬ Deployable peers) ∧
      (∃ peers, parsePeers Ipv4Addr.peerText "1=127.0.0.1:6001,2=127.0.0.1:6001" = .ok peers ∧
        ¬ Deployable peers) ∧
      ∃ peers, parsePeers Ipv4Addr.peerText "1=127.0.0.1:6001,2=127.0.0.1:7001" = .ok peers ∧
        ¬ Deployable peers := by
  refine ⟨@accepts_undeployable _ [(1, Client.localhost 65000)] (by decide +kernel) (by decide) (by decide)
      (by decide) (by decide),
    @accepts_undeployable _ [(1, Client.localhost 6001), (2, Client.localhost 6001)] (by decide +kernel) (by decide)
      (by decide) (by decide) (by decide),
    @accepts_undeployable _ [(1, Client.localhost 6001), (2, Client.localhost 7001)] (by decide +kernel) (by decide)
      (by decide) (by decide) (by decide)⟩

end Cli

end RaftATui
