import RaftATui.Construction.Client.App
import RaftATui.Construction.Driver.Scripted

namespace RaftATui
open Machinery

namespace RaftKvService

variable {Ip : Type}

/-- The text of a rejected command gives the leader back. -/
theorem leaderId_notLeader (leader : Nat) :
    leaderId s!"Not leader: {leader}" = if leader < 2 ^ 64 then some leader else none := by
  have shown : s!"Not leader: {leader}" = "Not leader: " ++ Nat.repr leader := rfl
  rw [leaderId, shown, Text.behind_append, Option.bind_eq_bind, Option.bind_some, Nat.toList_repr,
    Text.trim_toDigits, Text.parseUnsigned_toDigits]

/-- A status with an address carries the display text of the leader's entry in the map. -/
theorem notLeader_addr {text : SocketAddrText Ip} {service : RaftKvService Ip} {error shown : String}
    (carried : (service.notLeader text error).metadata["x-raft-leader-addr"]? = some shown) :
    ∃ id addr, leaderId error = some id ∧ service.peersMap[id]? = some addr ∧ shown = text.display addr := by
  unfold notLeader at carried
  cases named : leaderId error with
  | none => simp [named, Status.failedPrecondition] at carried
  | some id =>
      cases listed : service.peersMap[id]? with
      | none => simp [named, listed, Status.failedPrecondition] at carried
      | some addr =>
          refine ⟨id, addr, rfl, listed, ?_⟩
          simpa [named, listed, Status.failedPrecondition, eq_comm] using carried

/-- The rejection of a follower becomes a status that may redirect. -/
theorem put_notLeader (text : SocketAddrText Ip) (service : RaftKvService Ip) (leader : Nat) :
    service.put text true (some (.error s!"Not leader: {leader}")) =
      .error (service.notLeader text s!"Not leader: {leader}") := by
  have shown : s!"Not leader: {leader}" = "Not leader" ++ (": " ++ Nat.repr leader) := by
    rw [← String.append_assoc]
    rfl
  have rejected : (Text.behind "Not leader" s!"Not leader: {leader}").isSome = true := by
    rw [shown, Text.behind_append]
    rfl
  simp only [put, Bool.not_true, Bool.false_eq_true, if_false, rejected, if_true]

/-- Only a rejected command of a follower is answered with an address. -/
theorem put_redirect {text : SocketAddrText Ip} {service : RaftKvService Ip} {delivered : Bool}
    {answer : Option (Except String Unit)} {status : Status} {shown : String}
    (failed : service.put text delivered answer = .error status)
    (carried : status.metadata["x-raft-leader-addr"]? = some shown) :
    ∃ error id addr, answer = some (.error error) ∧ leaderId error = some id ∧
      service.peersMap[id]? = some addr ∧ shown = text.display addr := by
  have plain (message : String) : (Status.internal message).metadata["x-raft-leader-addr"]? ≠ some shown := by
    simp [Status.internal]
  unfold put at failed
  split at failed
  · rw [← Except.error.inj failed] at carried
    exact absurd carried (plain _)
  · split at failed
    · exact absurd failed (by simp)
    · next error =>
        split at failed
        · rw [← Except.error.inj failed] at carried
          obtain ⟨id, addr, named, listed, same⟩ := notLeader_addr carried
          exact ⟨error, id, addr, rfl, named, listed, same⟩
        · rw [← Except.error.inj failed] at carried
          exact absurd carried (plain _)
    · rw [← Except.error.inj failed] at carried
      exact absurd carried (plain _)

end RaftKvService

/-- The map of the service has the entry of a peer with the port of its own listener. -/
theorem spawnGrpcServer_peersMap {Ip : Type} {build : Build} {myAddr grpcAddr : SocketAddr Ip}
    {peersMap : PeerMap Ip} {service : RaftKvService Ip}
    (spawned : spawnGrpcServer build myAddr peersMap = some (grpcAddr, service)) (id : Nat) :
    service.peersMap[id]? = peersMap[id]?.map fun addr => { addr with port := addr.port + 1000 } := by
  simp only [spawnGrpcServer, Option.bind_eq_bind, Option.bind_eq_some_iff, Option.ite_none_right_eq_some,
    Option.some.injEq, Prod.mk.injEq] at spawned
  obtain ⟨shifted, _, _, _, same⟩ := spawned
  rw [← same]
  exact Std.ExtTreeMap.getElem?_map

/-- The service listens one thousand ports above its raft port. -/
theorem spawnGrpcServer_listener {Ip : Type} {build : Build} {myAddr grpcAddr : SocketAddr Ip}
    {peersMap : PeerMap Ip} {service : RaftKvService Ip}
    (spawned : spawnGrpcServer build myAddr peersMap = some (grpcAddr, service)) :
    grpcAddr = { myAddr with port := myAddr.port + 1000 } := by
  simp only [spawnGrpcServer, Option.bind_eq_bind, Option.bind_eq_some_iff, Option.ite_none_right_eq_some,
    Option.some.injEq, Prod.mk.injEq] at spawned
  obtain ⟨shifted, done, _, same, _⟩ := spawned
  rw [← same]
  exact SocketAddr.grpc_eq done

/-- A follower answers a PUT with the id of its leader. -/
theorem Driver.handleCommand_rejects {X : Externals} {driver : Driver X} (follower : driver.isLeader = false)
    (key value : String) (resp : Channel) :
    (Driver.handleCommand (.rpc (.put key value resp)) driver).2.trace =
      driver.trace ++ [.reply resp (.error s!"Not leader: {X.raw.leaderId driver.raft}")] := by
  have rejected : Driver.handleCommand (.rpc (.put key value resp)) driver =
      Driver.reply resp (.error s!"Not leader: {X.raw.leaderId driver.raft}") driver := by
    simp only [Driver.handleCommand, Driver.handleRpcCommand, Attempt.get_bind, follower]
    rfl
  rw [rejected]
  rfl

namespace Client

variable {Ip : Type}

/-- The client stores the redirected address with its port moved once more. -/
theorem handleStatus_redirect {text : SocketAddrText Ip} {build : Build} {status : Status}
    {addr : SocketAddr Ip} {app after : App}
    (carried : status.metadata["x-raft-leader-addr"]? = some (text.display addr))
    (handled : app.handleStatus text build status = some after) {url : String}
    (stored : after.leaderAddr = some url) :
    url = grpcUrl text { addr with port := addr.port + 1000 } := by
  have visible := text.display_visible addr
  unfold App.handleStatus at handled
  cases target : redirectTarget text status with
  | none =>
      rw [target] at handled
      rw [← Option.some.inj handled] at stored
      exact absurd stored (by simp)
  | some found =>
      have same : found = addr := by
        simp only [redirectTarget, carried, Option.bind_some, visible, if_true, text.parse_display,
          Option.ite_none_right_eq_some, Option.some.injEq] at target
        exact target.2.symm
      rw [target] at handled
      obtain ⟨shifted, moved, built⟩ := Option.map_eq_some_iff.mp handled
      rw [← built] at stored
      rw [← Option.some.inj stored, SocketAddr.grpc_eq moved, same]

/-- The next attempt after a redirect goes to the listener of the leader. -/
def GoesToLeader (text : SocketAddrText Ip) (clientBuild leaderBuild : Build) (peers : PeerMap Ip)
    (leaderAddr : SocketAddr Ip) (pick : Nat) (dial : String → Dial) (app : App) : Prop :=
  ∃ after listener service, app.putAttempt text clientBuild pick dial = some (false, after) ∧
    spawnGrpcServer leaderBuild leaderAddr peers = some (listener, service) ∧
    after.leaderAddr = some (grpcUrl text listener)

/-- No redirect of a follower leads to the listener of its leader. -/
theorem redirect_misses {X : Externals} (text : SocketAddrText Ip)
    (clientBuild followerBuild leaderBuild : Build) (peers : PeerMap Ip)
    (myAddr grpcAddr leaderAddr : SocketAddr Ip) (service : RaftKvService Ip) (driver : Driver X)
    (key value : String) (resp : Channel) (answer : Except String Unit) (status : Status)
    (pick : Nat) (dial : String → Dial) (app : App)
    (spawned : spawnGrpcServer followerBuild myAddr peers = some (grpcAddr, service))
    (follower : driver.isLeader = false)
    (leader : peers[X.raw.leaderId driver.raft]? = some leaderAddr)
    (answered : (Driver.handleCommand (.rpc (.put key value resp)) driver).2.trace =
      driver.trace ++ [.reply resp answer])
    (failed : service.put text true (some answer) = .error status)
    (redirects : status.metadata["x-raft-leader-addr"]?.isSome = true)
    (dialed : dial (withScheme (app.getTargetAddr pick)) = .answered (.error status)) :
    ¬ GoesToLeader text clientBuild leaderBuild peers leaderAddr pick dial app := by
  intro ⟨after, listener, other, attempted, listens, stored⟩
  obtain ⟨shown, carried⟩ := Option.isSome_iff_exists.mp redirects
  obtain ⟨error, id, addr, rejected, named, listed, display⟩ := RaftKvService.put_redirect failed carried
  have text_eq : error = s!"Not leader: {X.raw.leaderId driver.raft}" := by
    rw [Driver.handleCommand_rejects follower, List.append_cancel_left_eq, List.cons.injEq,
      Effect.reply.injEq] at answered
    have same := answered.1.2.trans (Option.some.inj rejected)
    exact (Except.error.inj same).symm
  have id_eq : id = X.raw.leaderId driver.raft := by
    rw [text_eq, RaftKvService.leaderId_notLeader, Option.ite_none_right_eq_some] at named
    exact (Option.some.inj named.2).symm
  have addr_eq : addr = { leaderAddr with port := leaderAddr.port + 1000 } := by
    rw [spawnGrpcServer_peersMap spawned, id_eq, leader] at listed
    exact (Option.some.inj listed).symm
  have handled : app.handleStatus text clientBuild status = some after := by
    rw [App.putAttempt, dialed] at attempted
    obtain ⟨middle, handled, same⟩ := Option.map_eq_some_iff.mp attempted
    rw [handled, (Prod.mk.inj same).2]
  have urls := handleStatus_redirect (display ▸ carried) handled stored
  rw [spawnGrpcServer_listener listens, addr_eq] at urls
  have same := text.display_injective (String.append_right_inj _ |>.mp urls)
  exact port_twice leaderAddr.port (congrArg SocketAddr.port same).symm

def localhost (port : UInt16) : SocketAddr Ipv4Addr := ⟨⟨127, 0, 0, 1⟩, port⟩

/-- Two peers share a host. -/
def pairPeers : PeerMap Ipv4Addr := Std.ExtTreeMap.ofList [(1, localhost 6001), (2, localhost 6002)]

/-- The second peer leads, and the first one is asked. -/
def pairFollower : Driver scripted :=
  scriptedDriver { ScriptedRaft.begin .follower [] [] [] with leaderId := 2 } (.memory .new 0)

/-- This is the service of the first peer. -/
def pairService : RaftKvService Ipv4Addr where
  peersMap := pairPeers.map fun _ addr => { addr with port := addr.port + 1000 }

/-- The first server of the pair starts with the map of its peers. -/
theorem pairService_spawned :
    spawnGrpcServer .debug (localhost 6001) pairPeers = some (localhost 7001, pairService) := by
  have moved : (localhost 6001).grpc .debug = some (localhost 7001) := by decide
  have peers : (pairPeers.toList.all fun peer => (peer.2.grpc .debug).isSome) = true := by decide +kernel
  simp only [spawnGrpcServer, moved, Option.bind_eq_bind, Option.bind_some, peers, if_true]
  rfl

def pairStatus : Status := pairService.notLeader Ipv4Addr.text "Not leader: 2"

def pairClient : App where
  messages := []
  peers := ["127.0.0.1:7001"]
  leaderAddr := none
  peers_nonempty := by decide

/-- The redirect to the second server of a pair ends at port 8002. -/
theorem redirect_misses_pair :
    ¬ GoesToLeader Ipv4Addr.text .debug .debug pairPeers (localhost 6002) 0
      (fun _ => .answered (.error pairStatus)) pairClient :=
  redirect_misses Ipv4Addr.text .debug .debug .debug pairPeers (localhost 6001) _ _ pairService
    pairFollower "key" "value" 7 (.error "Not leader: 2") pairStatus 0 _ pairClient pairService_spawned
    (by decide) (by decide +kernel) rfl (RaftKvService.put_notLeader _ _ 2) (by decide +kernel) rfl

/-- The client stores port 8002, and the leader listens on port 7002. -/
theorem pairClient_stored :
    (Driver.handleCommand (.rpc (.put "key" "value" 7)) pairFollower).2.trace =
        [.reply 7 (.error "Not leader: 2")] ∧
      pairService.put Ipv4Addr.text true (some (.error "Not leader: 2")) = .error pairStatus ∧
      ((pairClient.putAttempt Ipv4Addr.text .debug 0 fun _ => .answered (.error pairStatus)).map
        fun result => result.2.leaderAddr) = some (some "http://127.0.0.1:8002") ∧
      ((spawnGrpcServer .debug (localhost 6002) pairPeers).map fun spawned =>
        grpcUrl Ipv4Addr.text spawned.1) = some "http://127.0.0.1:7002" :=
  ⟨rfl, RaftKvService.put_notLeader _ _ 2, by decide +kernel, by decide +kernel⟩

end Client

end RaftATui
