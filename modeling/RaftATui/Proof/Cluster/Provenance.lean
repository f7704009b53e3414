import RaftATui.Construction.Cluster
import RaftATui.Library.Trace
import RaftATui.Proof.Driver.Calls
import RaftATui.Proof.Driver.Transparent
import RaftATui.Proof.Transport.Fabric

namespace RaftATui
open Machinery
open Machinery.Trace (Obeys obeys_concat obeys_append)

def Effect.sent : Effect → Option (Nat × Message)
  | .send «to» msg => some («to», msg)
  | _ => none

/-- These are the messages handed to the transport, in order. -/
def sent (trace : List Effect) : List (Nat × Message) := trace.filterMap Effect.sent

def Effect.outgoing : Effect → List Message
  | .ready rd => rd.messages ++ rd.persistedMessages
  | .light rd => rd.messages
  | _ => []

/-- These are the messages that raft handed out. -/
def outgoing (trace : List Effect) : List Message := trace.flatMap Effect.outgoing

/-- A message goes to its own receiver after raft handed it out. -/
def Relays (before : List Effect) (event : Effect) : Prop :=
  ∀ «to» msg, event = .send «to» msg → «to» = msg.to ∧ msg ∈ outgoing before

@[simp] theorem sent_append (first second : List Effect) : sent (first ++ second) = sent first ++ sent second :=
  List.filterMap_append

@[simp] theorem outgoing_append (first second : List Effect) :
    outgoing (first ++ second) = outgoing first ++ outgoing second := List.flatMap_append

/-- An effect that sends nothing relays nothing. -/
theorem relays_of_silent {effect : Effect} (silent : effect.sent = none) (before : List Effect) :
    Relays before effect := by
  rintro «to» msg rfl
  cases silent

namespace Driver

open Attempt (Within Keeps Triple)

variable {X : Externals}

/-- The sent messages reach the transport and nothing else does. -/
def Posts (before after : Driver X) : Prop := ∃ added, after.trace = before.trace ++ added ∧
  after.network = (sent added).foldl (fun network post => (X.send post.1 post.2 network).2) before.network

instance postsPreorder : IsPreorder (Driver X) Posts where
  refl _ := ⟨[], (List.append_nil _).symm, rfl⟩
  trans first second third := by
    intro ⟨added, trace, network⟩ ⟨added', trace', network'⟩
    refine ⟨added ++ added', ?_, ?_⟩
    · rw [trace', trace, List.append_assoc]
    · rw [network', network, sent_append, List.foldl_append]

/-- These effects send nothing. -/
def Silent (effect : Effect) : Prop := effect.sent = none

/-- A local effect sends nothing. -/
theorem silent_local {scope : Scope} (effect : Effect) (inside : Local scope effect) : Silent effect := by
  cases effect with
  | send «to» msg => exact absurd inside id
  | _ => rfl

/-- A sled call sends nothing. -/
theorem silent_sled (effect : Effect) (called : ∃ op, effect = .sled op) : Silent effect := by
  obtain ⟨op, rfl⟩ := called
  rfl

/-- The calls keep a property when silent effects and the sent messages do. -/
theorem silentCalls {scope : Scope} {holds failed : Driver X → Prop} (ends : ∀ driver, holds driver → failed driver)
    (silent : ∀ before after, Emits Silent before after → holds before → holds after)
    (send : ∀ msg, scope.sends msg → Keeps holds (sendMessage msg : Attempt (Driver X) RaftLoopError Unit)) :
    Calls scope holds failed := by
  refine callsOf (fun _ _ _ _ => ends) (fun before after emits _ => silent before after (emits.mono silent_local)) send fun call _ => ?_
  exact Keeps.triple (fun driver => silent _ _ ((withStore_emits _ driver).mono silent_sled)) ends

/-- A GET sends nothing. -/
theorem silent_get (key : String) (resp : Channel) :
    Within (Emits Silent) (handleRpcCommand (.get key resp) : Attempt (Driver X) RaftLoopError Unit) :=
  get_emits (fun _ _ => rfl) key resp

/-- Silent effects keep the network. -/
theorem Posts.silent {start before after : Driver X} (posts : Posts start before) (emits : Emits Silent before after) :
    Posts start after := by
  obtain ⟨network, added, trace, silent⟩ := emits
  refine trans_of Posts posts ⟨added, trace, ?_⟩
  rw [network, sent, List.filterMap_eq_nil_iff.mpr silent]
  rfl

/-- Each action sends only messages that raft handed out before. -/
theorem perform_posts (action : Action) : Within Posts (perform action : Attempt (Driver X) RaftLoopError Unit) := by
  intro start
  have calls : Calls .all (Posts start) (Posts start) :=
    silentCalls (fun _ => id) (fun before after emits posts => posts.silent emits)
      fun msg _ driver posts => trans_of Posts posts ⟨[.send msg.to msg], rfl, rfl⟩
  have ready := calls.processReady (fun driver posts => posts.silent ⟨rfl, [_], rfl, by simp [Silent, Effect.sent]⟩)
    fun rd driver posts => posts.silent ⟨rfl, [_], rfl, by simp [Silent, Effect.sent]⟩
  have whole := calls.perform action (fun key resp _ driver posts => posts.silent (silent_get key resp driver)) ready
  exact whole.final (refl_of Posts start)

/-- These messages are handed out, and the trace relays so far. -/
def Relaying (handedOut : List Message) (driver : Driver X) : Prop :=
  (∀ msg ∈ handedOut, msg ∈ outgoing driver.trace) ∧ Obeys Relays driver.trace

/-- Further relayed effects keep the relaying. -/
theorem Relaying.grow {handedOut : List Message} {before after : Driver X} {added : List Effect}
    (relaying : Relaying handedOut before) (trace : after.trace = before.trace ++ added)
    (relays : Obeys Relays (before.trace ++ added)) : Relaying handedOut after := by
  rw [Relaying, trace]
  refine ⟨fun msg inside => ?_, relays⟩
  rw [outgoing_append]
  exact List.mem_append_left _ (relaying.1 msg inside)

/-- Silent effects keep the relaying. -/
theorem Relaying.silent {handedOut : List Message} {before after : Driver X} (relaying : Relaying handedOut before)
    (emits : Emits Silent before after) : Relaying handedOut after := by
  obtain ⟨_, added, trace, silent⟩ := emits
  exact relaying.grow trace (relaying.2.append fun effect inside before => relays_of_silent (silent effect inside) before)

/-- Only messages that were handed out are sent. -/
def Scope.relaying (handedOut : List Message) : Scope := { Scope.all with sends := (· ∈ handedOut) }

/-- Each call of a turn keeps the relaying of the ready's messages. -/
theorem relayingCalls (handedOut : List Message) :
    Calls (.relaying handedOut) (Relaying (X := X) handedOut) fun driver => Obeys Relays driver.trace := by
  refine silentCalls (fun _ relaying => relaying.2) (fun _ _ emits relaying => relaying.silent emits) ?_
  refine fun msg inside driver relaying => relaying.grow rfl (obeys_concat.mpr ⟨relaying.2, ?_⟩)
  intro «to» other same
  cases same
  exact ⟨rfl, relaying.1 msg inside⟩

section Triples

variable {handedOut : List Message}

/-- The taken ready opens the relaying of its own messages. -/
theorem triple_takeReady : Triple (fun driver : Driver X => Obeys Relays driver.trace) takeReady
    (fun rd => Relaying (rd.messages ++ rd.persistedMessages)) fun driver => Obeys Relays driver.trace := by
  intro driver obeys
  refine ⟨fun msg inside => ?_, obeys_concat.mpr ⟨obeys, relays_of_silent rfl _⟩⟩
  rw [outgoing_append]
  exact List.mem_append_right _ (by simpa [outgoing, Effect.outgoing] using inside)

/-- The light ready adds its messages to the relaying. -/
theorem triple_advance (rd : Ready) : Triple (Relaying (X := X) handedOut) (advance rd)
    (fun light => Relaying light.messages) fun driver => Obeys Relays driver.trace := by
  intro driver ⟨_, obeys⟩
  refine ⟨fun msg inside => ?_, obeys_concat.mpr ⟨obeys, relays_of_silent rfl _⟩⟩
  rw [outgoing_append]
  exact List.mem_append_right _ (by simpa [outgoing, Effect.outgoing] using inside)

end Triples

/-- A ready relays its own messages and then those of its light ready. -/
theorem processReady_relays : Keeps (fun driver => Obeys Relays driver.trace)
    (processReady : Attempt (Driver X) RaftLoopError Unit) := by
  have whole : Triple (fun driver : Driver X => Obeys Relays driver.trace) processReady
      (fun _ driver => Obeys Relays driver.trace) fun driver => Obeys Relays driver.trace := by
    rw [processReady_parts]
    refine triple_takeReady.bind fun ready => ?_
    have calls := relayingCalls (X := X) (ready.messages ++ ready.persistedMessages)
    have covers : (Scope.relaying (ready.messages ++ ready.persistedMessages)).Covers ready :=
      ⟨fun msg => List.mem_append_left _, fun _ => ⟨trivial, trivial⟩, trivial, fun _ _ => trivial⟩
    refine (calls.persistTaken covers).bind fun _ => ?_
    refine (calls.sendMessages fun msg => List.mem_append_right _).bind fun _ => ?_
    refine (calls.applyEntries fun _ _ => trivial).bind fun _ => calls.updateTuiState.bind fun _ => ?_
    refine (triple_advance _).bind fun light => ?_
    have lightCalls := relayingCalls (X := X) light.messages
    refine (lightCalls.sendMessages fun _ inside => inside).bind fun _ => ?_
    exact (lightCalls.applyEntries fun _ _ => trivial).weaken fun _ _ relaying => relaying.2
  exact fun driver obeys => whole.final obeys

/-- Every action relays what raft handed out before. -/
theorem perform_relays (action : Action) : Keeps (fun driver => Obeys Relays driver.trace)
    (perform action : Attempt (Driver X) RaftLoopError Unit) := by
  intro driver obeys
  have ready : Triple (Relaying (X := X) []) processReady (fun _ => Relaying []) fun driver => Obeys Relays driver.trace :=
    Keeps.triple (fun driver relaying => ⟨by simp, processReady_relays driver relaying.2⟩) fun _ relaying => relaying.2
  have whole := (relayingCalls []).perform action
    (fun key resp _ driver relaying => relaying.silent (silent_get key resp driver)) ready
  exact (whole.weaken fun _ _ relaying => relaying.2).final ⟨by simp, obeys⟩

end Driver

namespace Cluster

open Tcp (TcpTransport Surroundings Fabric NetEvent maxRetries)
open Delivery (AtMost)

variable {X : Externals} {world : Surroundings} {peers : Nat → List Nat} {cluster : Cluster X}

/-- These are the messages that a node submits to the network, in order. -/
def submitted (src : Nat) (events : List NetEvent) : List (Nat × Message) :=
  events.filterMap fun
    | .submit node «to» msg => if node = src then some («to», msg) else none
    | _ => none

/-- A transport takes these of the sent messages to a peer, and fills in their sender. -/
def posted (peers : Nat → List Nat) (src dst : Nat) (sent : List (Nat × Message)) : List Message :=
  sent.filterMap fun post =>
    if post.1 = dst ∧ dst ∈ peers src ∧ dst ≠ src then some { post.2 with sender := src } else none

/-- A link accepts exactly the messages that its node posted to the other end. -/
theorem accepted_eq_posted (events : List NetEvent) (src dst : Nat) :
    Tcp.accepted peers events src dst = posted peers src dst (submitted src events) := by
  rw [Tcp.accepted, posted, submitted, List.filterMap_filterMap]
  congr 1
  funext event
  cases event with
  | submit node «to» msg => by_cases same : node = src <;> simp [NetEvent.accepted, same]
  | _ => rfl

/-- The messages of one driver move its transport and nothing else of the network. -/
theorem run_submits (node : Nat) (posts : List (Nat × Message)) (fabric : Fabric) :
    Fabric.run world (posts.map fun post => .submit node post.1 post.2) fabric = fabric.setTransport node
      (posts.foldl (fun transport post => (TcpTransport.send post.1 post.2 transport).2) (fabric.transports node)) := by
  induction posts generalizing fabric with
  | nil =>
      rw [Fabric.setTransport, List.foldl_nil, Function.update_eq_self]
      rfl
  | cons post rest ih =>
      rw [List.map_cons, Fabric.run, List.foldl_cons]
      refine (ih _).trans ?_
      simp [Fabric.step, Fabric.setTransport]

/-- The network of the cluster runs like the fabric, and each driver submits what its trace sends. -/
structure Simulates (world : Surroundings) (peers : Nat → List Nat) (events : List NetEvent) (cluster : Cluster X) :
    Prop where
  fabric : cluster.fabric = Fabric.run world events (.start fun src => .new src (peers src))
  submits : ∀ src, submitted src events = sent (cluster.drivers src).trace
  relays : ∀ src, Obeys Relays (cluster.drivers src).trace

variable {events : List NetEvent}

/-- An action of a driver is a list of submissions. -/
theorem Simulates.act (simulates : Simulates world peers events cluster) (node : Nat) (action : Action) :
    ∃ more, Simulates world peers (events ++ more) (cluster.act node action) := by
  unfold Cluster.act
  split
  · case isTrue active =>
      obtain ⟨added, trace, network⟩ := Driver.perform_posts action (cluster.drivers node)
      have relays := Driver.perform_relays action (cluster.drivers node) (simulates.relays node)
      let after := (Driver.perform action (cluster.drivers node)).2
      have moved : Simulates world peers (events ++ (sent added).map fun post => .submit node post.1 post.2)
          (cluster.setDriver node after) := by
        constructor
        case fabric =>
          rw [Fabric.run, List.foldl_append]
          refine Eq.trans ?_ (congrArg (Fabric.run world _) simulates.fabric)
          have transport : after.network = (sent added).foldl
              (fun transport post => (TcpTransport.send post.1 post.2 transport).2)
              (cluster.fabric.transports node) := network
          rw [run_submits, ← transport, Fabric.setTransport, Cluster.fabric, Cluster.setDriver, Fabric.mk.injEq]
          refine ⟨funext fun other => ?_, rfl, rfl, rfl⟩
          by_cases same : other = node
          · subst same
            simp
          · simp [same, Cluster.fabric]
        case submits =>
          intro src
          rw [submitted, List.filterMap_append, List.filterMap_map]
          have before := simulates.submits src
          rw [submitted] at before
          rw [before]
          by_cases same : src = node
          · subst same
            have now : (cluster.setDriver src after).drivers src = after := Function.update_self _ _ _
            rw [now, trace, sent_append]
            simp
          · have still : (cluster.setDriver node after).drivers src = cluster.drivers src :=
              Function.update_of_ne same _ _
            rw [still]
            simp [Ne.symm same]
        case relays =>
          intro src
          by_cases same : src = node
          · subst same
            have now : (cluster.setDriver src after).drivers src = after := Function.update_self _ _ _
            rw [now]
            exact relays
          · have still : (cluster.setDriver node after).drivers src = cluster.drivers src :=
              Function.update_of_ne same _ _
            rw [still]
            exact simulates.relays src
      refine ⟨(sent added).map fun post => .submit node post.1 post.2, ?_⟩
      split
      · case h_1 final done =>
          have same : after = final := congrArg Prod.snd done
          rw [← same]
          exact moved
      · case h_2 error final failed =>
          have same : after = final := congrArg Prod.snd failed
          rw [← same]
          exact ⟨moved.fabric, moved.submits, moved.relays⟩
  · exact ⟨[], by rwa [List.append_nil]⟩

/-- The network threads move the cluster like the fabric. -/
theorem Simulates.move (simulates : Simulates world peers events cluster) {event : NetEvent}
    (other : ∀ src, submitted src [event] = []) :
    Simulates world peers (events ++ [event]) (cluster.move world event) where
  fabric := by
    rw [Fabric.run, List.foldl_append]
    exact congrArg (fun fabric => fabric.step world event) simulates.fabric
  submits src := by
    rw [submitted, List.filterMap_append]
    have before := simulates.submits src
    rw [submitted] at before
    have silent := other src
    rw [submitted] at silent
    rw [before, silent, List.append_nil]
    rfl
  relays := simulates.relays

/-- Each event of the cluster is some events of the fabric. -/
theorem Simulates.step (simulates : Simulates world peers events cluster) (event : ClusterEvent) :
    ∃ more, Simulates world peers (events ++ more) (cluster.step world event) := by
  cases event with
  | command node cmd => exact simulates.act node (.command cmd)
  | tick node => exact simulates.act node .tick
  | ready node => exact simulates.act node .ready
  | receive node =>
      have idle : ∃ more, Simulates world peers (events ++ more) cluster := ⟨[], by rwa [List.append_nil]⟩
      simp only [Cluster.step, Cluster.receive]
      split
      · split
        · case h_1.isTrue delivery _ _ =>
            obtain ⟨more, acted⟩ := simulates.act node (.message delivery.2)
            exact ⟨more, acted.fabric, acted.submits, acted.relays⟩
        · exact idle
      · exact idle
  | transmit src dst => exact ⟨_, simulates.move fun _ => rfl⟩
  | arrive id count => exact ⟨_, simulates.move fun _ => rfl⟩
  | read id => exact ⟨_, simulates.move fun _ => rfl⟩
  | stop id => exact ⟨_, simulates.move fun _ => rfl⟩

/-- A driver begins with a new transport to its peers. -/
def Begins (peers : Nat → List Nat) (drivers : Nat → Driver X.overTcp) : Prop :=
  ∀ node, (drivers node).trace = [] ∧ (drivers node).network = TcpTransport.new node (peers node)

/-- Each run of the cluster is a run of the network below it. -/
theorem Simulates.run {drivers : Nat → Driver X.overTcp} (begins : Begins peers drivers)
    (world : Surroundings) (events : List ClusterEvent) :
    ∃ netEvents, Simulates world peers netEvents (Cluster.run world events (.start drivers)) := by
  induction events using List.reverseRecOn with
  | nil =>
      refine ⟨[], ?_, fun src => ?_, fun src => ?_⟩
      · change Cluster.fabric (.start drivers) = Fabric.start fun src => TcpTransport.new src (peers src)
        rw [Cluster.fabric, Fabric.start, Fabric.mk.injEq]
        exact ⟨funext fun node => (begins node).2, rfl, rfl, rfl⟩
      · change [] = sent (drivers src).trace
        rw [(begins src).1]
        rfl
      · change Obeys Relays (drivers src).trace
        rw [(begins src).1]
        exact Trace.obeys_nil
  | append_singleton events event ih =>
      obtain ⟨netEvents, simulates⟩ := ih
      obtain ⟨more, later⟩ := simulates.step event
      rw [Cluster.run, List.foldl_append]
      exact ⟨netEvents ++ more, later⟩

/-- Whatever fails and in whatever order the threads of all servers run, each message that the raft of a node
steps was handed out for that node by the raft that it names. Each link repeats a message at most three times and
keeps the order. -/
theorem cluster_delivers (inverts : world.codec.Inverts) {drivers : Nat → Driver X.overTcp}
    (begins : Begins peers drivers) {events : List ClusterEvent}
    (fits : ∀ src, world.codec.Fits
      ((outgoing ((Cluster.run world events (.start drivers)).drivers src).trace).map fun msg =>
        { msg with sender := src })) :
    let cluster := Cluster.run world events (.start drivers)
    (∀ node, ∀ msg ∈ cluster.stepped node, ∃ src original, src ≠ node ∧ node ∈ peers src ∧
      original ∈ outgoing (cluster.drivers src).trace ∧ original.to = node ∧
      msg = { original with sender := src }) ∧
    ∀ src dst count, AtMost maxRetries (posted peers src dst (sent (cluster.drivers src).trace))
      ((List.range count).flatMap fun number => cluster.fabric.forwarded world ⟨src, dst, number⟩) := by
  intro cluster
  obtain ⟨netEvents, simulates⟩ := Simulates.run begins world events
  change Simulates world peers netEvents cluster at simulates
  have links (src dst : Nat) : Tcp.accepted peers netEvents src dst =
      posted peers src dst (sent (cluster.drivers src).trace) := by
    rw [accepted_eq_posted, simulates.submits]
  have known (src dst : Nat) (msg : Message)
      (inside : msg ∈ posted peers src dst (sent (cluster.drivers src).trace)) : ∃ original,
      original ∈ outgoing (cluster.drivers src).trace ∧ original.to = dst ∧ dst ∈ peers src ∧ dst ≠ src ∧
        msg = { original with sender := src } := by
    obtain ⟨⟨«to», original⟩, handed, taken⟩ := List.mem_filterMap.mp inside
    obtain ⟨⟨rfl, reached, apart⟩, same⟩ := Option.ite_none_right_eq_some.mp taken
    obtain ⟨effect, present, isSend⟩ := List.mem_filterMap.mp handed
    obtain rfl : effect = .send «to» original := by
      cases effect with
      | send target msg =>
          obtain ⟨rfl, rfl⟩ := Prod.mk.inj (Option.some.inj isSend)
          rfl
      | _ => cases isSend
    obtain ⟨before, after, split⟩ := List.append_of_mem present
    obtain ⟨target, out⟩ := simulates.relays src before _ after split «to» original rfl
    refine ⟨original, ?_, target.symm, reached, apart, (Option.some.inj same).symm⟩
    rw [split, outgoing_append]
    exact List.mem_append_left _ out
  have width (src dst : Nat) : world.codec.Fits (Tcp.accepted peers netEvents src dst) := by
    intro msg inside
    rw [links] at inside
    obtain ⟨original, out, _, _, _, rfl⟩ := known src dst msg inside
    exact fits src _ (List.mem_map.mpr ⟨original, out, rfl⟩)
  have sound := Tcp.Fabric.Sound.run world peers netEvents
  refine ⟨fun node msg inside => ?_, fun src dst count => ?_⟩
  · obtain ⟨delivery, taken, rfl⟩ := List.mem_map.mp inside
    have present : delivery ∈ cluster.fabric.inboxes node := List.mem_of_mem_take taken
    rw [simulates.fabric] at present
    obtain ⟨target, _, accepts⟩ := sound.origin inverts width present
    rw [links] at accepts
    obtain ⟨original, out, addressed, reached, apart, same⟩ := known _ _ _ accepts
    have here : delivery.1.dst = node := by
      rw [← addressed, ← target, same]
    rw [here] at addressed reached apart
    exact ⟨delivery.1.src, original, apart.symm, reached, out, addressed, same⟩
  · rw [← links, simulates.fabric]
    exact sound.link_atMost inverts (width src dst) count

/-- These events run a loop of a node. -/
def eventNode : ClusterEvent → Option Nat
  | .command node _ => some node
  | .tick node => some node
  | .ready node => some node
  | .receive node => some node
  | _ => none

/-- An action changes the driver of its own node only. -/
theorem act_drivers {node src : Nat} (apart : src ≠ node) (action : Action) :
    (cluster.act node action).drivers src = cluster.drivers src := by
  unfold Cluster.act
  split
  · split <;> exact Function.update_of_ne apart _ _
  · rfl

/-- A driver keeps its trace while only other loops run. -/
theorem run_trace {src : Nat} (events : List ClusterEvent) (cluster : Cluster X)
    (others : ∀ event ∈ events, eventNode event ≠ some src) :
    ((Cluster.run world events cluster).drivers src).trace = (cluster.drivers src).trace := by
  induction events generalizing cluster with
  | nil => rfl
  | cons event rest ih =>
      refine (ih _ fun next inside => others next (List.mem_cons_of_mem event inside)).trans ?_
      have apart := others event List.mem_cons_self
      cases event with
      | command node cmd => rw [Cluster.step, act_drivers fun same => apart (congrArg some same.symm)]
      | tick node => rw [Cluster.step, act_drivers fun same => apart (congrArg some same.symm)]
      | ready node => rw [Cluster.step, act_drivers fun same => apart (congrArg some same.symm)]
      | receive node =>
          rw [Cluster.step, Cluster.receive]
          split
          · split
            · exact congrArg Driver.trace (act_drivers (fun same => apart (congrArg some same.symm)) _)
            · rfl
          · rfl
      | _ => rfl

/-- The first node is a leader with one message to the second node. -/
def pairDriver (node : Nat) : Driver scripted.overTcp :=
  (scriptedDriver (if node = 1 then
    .begin .leader [{ Ready.default with messages := [⟨2, 0, [32, 5]⟩] }] [] []
    else .begin .follower [] [] [(.follower, [])]) (.newWithDisk .new [])).rewire TcpTransport.send
      (.new node [1, 2]) fun _ => true

def pairEvents : List ClusterEvent :=
  [.tick 2, .ready 1, .transmit 1 2, .arrive ⟨1, 2, 0⟩ 50, .read ⟨1, 2, 0⟩, .receive 2]

/-- The second node of a pair steps the one message that the first node posted. -/
theorem cluster_delivers_pair :
    (Cluster.run Tcp.smoothSurroundings pairEvents (.start pairDriver)).stepped 2 = [⟨2, 1, [32, 5]⟩] ∧
      AtMost maxRetries
        (posted (fun _ => [1, 2]) 1 2
          (sent ((Cluster.run Tcp.smoothSurroundings pairEvents (.start pairDriver)).drivers 1).trace))
        ((List.range 1).flatMap fun number => (Cluster.run Tcp.smoothSurroundings pairEvents
          (.start pairDriver)).fabric.forwarded Tcp.smoothSurroundings ⟨1, 2, number⟩) := by
  have out (src : Nat) : ∀ msg ∈ outgoing
      ((Cluster.run Tcp.smoothSurroundings pairEvents (.start pairDriver)).drivers src).trace,
      msg = ⟨2, 0, [32, 5]⟩ ∧ src = 1 := by
    by_cases first : src = 1
    · subst first
      decide +kernel
    · by_cases second : src = 2
      · subst second
        decide +kernel
      · rw [run_trace pairEvents _ (by simp [pairEvents, eventNode, Ne.symm first, Ne.symm second])]
        exact fun msg inside => absurd inside List.not_mem_nil
  refine ⟨by decide +kernel, (@cluster_delivers scripted Tcp.smoothSurroundings (fun _ => [1, 2])
    Tcp.MessageCodec.fields_inverts pairDriver (fun _ => ⟨rfl, rfl⟩) pairEvents ?_).2 1 2 1⟩
  intro src msg inside buf encoded
  obtain ⟨original, handed, rfl⟩ := List.mem_map.mp inside
  obtain ⟨rfl, rfl⟩ := out src original handed
  obtain ⟨_, rfl⟩ := Tcp.MessageCodec.fields_encode encoded
  decide

end Cluster

end RaftATui
