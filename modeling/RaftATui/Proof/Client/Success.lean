import RaftATui.Library.Delivery
import RaftATui.Proof.Client.Commands
import RaftATui.Proof.Client.Messages
import RaftATui.Proof.Client.Redirect
import RaftATui.Proof.Cluster.Durability

namespace RaftATui
open Machinery
open Machinery.Trace (Obeys)

/-- A site is a directory with all lives of the server that runs on it. -/
structure Site where
  X : Externals
  peers : List Nat
  accepts : Message → List Entry
  db : Db
  past : List (List Effect)
  lives : Lives X peers (Committing accepts) db past

/-- In one life of the site a driver took the PUT and gave the answer. Each request brings its own channel. -/
structure Site.Serves (site : Site) (key value : String) (answer : Except String Unit) (start : Driver site.X)
    (requests : List Action) (reached : List Effect) (channel : Channel) : Prop where
  fresh : Fresh start
  distinct : Function.Injective start.uuids
  channels : (putChannels requests).Nodup
  intact : Obeys Intact (Driver.performAll requests start).2.trace
  stops : reached <+: (Driver.performAll requests start).2.trace
  lived : reached ∈ site.past
  asked : .command (.rpc (.put key value channel)) ∈ requests
  told : .reply channel answer ∈ reached

def Site.Answered (site : Site) (key value : String) (answer : Except String Unit) : Prop :=
  ∃ start requests reached channel, site.Serves key value answer start requests reached channel

/-- A driver of the site acknowledged a PUT of this pair. Its entry stays in the directory or under its snapshot. -/
def Site.Keeps (site : Site) (key value : String) : Prop :=
  ∃ reached ∈ site.past, ∃ channel entry,
    Acknowledged site.X.kvCodec channel key value entry reached ∧ site.db.Keeps entry

/-- A PUT that a node answered is kept by its directory. -/
theorem Site.Answered.keeps {site : Site} {key value : String} (answered : site.Answered key value (.ok ())) :
    site.Keeps key value := by
  obtain ⟨start, requests, reached, channel, serves⟩ := answered
  obtain ⟨other, written, asked, entry, acknowledged, kept⟩ := site.lives.keeps_acknowledged serves.lived serves.fresh
    serves.distinct serves.channels serves.intact serves.stops serves.told
  have same := Delivery.eq_of_filterMap serves.channels serves.asked asked rfl rfl
  cases same
  exact ⟨reached, serves.lived, channel, entry, acknowledged, kept⟩

/-- The service reports a success only for a success of the driver. -/
theorem RaftKvService.put_ok {Ip : Type} {text : SocketAddrText Ip} {service : RaftKvService Ip} {delivered : Bool}
    {answer : Option (Except String Unit)} (done : service.put text delivered answer = .ok ()) :
    answer = some (.ok ()) := by
  unfold RaftKvService.put at done
  split at done
  · cases done
  · split at done
    · rfl
    · split at done <;> cases done
    · cases done

namespace Client

variable {Ip : Type}

/-- A call is refused, it breaks on its way, or the service of a server answers it. -/
inductive Reach (Ip : Type) where
  | refused
  | broken (status : Status)
  | served (service : RaftKvService Ip) (delivered : Bool) (answer : Option (Except String Unit))

def Reach.dial (text : SocketAddrText Ip) : Reach Ip → Dial
  | .refused => .refused
  | .broken status => .answered (.error status)
  | .served service delivered answer => .answered (service.put text delivered answer)

/-- The service hears only answers that the driver of its site gave to this PUT. -/
def Reach.Backed (site : Site) (key value : String) : Reach Ip → Prop
  | .served _ _ (some answer) => site.Answered key value answer
  | _ => True

/-- A successful dial comes from a node that keeps the pair. -/
theorem Reach.Backed.keeps {site : Site} {key value : String} {text : SocketAddrText Ip} {reach : Reach Ip}
    (backed : reach.Backed site key value) (done : reach.dial text = .answered (.ok ())) : site.Keeps key value := by
  cases reach with
  | refused => cases done
  | broken status => cases done
  | served service delivered answer =>
      obtain rfl := RaftKvService.put_ok (Dial.answered.inj done)
      exact Site.Answered.keeps backed

def successes (messages : List String) : Nat := (headed "PUT Success (" messages).length

@[simp] theorem successes_append (first second : List String) :
    successes (first ++ second) = successes first + successes second := by
  rw [successes, headed_append, List.length_append]
  rfl

/-- No usage text begins like the message of a successful PUT. -/
theorem success_strange : Strange "PUT Success (" := ⟨by decide +kernel, by decide, by decide⟩

/-- Every PUT of a line goes over the network to the site behind its address. -/
def Net.Over (text : SocketAddrText Ip) (sites : String → Site) (net : Net) : Prop :=
  ∀ attempt addr key value, ∃ reach : Reach Ip,
    net.put attempt addr key value = reach.dial text ∧ reach.Backed (sites addr) key value

/-- This is the pair that a line writes. -/
def putPair (cmd : String) : Option (String × String) :=
  match issued cmd with
  | some (.put key value) => some (key, value)
  | _ => none

/-- An attempt of a PUT dials an address. -/
structure Call where
  line : String × Net
  key : String
  value : String
  number : Nat
  addr : String

/-- The server at the address answered with a success. -/
def Call.accepted (call : Call) : Bool :=
  match call.line.2.put call.number call.addr call.key call.value with
  | .answered (.ok _) => true
  | _ => false

namespace App

/-- These are the attempts of one PUT. Each of them dials the target that the client has then. -/
def putCalls (text : SocketAddrText Ip) (build : Build) (line : String × Net) (key value : String) :
    Nat → App → List Call
  | 0, _ => []
  | left + 1, app =>
      ⟨line, key, value, left, withScheme (app.getTargetAddr (line.2.pick left))⟩ ::
        match app.putAttempt text build (line.2.pick left) fun addr => line.2.put left addr key value with
        | some (false, after) => putCalls text build line key value left after
        | _ => []

def lineCalls (text : SocketAddrText Ip) (build : Build) (line : String × Net) (app : App) : List Call :=
  match putPair line.1 with
  | some (key, value) => app.putCalls text build line key value 5
  | none => []

/-- These are the attempts of all PUTs of a session in their order. -/
def sessionCalls (text : SocketAddrText Ip) (build : Build) : List (String × Net) → App → List Call
  | [], _ => []
  | line :: rest, app => app.lineCalls text build line ++
      match app.handleCommand text build line.2 line.1 with
      | none => []
      | some after => sessionCalls text build rest after

end App

section Session

variable {text : SocketAddrText Ip} {build : Build} {sites : String → Site} {line : String × Net} {app after : App}

/-- Each attempt is one for the pair of its line. -/
theorem lineCalls_pair : ∀ call ∈ app.lineCalls text build line,
    call.line = line ∧ putPair line.1 = some (call.key, call.value) := by
  intro call inside
  unfold App.lineCalls at inside
  split at inside
  · case h_1 key value pair =>
      have own (left : Nat) (app : App) : ∀ call ∈ app.putCalls text build line key value left,
          call.line = line ∧ call.key = key ∧ call.value = value := by
        induction left generalizing app with
        | zero => simp [App.putCalls]
        | succ left ih =>
            rw [App.putCalls, List.forall_mem_cons]
            refine ⟨⟨rfl, rfl, rfl⟩, ?_⟩
            split
            · exact ih _
            · simp
      obtain ⟨same, rfl, rfl⟩ := own 5 app call inside
      exact ⟨same, pair⟩
  · exact absurd inside List.not_mem_nil

/-- A PUT that succeeds was accepted by its last attempt, and another PUT by none. -/
theorem putCalls_accepted {key value : String} {left : Nat} {result : Except String Unit}
    (done : app.putAttempts text build line.2.pick (fun attempt addr => line.2.put attempt addr key value) left =
      some (result, after)) :
    ((app.putCalls text build line key value left).filter Call.accepted).length = result.toBool.toNat := by
  induction left generalizing app with
  | zero =>
      obtain ⟨rfl, rfl⟩ := Prod.mk.inj (Option.some.inj done)
      rfl
  | succ left ih =>
      rw [App.putAttempts, Option.bind_eq_bind, Option.bind_eq_some_iff] at done
      obtain ⟨⟨finished, middle⟩, attempted, later⟩ := done
      rw [App.putCalls, attempted]
      unfold App.putAttempt at attempted
      split at attempted
      · case h_1 refused =>
          obtain ⟨rfl, rfl⟩ := Prod.mk.inj (Option.some.inj attempted)
          rw [List.filter_cons_of_neg (by simp [Call.accepted, refused])]
          exact ih later
      · case h_2 accepted =>
          obtain ⟨rfl, rfl⟩ := Prod.mk.inj (Option.some.inj attempted)
          obtain ⟨rfl, rfl⟩ := Prod.mk.inj (Option.some.inj later)
          rw [List.filter_cons_of_pos (by simp [Call.accepted, accepted])]
          rfl
      · case h_3 status failed =>
          obtain ⟨next, _, same⟩ := Option.map_eq_some_iff.mp attempted
          obtain ⟨rfl, rfl⟩ := Prod.mk.inj same
          rw [List.filter_cons_of_neg (by simp [Call.accepted, failed])]
          exact ih later

/-- A line reports one success for each of its accepted attempts, and it has one of them at most. -/
theorem handleCommand_tells (handled : app.handleCommand text build line.2 line.1 = some after) :
    ((app.lineCalls text build line).filter Call.accepted).length ≤ 1 ∧
      successes after.messages =
        successes app.messages + ((app.lineCalls text build line).filter Call.accepted).length := by
  have silent {shown : List String} (messages : after.messages = app.messages ++ shown)
      (other : headed "PUT Success (" shown = []) (unasked : putPair line.1 = none) :
      ((app.lineCalls text build line).filter Call.accepted).length ≤ 1 ∧
        successes after.messages =
          successes app.messages + ((app.lineCalls text build line).filter Call.accepted).length := by
    rw [App.lineCalls, unasked, messages, successes_append, successes, successes, other]
    exact ⟨Nat.zero_le 1, rfl⟩
  cases handleCommand_cases handled with
  | nothing read messages =>
      exact silent (messages.trans (List.append_nil _).symm) rfl (by rw [putPair, issued, read])
  | message shown read messages =>
      exact silent messages (success_strange.readCommand read) (by rw [putPair, issued, read])
  | get key result read answered messages =>
      refine silent messages ?_ (by rw [putPair, issued, read])
      cases result with
      | error error => exact @headed_other _ "GET Error: " (by decide) error
      | ok val =>
          rw [getMessage_ok]
          exact headed_other (by decide) _
  | put key value redirects result read told done messages =>
      have pair : putPair line.1 = some (key, value) := by rw [putPair, issued, read]
      have quiet : headed "PUT Success (" redirects = [] := headed_others success_strange.redirect told
      obtain ⟨last, done⟩ := done
      have accepted := putCalls_accepted done
      rw [List.append_assoc] at messages
      rw [App.lineCalls, pair]
      simp only
      rw [accepted, messages, successes_append, successes_append, successes, successes, successes, quiet]
      cases result with
      | error error =>
          have other : headed "PUT Success (" [putMessage line.2 (.error error)] = [] :=
            @headed_other _ "PUT Error: " (by decide) error
          rw [other]
          exact ⟨Nat.zero_le 1, rfl⟩
      | ok _ =>
          rw [putMessage_ok, headed_own]
          exact ⟨Nat.le_refl 1, rfl⟩

/-- A client shows one success for each attempt of its PUTs that a server has accepted. Each line has one of them at
most, and the server that was dialled keeps the entry of the PUT over its later lives and crashes. -/
theorem successes_kept {lines : List (String × Net)} (wired : ∀ line ∈ lines, line.2.Over text sites) {app final : App}
    (run : app.session text build lines = some final) :
    let calls := (app.sessionCalls text build lines).filter Call.accepted
    successes final.messages = successes app.messages + calls.length ∧ (calls.map Call.line).Sublist lines ∧
      ∀ call ∈ calls, putPair call.line.1 = some (call.key, call.value) ∧ (sites call.addr).Keeps call.key call.value := by
  induction lines generalizing app with
  | nil =>
      obtain rfl := Option.some.inj run
      exact ⟨rfl, List.Sublist.refl _, by simp [App.sessionCalls]⟩
  | cons line rest ih =>
      obtain ⟨cmd, net⟩ := line
      obtain ⟨middle, handled, later⟩ := Option.bind_eq_some_iff.mp run
      obtain ⟨counted, part, kept⟩ := ih (fun other inside => wired other (List.mem_cons_of_mem _ inside)) later
      obtain ⟨one, told⟩ := @handleCommand_tells _ text build (cmd, net) app middle handled
      have split : (app.sessionCalls text build ((cmd, net) :: rest)).filter Call.accepted =
          (app.lineCalls text build (cmd, net)).filter Call.accepted ++
            (middle.sessionCalls text build rest).filter Call.accepted := by
        rw [App.sessionCalls, handled, List.filter_append]
      have own (call : Call) (inside : call ∈ (app.lineCalls text build (cmd, net)).filter Call.accepted) :=
        lineCalls_pair call (List.mem_of_mem_filter inside)
      simp only [split]
      refine ⟨by rw [counted, told, List.length_append, Nat.add_assoc], ?_, List.forall_mem_append.mpr ⟨?_, kept⟩⟩
      · have here : (((app.lineCalls text build (cmd, net)).filter Call.accepted).map Call.line).Sublist [(cmd, net)] := by
          rw [List.map_eq_replicate_iff.mpr fun call inside => (own call inside).1]
          exact List.replicate_sublist_replicate _ |>.mpr one
        rw [List.map_append]
        exact here.append part
      · intro call inside
        obtain ⟨same, pair⟩ := own call inside
        refine ⟨same ▸ pair, ?_⟩
        obtain ⟨reach, carried, backed⟩ := wired (cmd, net) List.mem_cons_self call.number call.addr call.key call.value
        have accepted : net.put call.number call.addr call.key call.value = .answered (.ok ()) := by
          have yes := (List.mem_filter.mp inside).2
          unfold Call.accepted at yes
          rw [same] at yes
          split at yes
          · assumption
          · cases yes
        exact backed.keeps (carried.symm.trans accepted)

end Session

/-- The site answers one PUT and crashes in its second life. -/
def putSite : Site := ⟨scripted, [1], acceptsFirst, putDir.replay [], [putTrace, cutTrace], cut_lives⟩

/-- The node of the example answered the PUT. -/
theorem putSite_answered : putSite.Answered "k" "v" (.ok ()) := by
  refine ⟨scriptedLife .leader .new (putReady firstPut), putRequests, putTrace, 7, ?_⟩
  constructor
  case fresh => exact scriptedDriver_fresh _ _
  case distinct => exact scriptedUuids_injective
  case channels => decide
  case intact =>
    have intact : Obeys Intact putTrace := by decide +kernel
    exact intact
  case stops => exact List.prefix_rfl
  case lived => exact List.mem_cons_self
  case asked => exact List.mem_cons_self
  case told => decide +kernel

/-- The server is gone after its first answer. -/
def siteReach (key value : String) : Reach Ipv4Addr :=
  if key = "k" ∧ value = "v" then .served ⟨∅⟩ true (some (.ok ())) else .refused

def siteNet : Net where
  pick _ := 0
  put _ _ key value := (siteReach key value).dial Ipv4Addr.text
  get _ _ := .refused "transport error"
  elapsed := "1ms"

/-- The network of the example reaches that node only. -/
theorem siteNet_over : siteNet.Over Ipv4Addr.text fun _ => putSite := by
  intro attempt addr key value
  refine ⟨siteReach key value, rfl, ?_⟩
  unfold siteReach
  split
  · case isTrue asked =>
      obtain ⟨rfl, rfl⟩ := asked
      exact putSite_answered
  · trivial

def siteLines : List (String × Net) := [("put k v", siteNet), ("put k w", siteNet)]

/-- The session shows one success, and the node keeps its pair. -/
theorem successes_kept_once :
    ((pairClient.session Ipv4Addr.text .debug siteLines).map fun app => successes app.messages) = some 1 ∧
    ∃ final, pairClient.session Ipv4Addr.text .debug siteLines = some final ∧
      let calls := (pairClient.sessionCalls Ipv4Addr.text .debug siteLines).filter Call.accepted
      successes final.messages = successes pairClient.messages + calls.length ∧
        (calls.map Call.line).Sublist siteLines ∧
        ∀ call ∈ calls, putPair call.line.1 = some (call.key, call.value) ∧ putSite.Keeps call.key call.value := by
  have shown : ((pairClient.session Ipv4Addr.text .debug siteLines).map fun app => successes app.messages) = some 1 := by
    decide +kernel
  obtain ⟨final, run, _⟩ := Option.map_eq_some_iff.mp shown
  have wired : ∀ line ∈ siteLines, line.2.Over Ipv4Addr.text fun _ => putSite :=
    List.forall_mem_cons.mpr ⟨siteNet_over, List.forall_mem_singleton.mpr siteNet_over⟩
  exact ⟨shown, final, run, successes_kept wired run⟩

end Client

end RaftATui
