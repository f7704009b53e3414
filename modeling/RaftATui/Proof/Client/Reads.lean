import RaftATui.Library.Delivery
import RaftATui.Proof.Client.Commands
import RaftATui.Proof.Client.Messages
import RaftATui.Proof.Client.Redirect
import RaftATui.Proof.Cluster.Sessions
import RaftATui.Proof.Driver.Accounts

namespace RaftATui
open Machinery

/-- A node whose raft hands out this log from its start answers a GET. Each request brings its own channel. -/
structure Telling (history : List Entry) (key : String) (value : Option String) where
  X : Externals
  start : Driver X
  requests : List Action
  before : List Effect
  after : List Effect
  resp : Channel
  fresh : Fresh start
  fed : Fed X history (Driver.performAll requests start).2.trace
  channels : (getChannels requests).Nodup
  asked : .command (.rpc (.get key resp)) ∈ requests
  told : (Driver.performAll requests start).2.trace = before ++ .replyGet resp value :: after

/-- An answer is the value of the key behind a part of the log. -/
theorem Telling.committed {history : List Entry} {key : String} {value : Option String}
    (telling : Telling history key value) :
    ∃ bound, value = (mapUpTo telling.X.kvCodec history bound)[key]? := by
  obtain ⟨other, known, same⟩ := Driver.read_position telling.fresh telling.fed telling.told
  have own := Delivery.eq_of_filterMap telling.channels telling.asked known rfl rfl
  cases own
  exact ⟨_, same⟩

namespace Client

/-- A GET is refused, it breaks on its way, or the service of a server answers it. -/
inductive ReadReach where
  | refused (error : String)
  | broken (status : Status)
  | served (delivered : Bool) (answer : Option (Option String))

def ReadReach.dial : ReadReach → GetDial
  | .refused error => .refused error
  | .broken status => .answered (.error status)
  | .served delivered answer => .answered (RaftKvService.get delivered answer)

/-- The service hears only answers that the driver of a node gave to this GET. -/
def ReadReach.Backed (kvCodec : KvCodec) (history : List Entry) (key : String) : ReadReach → Prop
  | .served _ (some value) => ∃ telling : Telling history key value, telling.X.kvCodec = kvCodec
  | _ => True

/-- This is what the client shows of a value. -/
def shownValue (value : Option String) : String := value.getD "(not found)"

/-- The value that a backed answer shows is the value of a map of the committed log. -/
theorem ReadReach.Backed.shown {kvCodec : KvCodec} {history : List Entry} {key : String} {reach : ReadReach}
    (backed : reach.Backed kvCodec history key) {inner : GetResponse} (done : reach.dial = .answered (.ok inner)) :
    ∃ bound, (if inner.found then inner.value else "(not found)") =
      shownValue (mapUpTo kvCodec history bound)[key]? := by
  cases reach with
  | refused error => cases done
  | broken status => cases done
  | served delivered answer =>
      have got := GetDial.answered.inj done
      unfold RaftKvService.get at got
      split at got
      · cases got
      · split at got
        · obtain ⟨telling, rfl⟩ := backed
          obtain ⟨bound, same⟩ := telling.committed
          refine ⟨bound, ?_⟩
          rw [← same, ← Except.ok.inj got]
          rfl
        · obtain ⟨telling, rfl⟩ := backed
          obtain ⟨bound, same⟩ := telling.committed
          refine ⟨bound, ?_⟩
          rw [← same, ← Except.ok.inj got]
          rfl
        · cases got

/-- Every GET of a line goes over the network to a node that hands out this log. -/
def Net.ReadsFrom (kvCodec : KvCodec) (history : List Entry) (net : Net) : Prop :=
  ∀ addr key, ∃ reach : ReadReach, net.get addr key = reach.dial ∧ reach.Backed kvCodec history key

/-- This is the key that a line reads. -/
def getKey (cmd : String) : Option String :=
  match issued cmd with
  | some (.get key) => some key
  | _ => none

/-- This is a key that was read behind a part of the log. -/
structure ReadValue where
  key : String
  bound : Nat
  elapsed : String

def ReadValue.message (kvCodec : KvCodec) (history : List Entry) (answer : ReadValue) : String :=
  s!"GET: {shownValue (mapUpTo kvCodec history answer.bound)[answer.key]?} ({answer.elapsed})"

/-- No usage text begins like the message of a GET. -/
theorem read_strange : Strange "GET: " := ⟨by decide +kernel, by decide, by decide⟩

section Session

variable {Ip : Type} {text : SocketAddrText Ip} {build : Build} {kvCodec : KvCodec} {history : List Entry}

/-- A line shows at most one value, that of its own key. -/
theorem handleCommand_reads {net : Net} (wired : net.ReadsFrom kvCodec history) {cmd : String} {app after : App}
    (handled : app.handleCommand text build net cmd = some after) : ∃ answers : List ReadValue,
    (answers.map ReadValue.key).Sublist (getKey cmd).toList ∧
      headed "GET: " after.messages = headed "GET: " app.messages ++ answers.map (ReadValue.message kvCodec history) := by
  have silent {shown : List String} (messages : after.messages = app.messages ++ shown)
      (other : headed "GET: " shown = []) : ∃ answers : List ReadValue,
      (answers.map ReadValue.key).Sublist (getKey cmd).toList ∧
        headed "GET: " after.messages = headed "GET: " app.messages ++ answers.map (ReadValue.message kvCodec history) := by
    refine ⟨[], List.nil_sublist _, ?_⟩
    rw [messages, headed_append, other, List.map_nil]
  cases handleCommand_cases handled with
  | nothing read messages => exact silent (messages.trans (List.append_nil _).symm) rfl
  | message shown read messages => exact silent messages (read_strange.readCommand read)
  | put key value redirects result read told done messages =>
      rw [List.append_assoc] at messages
      refine silent messages ?_
      rw [headed_append, headed_others read_strange.redirect told]
      cases result with
      | error error => exact @headed_other _ "PUT Error: " (by decide) error
      | ok _ =>
          rw [putMessage_ok]
          exact headed_other (by decide) _
  | get key result read answered messages =>
      cases result with
      | error error => exact silent messages (@headed_other _ "GET Error: " (by decide) error)
      | ok val =>
          obtain ⟨addr, inner, reply, same⟩ := answered val rfl
          obtain ⟨reach, carried, backed⟩ := wired addr key
          obtain ⟨bound, value⟩ := backed.shown (carried.symm.trans reply)
          have own : getKey cmd = some key := by rw [getKey, issued, read]
          refine ⟨[⟨key, bound, net.elapsed⟩], by rw [own]; exact List.Sublist.refl _, ?_⟩
          rw [messages, headed_append, getMessage_ok, headed_own, ← getMessage_ok, same, value]
          rfl

/-- A client shows values only for its GET lines, in their order. Each is the value of its key behind a part of the
committed log. -/
theorem reads_committed {lines : List (String × Net)} (wired : ∀ line ∈ lines, line.2.ReadsFrom kvCodec history)
    {app final : App} (run : app.session text build lines = some final) : ∃ answers : List ReadValue,
    (answers.map ReadValue.key).Sublist (lines.filterMap fun line => getKey line.1) ∧
      headed "GET: " final.messages = headed "GET: " app.messages ++ answers.map (ReadValue.message kvCodec history) := by
  refine @session_adds _ _ _ _ _ ReadValue.key (fun line => getKey line.1) (fun before after done => headed "GET: " after.messages =
    headed "GET: " before.messages ++ done.map (ReadValue.message kvCodec history)) ?_ ?_ lines ?_ app final run
  · exact fun app => (List.append_nil _).symm
  · intro before middle after first second shown later
    rw [later, shown, List.map_append, List.append_assoc]
  · exact fun line inside before after handled => handleCommand_reads (wired line inside) handled

end Session

/-- The follower of the session tells the last value. -/
def followerTelling : Telling Driver.sessionLog "k" (some "w") where
  X := scripted
  start := Driver.sessionFollower
  requests := Driver.sessionOthers
  before := (Driver.performAll Driver.sessionOthers Driver.sessionFollower).2.trace.take 13
  after := []
  resp := 9
  fresh := Driver.sessionFollower_fresh
  fed := Driver.sessionFollower_fed
  channels := by decide
  asked := by decide
  told := by decide +kernel

/-- Only this key is read before the server goes away. -/
def readReach (key : String) : ReadReach :=
  if key = "k" then .served true (some (some "w")) else .refused "transport error"

def readNet : Net where
  pick _ := 0
  put _ _ _ _ := .refused
  get _ key := (readReach key).dial
  elapsed := "1ms"

/-- The network of the example reaches nodes of the session only. -/
theorem readNet_from : readNet.ReadsFrom Protobuf.kvCodec Driver.sessionLog := by
  intro addr key
  refine ⟨readReach key, rfl, ?_⟩
  unfold readReach
  split
  · case isTrue same =>
      obtain rfl := same
      exact ⟨followerTelling, rfl⟩
  · trivial

def readLines : List (String × Net) := [("get k", readNet), ("get x", readNet)]

/-- The client reads the second value from the follower, and its second GET fails. -/
theorem reads_committed_follower : ((pairClient.session Ipv4Addr.text .debug readLines).map App.messages) =
      some (pairClient.messages ++ ["GET: w (1ms)", "GET Error: transport error"]) ∧
    ∃ final, pairClient.session Ipv4Addr.text .debug readLines = some final ∧ ∃ answers : List ReadValue,
      (answers.map ReadValue.key).Sublist (readLines.filterMap fun line => getKey line.1) ∧
        headed "GET: " final.messages = headed "GET: " pairClient.messages ++
          answers.map (ReadValue.message Protobuf.kvCodec Driver.sessionLog) := by
  have shown : ((pairClient.session Ipv4Addr.text .debug readLines).map App.messages) =
      some (pairClient.messages ++ ["GET: w (1ms)", "GET Error: transport error"]) := by decide +kernel
  obtain ⟨final, run, _⟩ := Option.map_eq_some_iff.mp shown
  refine ⟨shown, final, run, reads_committed (List.forall_mem_cons.mpr ⟨readNet_from, ?_⟩) run⟩
  exact List.forall_mem_singleton.mpr readNet_from

end Client

end RaftATui
