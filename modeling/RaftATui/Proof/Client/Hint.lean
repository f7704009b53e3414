import RaftATui.Proof.Client.Commands
import RaftATui.Proof.Client.Redirect

namespace RaftATui.Client
open Machinery

/-- This is the outcome of one attempt. -/
inductive Answer where
  | refused
  | failed (status : Status)
  | accepted

def Dial.answer : Dial → Answer
  | .refused => .refused
  | .answered (.ok _) => .accepted
  | .answered (.error status) => .failed status

def GetDial.answer : GetDial → Answer
  | .refused _ => .refused
  | .answered (.ok _) => .accepted
  | .answered (.error status) => .failed status

/-- One attempt of a call leads from one state of the client to the next. -/
structure Turn where
  request : Request
  answer : Answer
  before : App
  after : App

def Request.isGet : Request → Bool
  | .put _ _ => false
  | .get _ => true

variable {Ip : Type}

/-- The attempt does not connect, or its error is not a redirect. -/
def Answer.fails (text : SocketAddrText Ip) : Answer → Bool
  | .refused => true
  | .failed status => (redirectTarget text status).isNone
  | .accepted => false

namespace App

/-- These are the attempts of a PUT. A panic ends them. -/
def putTurns (text : SocketAddrText Ip) (build : Build) (request : Request) (picks : Nat → Nat)
    (dials : Nat → String → Dial) : Nat → App → List Turn
  | 0, _ => []
  | left + 1, app =>
      match app.putAttempt text build (picks left) (dials left) with
      | none => []
      | some (done, after) =>
          ⟨request, (dials left (withScheme (app.getTargetAddr (picks left)))).answer, app, after⟩ ::
            if done then [] else putTurns text build request picks dials left after

/-- These are the attempts of one line. -/
def commandTurns (text : SocketAddrText Ip) (build : Build) (net : Net) (cmd : String) (app : App) : List Turn :=
  match issued cmd with
  | none => []
  | some (.put key value) =>
      app.putTurns text build (.put key value) net.pick (fun attempt addr => net.put attempt addr key value) 5
  | some (.get key) =>
      [⟨.get key, (net.get (withScheme (app.getTargetAddr (net.pick 0))) key).answer, app, app⟩]

/-- These are the attempts of all lines. -/
def sessionTurns (text : SocketAddrText Ip) (build : Build) : List (String × Net) → App → List Turn
  | [], _ => []
  | (cmd, net) :: rest, app => app.commandTurns text build net cmd ++
      match app.handleCommand text build net cmd with
      | none => []
      | some after => sessionTurns text build rest after

end App

/-- This is what one attempt can do to the client. -/
def Turn.Possible (text : SocketAddrText Ip) (build : Build) (turn : Turn) : Prop :=
  match turn.request, turn.answer with
  | .get _, _ => turn.after = turn.before
  | .put _ _, .refused => turn.after = { turn.before with leaderAddr := none }
  | .put _ _, .accepted => turn.after = turn.before
  | .put _ _, .failed status => turn.before.handleStatus text build status = some turn.after

variable {text : SocketAddrText Ip} {build : Build}

/-- Each attempt is one of the possible turns. -/
theorem putAttempt_possible {key value : String} {pick : Nat} {dial : String → Dial} {app after : App} {done : Bool}
    (attempted : app.putAttempt text build pick dial = some (done, after)) :
    Turn.Possible text build
      ⟨.put key value, (dial (withScheme (app.getTargetAddr pick))).answer, app, after⟩ := by
  unfold App.putAttempt at attempted
  split at attempted
  · case h_1 refused =>
      rw [refused]
      exact (Prod.mk.inj (Option.some.inj attempted)).2.symm
  · case h_2 accepted =>
      rw [accepted]
      exact (Prod.mk.inj (Option.some.inj attempted)).2.symm
  · case h_3 status failed =>
      rw [failed]
      obtain ⟨middle, handled, same⟩ := Option.map_eq_some_iff.mp attempted
      rw [← (Prod.mk.inj same).2]
      exact handled

/-- All attempts of a PUT are possible turns. -/
theorem putTurns_possible {key value : String} {picks : Nat → Nat} {dials : Nat → String → Dial} (left : Nat)
    (app : App) : ∀ turn ∈ app.putTurns text build (.put key value) picks dials left, turn.Possible text build := by
  induction left generalizing app with
  | zero => simp [App.putTurns]
  | succ left ih =>
      intro turn inside
      unfold App.putTurns at inside
      split at inside
      · exact absurd inside List.not_mem_nil
      · next done after attempted =>
          rcases List.mem_cons.mp inside with rfl | later
          · exact putAttempt_possible attempted
          · cases done with
            | true => exact absurd later List.not_mem_nil
            | false => exact ih after turn later

/-- All calls of a line are possible turns. -/
theorem commandTurns_possible (net : Net) (cmd : String) (app : App) :
    ∀ turn ∈ app.commandTurns text build net cmd, turn.Possible text build := by
  intro turn inside
  unfold App.commandTurns at inside
  split at inside
  · exact absurd inside List.not_mem_nil
  · exact putTurns_possible 5 app turn inside
  · rw [List.mem_singleton.mp inside]
    rfl

/-- Every attempt of a session does one of the possible things. -/
theorem sessionTurns_possible (inputs : List (String × Net)) (app : App) :
    ∀ turn ∈ app.sessionTurns text build inputs, turn.Possible text build := by
  induction inputs generalizing app with
  | nil => simp [App.sessionTurns]
  | cons input rest ih =>
      obtain ⟨cmd, net⟩ := input
      intro turn inside
      unfold App.sessionTurns at inside
      rcases List.mem_append.mp inside with here | later
      · exact commandTurns_possible net cmd app turn here
      · split at later
        · exact absurd later List.not_mem_nil
        · exact ih _ turn later

/-- The attempts follow each other from one hint to another. -/
def Linked : Option String → List Turn → Option String → Prop
  | first, [], last => first = last
  | first, turn :: rest, last => turn.before.leaderAddr = first ∧ Linked turn.after.leaderAddr rest last

/-- Two linked lists of turns join at the hint between them. -/
theorem Linked.append {first middle last : Option String} {turns more : List Turn}
    (linked : Linked first turns middle) (later : Linked middle more last) : Linked first (turns ++ more) last := by
  induction turns generalizing first with
  | nil =>
      rw [show first = middle from linked]
      exact later
  | cons turn rest ih => exact ⟨linked.1, ih linked.2⟩

/-- The attempts of a PUT hand the hint from one to the next. -/
theorem putTurns_linked {request : Request} {picks : Nat → Nat} {dials : Nat → String → Dial} {left : Nat}
    {app final : App} {result : Except String Unit}
    (done : app.putAttempts text build picks dials left = some (result, final)) :
    Linked app.leaderAddr (app.putTurns text build request picks dials left) final.leaderAddr := by
  induction left generalizing app with
  | zero =>
      have same := (Prod.mk.inj (Option.some.inj done)).2
      exact congrArg App.leaderAddr same
  | succ left ih =>
      obtain ⟨⟨stops, after⟩, attempted, rest⟩ := Option.bind_eq_some_iff.mp done
      simp only [App.putTurns, attempted]
      refine ⟨rfl, ?_⟩
      cases stops with
      | true =>
          have same := (Prod.mk.inj (Option.some.inj rest)).2
          exact congrArg App.leaderAddr same
      | false => exact ih rest

/-- A line hands its hint to the next line. -/
theorem commandTurns_linked {net : Net} {cmd : String} {app final : App}
    (done : app.handleCommand text build net cmd = some final) :
    Linked app.leaderAddr (app.commandTurns text build net cmd) final.leaderAddr := by
  unfold App.handleCommand at done
  unfold App.commandTurns issued
  split at done
  · case h_1 ignored =>
      rw [ignored, ← Option.some.inj done]
      rfl
  · case h_2 answered =>
      rw [answered, ← Option.some.inj done]
      rfl
  · case h_3 key value put =>
      rw [put]
      obtain ⟨⟨result, after⟩, attempts, shown⟩ := Option.map_eq_some_iff.mp done
      have same : final.leaderAddr = after.leaderAddr := by
        rw [← shown]
        cases result <;> rfl
      rw [same]
      exact putTurns_linked attempts
  · case h_4 key get =>
      rw [get]
      refine ⟨rfl, ?_⟩
      split at done <;> rw [← Option.some.inj done] <;> rfl

/-- The hint after a session is the hint after its last attempt. -/
theorem session_linked {inputs : List (String × Net)} {app final : App}
    (done : app.session text build inputs = some final) :
    Linked app.leaderAddr (app.sessionTurns text build inputs) final.leaderAddr := by
  induction inputs generalizing app with
  | nil => exact congrArg App.leaderAddr (Option.some.inj done)
  | cons input rest ih =>
      obtain ⟨cmd, net⟩ := input
      obtain ⟨after, first, later⟩ := Option.bind_eq_some_iff.mp done
      simp only [App.sessionTurns, first]
      exact (commandTurns_linked first).append (ih later)

/-- A failed attempt leaves no hint behind. -/
def Turn.Clears (text : SocketAddrText Ip) (turn : Turn) : Prop :=
  turn.answer.fails text = true → turn.after.leaderAddr = none

/-- A new hint is the address of a redirect. -/
def Turn.FollowsRedirect (text : SocketAddrText Ip) (build : Build) (turn : Turn) : Prop :=
  ∀ url, turn.after.leaderAddr = some url → turn.before.leaderAddr = some url ∨
    ∃ status addr shifted, turn.answer = .failed status ∧ redirectTarget text status = some addr ∧
      addr.grpc build = some shifted ∧ url = grpcUrl text shifted

/-- A failed GET starts without a hint. -/
def Turn.Unhinted (text : SocketAddrText Ip) (turn : Turn) : Prop :=
  turn.request.isGet = true → turn.answer.fails text = true → turn.before.leaderAddr = none

/-- A possible turn takes a new hint only from the metadata of a redirect. -/
theorem Turn.Possible.followsRedirect {turn : Turn} (possible : turn.Possible text build) :
    turn.FollowsRedirect text build := by
  intro url stored
  unfold Turn.Possible at possible
  split at possible
  · rw [possible] at stored
    exact Or.inl stored
  · rw [possible] at stored
    cases stored
  · rw [possible] at stored
    exact Or.inl stored
  · case h_4 status _ answered =>
      right
      unfold App.handleStatus at possible
      split at possible
      · rw [← Option.some.inj possible] at stored
        cases stored
      · case h_2 addr target =>
          obtain ⟨shifted, moved, built⟩ := Option.map_eq_some_iff.mp possible
          rw [← built] at stored
          exact ⟨status, addr, shifted, answered, target, moved, (Option.some.inj stored).symm⟩

/-- A PUT always clears the hint when it fails. A GET does so only when there is none. -/
theorem Turn.Possible.clears_iff {turn : Turn} (possible : turn.Possible text build) :
    turn.Clears text ↔ turn.Unhinted text := by
  obtain ⟨request, answer, before, after⟩ := turn
  cases request with
  | get key =>
      have same : after = before := possible
      rw [Turn.Clears, Turn.Unhinted, same]
      exact ⟨fun clears _ => clears, fun unhinted => unhinted rfl⟩
  | put key value =>
      refine ⟨fun _ get => absurd get Bool.false_ne_true, fun _ fails => ?_⟩
      cases answer with
      | refused =>
          have cleared : after = { before with leaderAddr := none } := possible
          rw [cleared]
      | accepted => exact absurd fails Bool.false_ne_true
      | failed status =>
          have missing : redirectTarget text status = none := Option.isNone_iff_eq_none.mp fails
          have handled : before.handleStatus text build status = some after := possible
          rw [App.handleStatus, missing] at handled
          rw [← Option.some.inj handled]

/-- The hint of the client is sound when failures clear it and only redirects set it. -/
def HintSound (text : SocketAddrText Ip) (build : Build) (turns : List Turn) : Prop :=
  ∀ turn ∈ turns, turn.Clears text ∧ turn.FollowsRedirect text build

/-- The hint is sound in exactly the sessions whose failed GETs all start without one. -/
theorem hintSound_iff (text : SocketAddrText Ip) (build : Build) (inputs : List (String × Net)) (app : App) :
    HintSound text build (app.sessionTurns text build inputs) ↔
      ∀ turn ∈ app.sessionTurns text build inputs, turn.Unhinted text := by
  have possible := @sessionTurns_possible Ip text build inputs app
  constructor
  · intro sound turn inside
    exact (possible turn inside).clears_iff.mp (sound turn inside).1
  · intro unhinted turn inside
    exact ⟨(possible turn inside).clears_iff.mpr (unhinted turn inside), (possible turn inside).followsRedirect⟩

/-- The first attempt of a PUT is redirected and the second one succeeds. Then the leader is gone. -/
def goneLeader : Net where
  pick _ := 0
  put attempt _ _ _ := if attempt = 4 then .answered (.error pairStatus) else .answered (.ok ())
  get _ _ := .refused "transport error"
  elapsed := "1ms"

/-- Two reads after one redirected write both go to the address that does not answer. -/
theorem hintSound_goneLeader :
    ¬ HintSound Ipv4Addr.text .debug (pairClient.sessionTurns Ipv4Addr.text .debug
      [("put key value", goneLeader), ("get key", goneLeader), ("get key", goneLeader)]) ∧
    ((pairClient.session Ipv4Addr.text .debug
      [("put key value", goneLeader), ("get key", goneLeader), ("get key", goneLeader)]).map App.leaderAddr) =
        some (some "http://127.0.0.1:8002") := by
  constructor
  · intro sound
    have kept : ((pairClient.sessionTurns Ipv4Addr.text .debug
        [("put key value", goneLeader), ("get key", goneLeader), ("get key", goneLeader)]).any fun turn =>
          turn.answer.fails Ipv4Addr.text && turn.after.leaderAddr.isSome) = true := by decide +kernel
    obtain ⟨turn, inside, both⟩ := List.any_eq_true.mp kept
    obtain ⟨fails, stays⟩ := Bool.and_eq_true_iff.mp both
    rw [(sound turn inside).1 fails] at stays
    exact absurd stays Bool.false_ne_true
  · decide +kernel

end RaftATui.Client
