import RaftATui.Construction.Client.Session
import RaftATui.Library.Text

namespace RaftATui.Client
open Machinery

/-- These are the messages with this head. -/
def headed (head : String) (messages : List String) : List String :=
  messages.filter fun message => (Text.behind head message).isSome

/-- None of two texts begins with the other one. -/
def Distinct (head other : String) : Prop := ¬ head.toList <+: other.toList ∧ ¬ other.toList <+: head.toList

instance (head other : String) : Decidable (Distinct head other) := inferInstanceAs (Decidable (_ ∧ _))

section Headed

variable {head other : String}

@[simp] theorem headed_append (head : String) (first second : List String) :
    headed head (first ++ second) = headed head first ++ headed head second := List.filter_append _ _

@[simp] theorem headed_own (head rest : String) : headed head [head ++ rest] = [head ++ rest] := by
  simp [headed, Text.behind_append]

/-- A message with another head is not counted. -/
theorem headed_other (apart : Distinct head other) (rest : String) : headed head [other ++ rest] = [] := by
  simp [headed, Text.behind_other apart.1 apart.2]

/-- Messages that all have another head add none. -/
theorem headed_others (apart : Distinct head other) {messages : List String}
    (told : ∀ message ∈ messages, ∃ rest, message = other ++ rest) : headed head messages = [] := by
  rw [headed, List.filter_eq_nil_iff]
  intro message inside
  obtain ⟨rest, rfl⟩ := told message inside
  simp [Text.behind_other apart.1 apart.2]

/-- The other messages of a line have other heads. -/
structure Strange (head : String) : Prop where
  usage : headed head ["Usage: put <key> <value>", "Usage: get <key>"] = []
  unknown : Distinct head "Unknown command: "
  redirect : Distinct head "Redirecting to leader: "

/-- A usage text never has this head. -/
theorem Strange.readCommand (strange : Strange head) {cmd shown : String} (read : readCommand cmd = .message shown) :
    headed head [shown] = [] := by
  have usage : headed head ["Usage: put <key> <value>"] ++ headed head ["Usage: get <key>"] = [] :=
    (headed_append head ["Usage: put <key> <value>"] ["Usage: get <key>"]).symm.trans strange.usage
  obtain ⟨put, get⟩ := List.append_eq_nil_iff.mp usage
  unfold Client.readCommand at read
  split at read
  · cases read
  · dsimp only at read
    split at read
    · split at read
      · cases read
      · rw [← Order.message.inj read]
        exact put
    · split at read
      · split at read
        · cases read
        · rw [← Order.message.inj read]
          exact get
      · split at read
        · cases read
        · rw [← Order.message.inj read]
          exact headed_other strange.unknown _

end Headed

namespace App

variable {Ip : Type} {text : SocketAddrText Ip} {build : Build}

/-- An attempt of a PUT only tells of a redirect. -/
theorem putAttempt_messages {pick : Nat} {dial : String → Dial} {app after : App} {finished : Bool}
    (attempted : app.putAttempt text build pick dial = some (finished, after)) :
    ∃ redirects, after.messages = app.messages ++ redirects ∧
      ∀ message ∈ redirects, ∃ rest, message = "Redirecting to leader: " ++ rest := by
  have none : ∃ redirects, app.messages = app.messages ++ redirects ∧
      ∀ message ∈ redirects, ∃ rest, message = "Redirecting to leader: " ++ rest := ⟨[], by simp, by simp⟩
  unfold putAttempt at attempted
  split at attempted
  · obtain ⟨rfl, rfl⟩ := Prod.mk.inj (Option.some.inj attempted)
    exact none
  · obtain ⟨rfl, rfl⟩ := Prod.mk.inj (Option.some.inj attempted)
    exact none
  · obtain ⟨later, handled, same⟩ := Option.map_eq_some_iff.mp attempted
    obtain ⟨rfl, rfl⟩ := Prod.mk.inj same
    unfold handleStatus at handled
    split at handled
    · rw [← Option.some.inj handled]
      exact none
    · obtain ⟨shifted, _, rfl⟩ := Option.map_eq_some_iff.mp handled
      refine ⟨_, rfl, ?_⟩
      rw [List.forall_mem_singleton]
      exact ⟨grpcUrl text shifted, rfl⟩

/-- The attempts of a PUT only tell of redirects. -/
theorem putAttempts_messages {picks : Nat → Nat} {dials : Nat → String → Dial} {left : Nat} {app after : App}
    {result : Except String Unit} (done : app.putAttempts text build picks dials left = some (result, after)) :
    ∃ redirects, after.messages = app.messages ++ redirects ∧
      ∀ message ∈ redirects, ∃ rest, message = "Redirecting to leader: " ++ rest := by
  induction left generalizing app with
  | zero =>
      obtain ⟨rfl, rfl⟩ := Prod.mk.inj (Option.some.inj done)
      exact ⟨[], by simp, by simp⟩
  | succ left ih =>
      rw [putAttempts, Option.bind_eq_bind, Option.bind_eq_some_iff] at done
      obtain ⟨⟨finished, middle⟩, attempted, later⟩ := done
      obtain ⟨redirects, messages, told⟩ := putAttempt_messages attempted
      cases finished with
      | true =>
          obtain ⟨rfl, rfl⟩ := Prod.mk.inj (Option.some.inj later)
          exact ⟨redirects, messages, told⟩
      | false =>
          obtain ⟨more, messages', told'⟩ := ih later
          refine ⟨redirects ++ more, ?_, List.forall_mem_append.mpr ⟨told, told'⟩⟩
          rw [messages', messages, List.append_assoc]

end App

/-- This is the message behind the attempts of a PUT. -/
def putMessage (net : Net) : Except String Unit → String
  | .ok _ => s!"PUT Success ({net.elapsed})"
  | .error error => s!"PUT Error: {error}"

def getMessage (net : Net) : Except String String → String
  | .ok val => s!"GET: {val} ({net.elapsed})"
  | .error error => s!"GET Error: {error}"

/-- A successful PUT has this message. -/
theorem putMessage_ok (net : Net) : putMessage net (.ok ()) = "PUT Success (" ++ (net.elapsed ++ ")") := by
  rw [← String.append_assoc]
  rfl

/-- A successful GET has this message. -/
theorem getMessage_ok (net : Net) (val : String) :
    getMessage net (.ok val) = "GET: " ++ (val ++ " (" ++ net.elapsed ++ ")") := by
  rw [← String.append_assoc, ← String.append_assoc, ← String.append_assoc]
  rfl

/-- A line shows what its order says, and a call that succeeds was answered. -/
inductive LineCases {Ip : Type} (text : SocketAddrText Ip) (build : Build) (net : Net) (cmd : String)
    (before after : App) : Prop where
  | nothing (read : readCommand cmd = .nothing) (messages : after.messages = before.messages)
  | message (shown : String) (read : readCommand cmd = .message shown)
      (messages : after.messages = before.messages ++ [shown])
  | put (key value : String) (redirects : List String) (result : Except String Unit)
      (read : readCommand cmd = .issue (.put key value))
      (told : ∀ message ∈ redirects, ∃ rest, message = "Redirecting to leader: " ++ rest)
      (done : ∃ last, before.put text build net.pick (fun attempt addr => net.put attempt addr key value) =
        some (result, last))
      (messages : after.messages = before.messages ++ redirects ++ [putMessage net result])
  | get (key : String) (result : Except String String) (read : readCommand cmd = .issue (.get key))
      (answered : ∀ val, result = .ok val → ∃ addr inner, net.get addr key = .answered (.ok inner) ∧
        val = if inner.found then inner.value else "(not found)")
      (messages : after.messages = before.messages ++ [getMessage net result])

/-- A handled line adds the messages of exactly one of the cases. -/
theorem handleCommand_cases {Ip : Type} {text : SocketAddrText Ip} {build : Build} {net : Net} {cmd : String}
    {app after : App} (handled : app.handleCommand text build net cmd = some after) :
    LineCases text build net cmd app after := by
  unfold App.handleCommand at handled
  split at handled
  · case h_1 read =>
      rw [← Option.some.inj handled]
      exact .nothing read rfl
  · case h_2 shown read =>
      rw [← Option.some.inj handled]
      exact .message shown read rfl
  · case h_3 key value read =>
      obtain ⟨⟨result, middle⟩, done, same⟩ := Option.map_eq_some_iff.mp handled
      obtain ⟨redirects, messages, told⟩ := App.putAttempts_messages done
      refine .put key value redirects result read told ⟨middle, done⟩ ?_
      cases result <;>
        · rw [← same, ← messages]
          rfl
  · case h_4 key read =>
      split at handled
      · case h_1 val got =>
          rw [← Option.some.inj handled]
          refine .get key (.ok val) read ?_ rfl
          intro other same
          rw [← Except.ok.inj same]
          unfold App.get at got
          split at got
          · cases got
          · cases got
          · case h_3 inner reply =>
              refine ⟨_, inner, reply, ?_⟩
              split at got
              · case isTrue found => rw [if_pos found, Except.ok.inj got]
              · case isFalse missing => rw [if_neg missing, Except.ok.inj got]
      · case h_2 error _ =>
          rw [← Option.some.inj handled]
          exact .get key (.error error) read (fun _ same => by cases same) rfl

/-- What the lines of a session do adds up, and each line does at most what it asks for. -/
theorem session_adds {Ip Done Asked : Type} {text : SocketAddrText Ip} {build : Build} {asks : Done → Asked}
    {own : String × Net → Option Asked} {adds : App → App → List Done → Prop} (none : ∀ app, adds app app [])
    (join : ∀ before middle after first second, adds before middle first → adds middle after second →
      adds before after (first ++ second)) {lines : List (String × Net)}
    (each : ∀ line ∈ lines, ∀ before after, App.handleCommand text build line.2 line.1 before = some after →
      ∃ done, (done.map asks).Sublist (own line).toList ∧ adds before after done) {app final : App}
    (run : app.session text build lines = some final) :
    ∃ done, (done.map asks).Sublist (lines.filterMap own) ∧ adds app final done := by
  induction lines generalizing app with
  | nil =>
      obtain rfl := Option.some.inj run
      exact ⟨[], List.nil_sublist _, none app⟩
  | cons line rest ih =>
      obtain ⟨cmd, net⟩ := line
      obtain ⟨middle, handled, later⟩ := Option.bind_eq_some_iff.mp run
      obtain ⟨first, part, added⟩ := each _ List.mem_cons_self app middle handled
      obtain ⟨second, part', added'⟩ := ih (fun other inside => each other (List.mem_cons_of_mem _ inside)) later
      refine ⟨first ++ second, ?_, join _ _ _ _ _ added added'⟩
      have split : ((cmd, net) :: rest).filterMap own = (own (cmd, net)).toList ++ rest.filterMap own := by
        cases mine : own (cmd, net) <;> simp [mine]
      rw [split, List.map_append]
      exact part.append part'

end RaftATui.Client
