import RaftATui.Library.Majority
import RaftATui.Proof.Driver.WriteAhead

namespace RaftATui
open Machinery
open Machinery.Crash (Flushed Survives)
open Machinery.Trace (Obeys obeys_concat obeys_append)

namespace HardState

/-- A later hard state keeps the vote of its term. -/
def Keeps (hs later : HardState) : Prop :=
  hs.term < later.term ∨ (hs.term = later.term ∧ (hs.vote = 0 ∨ hs.vote = later.vote))

/-- The hard state leaves a vote open. -/
def Allows (hs : HardState) (term candidate : Nat) : Prop :=
  hs.term < term ∨ (hs.term = term ∧ (hs.vote = 0 ∨ hs.vote = candidate))

/-- The hard state remembers a vote. -/
def Binds (hs : HardState) (term candidate : Nat) : Prop :=
  term < hs.term ∨ (hs.term = term ∧ hs.vote = candidate)

instance (hs later : HardState) : Decidable (hs.Keeps later) := inferInstanceAs (Decidable (_ ∨ _))

instance (hs : HardState) (term candidate : Nat) : Decidable (hs.Allows term candidate) :=
  inferInstanceAs (Decidable (_ ∨ _))

instance (hs : HardState) (term candidate : Nat) : Decidable (hs.Binds term candidate) :=
  inferInstanceAs (Decidable (_ ∨ _))

variable {hs middle later : HardState} {term candidate other : Nat}

/-- A hard state keeps its own vote. -/
theorem keeps_refl (hs : HardState) : hs.Keeps hs := Or.inr ⟨rfl, Or.inr rfl⟩

/-- A vote that is kept twice is kept. -/
theorem Keeps.trans (first : hs.Keeps middle) (second : middle.Keeps later) : hs.Keeps later := by
  unfold Keeps at first second ⊢
  omega

/-- A kept vote binds the later hard state as well. -/
theorem Keeps.binds (keeps : hs.Keeps later) (named : candidate ≠ 0) (binds : hs.Binds term candidate) :
    later.Binds term candidate := by
  unfold Keeps at keeps
  unfold Binds at binds ⊢
  omega

/-- What binds one candidate allows no other one. -/
theorem Binds.same (binds : hs.Binds term candidate) (named : candidate ≠ 0) (allows : hs.Allows term other) :
    candidate = other := by
  unfold Binds at binds
  unfold Allows at allows
  omega

end HardState

/-- This is the vote for a candidate in a term. A granted vote names its receiver, and a request for votes its sender. -/
structure Vote where
  term : Nat
  candidate : Nat
  deriving DecidableEq

/-- A message with a vote keeps to the first hard state, and the given one remembers the vote. -/
def Ballot (granted : Message → Option Vote) (first hard : HardState) (msg : Message) : Prop :=
  ∀ vote ∈ granted msg, vote.candidate ≠ 0 ∧ first.Allows vote.term vote.candidate ∧ hard.Binds vote.term vote.candidate

instance (granted : Message → Option Vote) (first hard : HardState) (msg : Message) :
    Decidable (Ballot granted first hard msg) := inferInstanceAs (Decidable (∀ vote ∈ granted msg, _ ∧ _ ∧ _))

/-- Raft keeps its vote in the hard states that it hands out, and it votes only by promises. -/
def Elects (granted : Message → Option Vote) (hs : HardState) (before : List Effect) : Effect → Prop
  | .ready rd => (current hs before).Keeps (rd.hs.getD (current hs before)) ∧
      (∀ msg ∈ rd.messages, granted msg = none) ∧
      ∀ msg ∈ rd.persistedMessages, Ballot granted hs (rd.hs.getD (current hs before)) msg
  | .light rd => ∀ msg ∈ rd.messages, Ballot granted hs (current hs before) msg
  | _ => True

instance (granted : Message → Option Vote) (hs : HardState) (before : List Effect) :
    DecidablePred (Elects granted hs before)
  | .ready _ => inferInstanceAs (Decidable (_ ∧ _ ∧ _))
  | .light rd => inferInstanceAs (Decidable (∀ msg ∈ rd.messages, Ballot granted hs (current hs before) msg))
  | .proposed _ _ _ _ | .sled _ | .send _ _ | .notify _ | .reply _ _ | .replyGet _ _ | .applied _ _ => isTrue trivial

def Effect.promises : Effect → List Message
  | .ready rd => rd.persistedMessages
  | .light rd => rd.messages
  | _ => []

/-- Raft votes once in a term as long as it runs. -/
def Single (granted : Message → Option Vote) (trace : List Effect) : Prop :=
  ∀ first ∈ trace.flatMap Effect.promises, ∀ second ∈ trace.flatMap Effect.promises,
    ∀ vote ∈ granted first, ∀ other ∈ granted second, vote.term = other.term → vote.candidate = other.candidate

instance (granted : Message → Option Vote) (trace : List Effect) : Decidable (Single granted trace) :=
  inferInstanceAs (Decidable (∀ first ∈ _, ∀ second ∈ _, ∀ vote ∈ granted first, ∀ other ∈ granted second, _ → _))

section Trace

variable {granted : Message → Option Vote} {hs : HardState} {trace first second : List Effect}

/-- The hard state in effect keeps its vote over each further effect. -/
theorem current_keeps (elects : Obeys (Elects granted hs) (first ++ second)) :
    (current hs first).Keeps (current hs (first ++ second)) := by
  induction second using List.reverseRecOn with
  | nil => rw [List.append_nil]; exact HardState.keeps_refl _
  | append_singleton second event ih =>
      rw [← List.append_assoc] at elects ⊢
      obtain ⟨earlier, step⟩ := obeys_concat.mp elects
      refine (ih earlier).trans ?_
      rw [current_concat]
      cases event with
      | ready rd => exact step.1
      | _ => exact HardState.keeps_refl _

/-- The last free messages have no votes, and the last promises are remembered. -/
theorem outbox_ballots (elects : Obeys (Elects granted hs) trace) :
    (∀ msg ∈ (outbox trace).free, granted msg = none) ∧
      ∀ msg ∈ (outbox trace).promised, msg ∈ trace.flatMap Effect.promises ∧ Ballot granted hs (current hs trace) msg := by
  induction trace using List.reverseRecOn with
  | nil => exact ⟨by simp [outbox], by simp [outbox]⟩
  | append_singleton trace event ih =>
      obtain ⟨earlier, step⟩ := obeys_concat.mp elects
      obtain ⟨free, promised⟩ := ih earlier
      rw [outbox_concat, current_concat, List.flatMap_append, List.flatMap_singleton]
      have later {box : Outbox} (same : box = outbox trace) :
          ∀ msg ∈ box.promised, msg ∈ trace.flatMap Effect.promises ++ event.promises ∧
            Ballot granted hs (current hs trace) msg := by
        rw [same]
        exact fun msg inside => ⟨List.mem_append_left _ (promised msg inside).1, (promised msg inside).2⟩
      cases event with
      | ready rd => exact ⟨step.2.1, fun msg inside => ⟨List.mem_append_right _ inside, step.2.2 msg inside⟩⟩
      | light rd => exact ⟨by simp [Effect.outbox], fun msg inside => ⟨List.mem_append_right _ inside, step msg inside⟩⟩
      | _ => exact ⟨free, later rfl⟩

/-- From a point where nothing is owed, the hard state on disk keeps the vote. -/
theorem written_keeps (ahead : Obeys (WriteAhead hs) (first ++ second)) (elects : Obeys (Elects granted hs) (first ++ second))
    (paid : written hs (sledOps first) = current hs first) :
    (current hs first).Keeps (written hs (sledOps (first ++ second))) := by
  induction second using List.reverseRecOn with
  | nil => rw [List.append_nil, paid]; exact HardState.keeps_refl _
  | append_singleton second event ih =>
      rw [← List.append_assoc] at ahead elects ⊢
      obtain ⟨ahead, step⟩ := obeys_concat.mp ahead
      have earlier := (obeys_concat.mp elects).1
      have before := ih ahead earlier
      rw [sledOps_append, written_append]
      cases event with
      | sled op =>
          cases op with
          | insertHardstate later =>
              have same := step.handed later rfl
              change (current hs first).Keeps later
              rw [← same]
              exact current_keeps earlier
          | _ => exact before
      | _ => exact before

end Trace

/-- Raft keeps its votes over one life. -/
def Voting (granted : Message → Option Vote) (db : Db) (_past : List (List Effect)) (reached : List Effect) : Prop :=
  Obeys (Elects granted db.hardState) reached ∧ Single granted reached

section Life

variable {X : Externals} {peers : List Nat} {granted : Message → Option Vote} {db : Db} {booted done : List SledOp}
  {reached : List Effect} {hs : HardState}

/-- A crash keeps the vote of the first hard state. -/
theorem crash_keeps (boots : booted <+: db.startOps peers) (ahead : Obeys (WriteAhead hs) reached)
    (elects : Obeys (Elects granted hs) reached) (initial : done <+: booted ++ sledOps reached) :
    hs.Keeps (written hs done) := by
  rcases crash_cuts initial with short | ⟨part, ⟨rest, rfl⟩, rfl⟩
  · rw [Db.written_startOps (short.trans boots)]
    exact HardState.keeps_refl hs
  · rw [written_append, Db.written_startOps boots]
    exact @written_keeps granted hs [] part ahead.of_append elects.of_append rfl

/-- A crash keeps each vote that was sent before it. -/
theorem crash_binds (boots : booted <+: db.startOps peers) (ahead : Obeys (WriteAhead hs) reached)
    (elects : Obeys (Elects granted hs) reached) (crash : Survives SledOp.Flushes done (booted ++ sledOps reached))
    {«to» : Nat} {msg : Message} {vote : Vote} (sent : .send «to» msg ∈ reached) (grants : granted msg = some vote) :
    msg ∈ reached.flatMap Effect.promises ∧ vote.candidate ≠ 0 ∧ hs.Allows vote.term vote.candidate ∧
      (written hs done).Binds vote.term vote.candidate := by
  obtain ⟨before, after, split⟩ := List.append_of_mem sent
  obtain ⟨free, promised⟩ := outbox_ballots (Obeys.of_append (split ▸ elects))
  obtain ⟨inside, paid⟩ : msg ∈ (outbox before).promised ∧ written hs (sledOps before) = current hs before := by
    refine ((ahead before _ after split).kept «to» msg rfl).resolve_left fun inside => ?_
    rw [free msg inside] at grants
    cases grants
  obtain ⟨known, ballot⟩ := promised msg inside
  obtain ⟨named, allows, binds⟩ := ballot vote grants
  refine ⟨by rw [split, List.flatMap_append]; exact List.mem_append_left _ known, named, allows, ?_⟩
  by_cases wrote : sledOps before = []
  · -- Without a write the promise rests on the first hard state.
    rw [wrote] at paid
    rw [← paid] at binds
    exact (crash_keeps boots ahead elects crash.initial).binds named binds
  · obtain ⟨part, ⟨rest, whole⟩, rfl⟩ := crash_behind ahead split rfl (Or.inr wrote) crash
    rw [written_append, Db.written_startOps boots]
    rw [split, ← whole, ← List.cons_append, ← List.append_assoc] at ahead elects
    exact (written_keeps ahead.of_append elects.of_append paid).binds named binds

end Life

variable {X : Externals} {peers : List Nat} {granted : Message → Option Vote} {db : Db} {past : List (List Effect)}

/-- The directory remembers each vote that was sent, and no term has two of them. -/
structure Elected (granted : Message → Option Vote) (db : Db) (past : List (List Effect)) : Prop where
  bound : ∀ trace ∈ past, ∀ «to» msg, .send «to» msg ∈ trace → ∀ vote ∈ granted msg,
    vote.candidate ≠ 0 ∧ db.hardState.Binds vote.term vote.candidate
  once : ∀ first ∈ past, ∀ second ∈ past, ∀ «to» msg other msg', .send «to» msg ∈ first → .send other msg' ∈ second →
    ∀ vote ∈ granted msg, ∀ vote' ∈ granted msg', vote.term = vote'.term → vote.candidate = vote'.candidate

/-- All votes of all lives bind the directory of the next life. -/
theorem Lives.elected (lives : Lives X peers (Voting granted) db past) : Elected granted db past := by
  induction lives with
  | new => exact ⟨by simp, by simp⟩
  | live db past start faults actions booted done reached lives fresh store boots idle disk stops lawful crash ih =>
      obtain ⟨elects, single⟩ := lawful
      rw [Db.hardState_replay_written, Db.written_startOps boots] at elects
      have ahead : Obeys (WriteAhead db.hardState) reached :=
        (Driver.performAll_kept fresh disk db.hardState actions).shrink stops
      have keeps := crash_keeps boots ahead elects crash.initial
      constructor
      case bound =>
        rw [List.forall_mem_append, List.forall_mem_singleton, Db.hardState_replay_written]
        constructor
        · intro trace inside «to» msg sent vote grants
          obtain ⟨named, binds⟩ := ih.bound trace inside «to» msg sent vote grants
          exact ⟨named, keeps.binds named binds⟩
        · intro «to» msg sent vote grants
          obtain ⟨_, named, _, binds⟩ := crash_binds boots ahead elects crash sent grants
          exact ⟨named, binds⟩
      case once =>
        -- A vote of an earlier life binds the first hard state, which allows this vote.
        have mixed {trace : List Effect} (inside : trace ∈ past) {«to» other : Nat} {msg msg' : Message} {vote vote' : Vote}
            (sent : .send «to» msg ∈ trace) (sent' : .send other msg' ∈ reached) (grants : granted msg = some vote)
            (grants' : granted msg' = some vote') (same : vote.term = vote'.term) : vote.candidate = vote'.candidate := by
          obtain ⟨named, binds⟩ := ih.bound trace inside «to» msg sent vote grants
          obtain ⟨_, _, allows, _⟩ := crash_binds boots ahead elects crash sent' grants'
          rw [← same] at allows
          exact binds.same named allows
        intro first inside second inside' «to» msg other msg' sent sent' vote grants vote' grants' same
        rcases List.mem_append.mp inside with old | new
        · rcases List.mem_append.mp inside' with old' | new'
          · exact ih.once first old second old' «to» msg other msg' sent sent' vote grants vote' grants' same
          · rw [List.mem_singleton.mp new'] at sent'
            exact mixed old sent sent' grants grants' same
        · rw [List.mem_singleton.mp new] at sent
          rcases List.mem_append.mp inside' with old' | new'
          · exact (mixed old' sent' sent grants' grants same.symm).symm
          · rw [List.mem_singleton.mp new'] at sent'
            obtain ⟨known, _⟩ := crash_binds boots ahead elects crash sent grants
            obtain ⟨known', _⟩ := crash_binds boots ahead elects crash sent' grants'
            exact single msg known msg' known' vote grants vote' grants' same

/-- A node votes for one candidate in a term, over all its lives. The directory remembers each vote, which is sent
behind flushed calls. -/
theorem votes_once (lives : Lives X peers (Voting granted) db past) {first second : List Effect} (inside : first ∈ past)
    (inside' : second ∈ past) {«to» other : Nat} {msg msg' : Message} {vote vote' : Vote} (sent : .send «to» msg ∈ first)
    (sent' : .send other msg' ∈ second) (grants : granted msg = some vote) (grants' : granted msg' = some vote')
    (same : vote.term = vote'.term) : vote.candidate = vote'.candidate ∧
      db.hardState.Binds vote.term vote.candidate ∧ ∀ before after, first = before ++ .send «to» msg :: after →
        Flushed SledOp.Flushes (sledOps before) := by
  have elected := lives.elected
  refine ⟨?_, (elected.bound first inside «to» msg sent vote grants).2, fun before after split => ?_⟩
  · exact elected.once first inside second inside' «to» msg other msg' sent sent' vote grants vote' grants' same
  · exact lives.flushed inside split rfl

/-- A majority of the nodes has voted for this candidate, each in one of its lives. -/
def Wins (granted : Message → Option Vote) (nodes : Finset Nat) (past : Nat → List (List Effect)) (vote : Vote) : Prop :=
  ∃ voters, Majority nodes voters ∧
    ∀ node ∈ voters, ∃ trace ∈ past node, ∃ «to» msg, .send «to» msg ∈ trace ∧ granted msg = some vote

/-- Two majorities share a node, which votes for one candidate in a term. -/
theorem elections_safe {nodes : Finset Nat} {X : Nat → Externals} {peers : Nat → List Nat} {db : Nat → Db}
    {past : Nat → List (List Effect)}
    (lives : ∀ node ∈ nodes, Lives (X node) (peers node) (Voting granted) (db node) (past node)) {vote vote' : Vote}
    (wins : Wins granted nodes past vote) (wins' : Wins granted nodes past vote') (same : vote.term = vote'.term) :
    vote.candidate = vote'.candidate := by
  obtain ⟨voters, majority, voted⟩ := wins
  obtain ⟨voters', majority', voted'⟩ := wins'
  obtain ⟨node, first, second⟩ := majority.meet majority'
  obtain ⟨trace, lived, «to», msg, sent, grants⟩ := voted node first
  obtain ⟨trace', lived', other, msg', sent', grants'⟩ := voted' node second
  exact (lives node (majority.inside first)).elected.once trace lived trace' lived' «to» msg other msg' sent sent' vote grants
    vote' grants' same

/-- This message grants a vote in term 5. -/
def grantedFive (msg : Message) : Option Vote := if msg.payload = [1] then some ⟨5, msg.to⟩ else none

/-- This follower votes for node 2. -/
def voteReady : Ready :=
  { Ready.default with hs := some ⟨5, 2, 0⟩, persistedMessages := [⟨2, 1, [1]⟩] }

/-- This is the directory after the first vote. -/
def votedDir : Db := Db.new.replay (Db.startOps [1] .new ++ sledOps (lifeTrace .follower [.ready] .new voteReady))

/-- After the restart the follower repeats its answer. -/
def againReady : Ready := { voteReady with hs := none }

def againDir : Db := votedDir.replay ([] ++ sledOps (lifeTrace .follower [.ready] votedDir againReady))

/-- The voter grants a vote in term five, and it starts again on its directory. -/
theorem voter_lives : Lives scripted [1] (Voting grantedFive) againDir
    [lifeTrace .follower [.ready] .new voteReady, lifeTrace .follower [.ready] votedDir againReady] := by
  have first : Lives scripted [1] (Voting grantedFive) votedDir ([] ++ [lifeTrace .follower [.ready] .new voteReady]) := by
    refine .live .new [] (scriptedLife .follower .new voteReady) [] [.ready] (Db.startOps [1] .new) _ _ .new
      (scriptedDriver_fresh _ _) rfl List.prefix_rfl (fun voters => absurd rfl voters) rfl List.prefix_rfl ?_
      (Crash.survives_all _)
    exact ⟨by decide +kernel, by decide +kernel⟩
  have kept : votedDir.initialState.2.voters ≠ [] := by decide +kernel
  refine .live votedDir _ (scriptedLife .follower votedDir againReady) [] [.ready] [] _ _ first (scriptedDriver_fresh _ _) rfl
    List.nil_prefix (fun _ => rfl) (RaftNode.newStore_db scripted.mem kept []) List.prefix_rfl ?_ (Crash.survives_all _)
  exact ⟨by decide +kernel, by decide +kernel⟩

/-- The voter names its earlier candidate again. -/
theorem votes_once_again : votedDir.hardState = ⟨5, 2, 0⟩ ∧
    ∀ vote, grantedFive ⟨2, 1, [1]⟩ = some vote → vote.term = 5 →
      vote.candidate = 2 ∧ againDir.hardState.Binds vote.term vote.candidate := by
  have sent : .send 2 ⟨2, 1, [1]⟩ ∈ lifeTrace .follower [.ready] .new voteReady := by decide +kernel
  have again : .send 2 ⟨2, 1, [1]⟩ ∈ lifeTrace .follower [.ready] votedDir againReady := by decide +kernel
  have grants : grantedFive ⟨2, 1, [1]⟩ = some ⟨5, 2⟩ := rfl
  refine ⟨by decide +kernel, fun vote granted term => ?_⟩
  obtain ⟨same, bound, _⟩ := votes_once voter_lives (by simp) (by simp) sent again granted grants term
  exact ⟨same, bound⟩

/-- These are the two lives of each of three such followers. -/
def voterPast (_node : Nat) : List (List Effect) :=
  [lifeTrace .follower [.ready] .new voteReady, lifeTrace .follower [.ready] votedDir againReady]

/-- Two of the followers elect node 2, and no other candidate wins the term. -/
theorem elections_safe_three : Wins grantedFive {1, 2, 3} voterPast ⟨5, 2⟩ ∧
    ∀ vote, Wins grantedFive {1, 2, 3} voterPast vote → vote.term = 5 → vote.candidate = 2 := by
  have sent : .send 2 ⟨2, 1, [1]⟩ ∈ lifeTrace .follower [.ready] .new voteReady := by decide +kernel
  have wins : Wins grantedFive {1, 2, 3} voterPast ⟨5, 2⟩ :=
    ⟨{1, 2}, ⟨by decide, by decide⟩, fun _ _ => ⟨_, List.mem_cons_self, 2, _, sent, rfl⟩⟩
  exact ⟨wins, fun vote other term => elections_safe (fun _ _ => voter_lives) other wins term⟩

end RaftATui
