import RaftATui.Construction.Driver.State

/-
This file gives what the server's TUI keeps of the state updates.
-/

namespace RaftATui
open Machinery

def Effect.update : Effect → Option StateUpdate
  | .notify update => some update
  | _ => none

def updates (trace : List Effect) : List StateUpdate := trace.filterMap Effect.update

namespace Server

/-- This is the server's `App` without its input line and its channels. -/
structure App where
  nodeId : Nat
  raftState : Option RaftState
  kvStore : KvMap
  systemMessages : List String

namespace App

def new (nodeId : Nat) : App := ⟨nodeId, none, ∅, []⟩

/-- The messages are a ring buffer of one hundred. -/
def addSystemMessage (msg : String) (app : App) : App :=
  let kept := if 100 ≤ app.systemMessages.length then app.systemMessages.drop 1 else app.systemMessages
  { app with systemMessages := kept ++ [msg] }

def applyStateUpdate (app : App) : StateUpdate → App
  | .raftState state => { app with raftState := some state }
  | .kvUpdate key value =>
      addSystemMessage s!"KV Update: {key} = {value}" { app with kvStore := app.kvStore.insert key value }
  | .logEntry index term data => app.addSystemMessage s!"Log Entry: idx={index} term={term} data={data}"
  | .systemMessage msg => app.addSystemMessage msg

def consume (app : App) (updates : List StateUpdate) : App := updates.foldl applyStateUpdate app

end App

end Server

end RaftATui
