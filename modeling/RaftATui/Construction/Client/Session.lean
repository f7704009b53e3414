import RaftATui.Construction.Client.App

/-
This file gives the command line of the client and the calls of a whole session.
-/

namespace RaftATui.Client
open Machinery

inductive Request where
  | put (key value : String)
  | get (key : String)
  deriving DecidableEq, Repr

inductive Order where
  | issue (request : Request)
  | message (text : String)
  | nothing
  deriving DecidableEq, Repr

/-- This is the part of `handle_command` before its call. -/
def readCommand (cmd : String) : Order :=
  match Text.words cmd.toList with
  | [] => .nothing
  | first :: parts =>
      let name := String.ofList (Text.toAsciiLowercase first)
      if name = "put" ∨ name = "p" then
        match parts with
        | key :: word :: more => .issue (.put (String.ofList key) (String.ofList (Text.joined (word :: more))))
        | _ => .message "Usage: put <key> <value>"
      else if name = "get" ∨ name = "g" then
        match parts with
        | [key] => .issue (.get (String.ofList key))
        | _ => .message "Usage: get <key>"
      else if name = "quit" ∨ name = "exit" ∨ name = "q" then .nothing
      else .message s!"Unknown command: {String.ofList first}"

inductive GetDial where
  | refused (error : String)
  | answered (result : Except Status GetResponse)

/-- This is what the network does to the calls of one line, and how long they take. -/
structure Net where
  pick : Nat → Nat
  put : (attempt : Nat) → (addr key value : String) → Dial
  get : (addr key : String) → GetDial
  elapsed : String

namespace App

variable {Ip : Type}

def get (pick : Nat) (dial : String → GetDial) (app : App) : Except String String :=
  match dial (withScheme (app.getTargetAddr pick)) with
  | .refused error => .error error
  | .answered (.error status) => .error status.message
  | .answered (.ok inner) => if inner.found then .ok inner.value else .ok "(not found)"

def addMessage (text : String) (app : App) : App := { app with messages := app.messages ++ [text] }

/-- This is `handle_command`, and no result is a panic. -/
def handleCommand (text : SocketAddrText Ip) (build : Build) (net : Net) (cmd : String) (app : App) : Option App :=
  match readCommand cmd with
  | .nothing => some app
  | .message shown => some (app.addMessage shown)
  | .issue (.put key value) =>
      (app.put text build net.pick fun attempt addr => net.put attempt addr key value).map fun (result, after) =>
        match result with
        | .ok _ => after.addMessage s!"PUT Success ({net.elapsed})"
        | .error error => after.addMessage s!"PUT Error: {error}"
  | .issue (.get key) =>
      match app.get (net.pick 0) fun addr => net.get addr key with
      | .ok val => some (app.addMessage s!"GET: {val} ({net.elapsed})")
      | .error error => some (app.addMessage s!"GET Error: {error}")

/-- The lines are handled in order, and no result is a panic. -/
def session (text : SocketAddrText Ip) (build : Build) : List (String × Net) → App → Option App
  | [], app => some app
  | (cmd, net) :: rest, app => (app.handleCommand text build net cmd).bind (session text build rest)

end App

end RaftATui.Client
