import RaftATui.Construction.Node
import RaftATui.Library.Text

/-
This file models the command line that the TUI of the server reads.
-/

namespace RaftATui
open Machinery

/-- This is `parse_command`. Only a PUT asks for a second word behind its command. -/
def parseCommand (input : String) : Option UserCommand :=
  match Text.words input.toList with
  | [] => none
  | name :: parts =>
      let cmd := String.ofList (Text.toAsciiLowercase name)
      if cmd = "put" ∨ cmd = "p" then
        match parts with
        | [] => none
        | key :: rest =>
            let value := Text.joined rest
            if value.isEmpty then none else some (.put (String.ofList key) (String.ofList value))
      else if cmd = "get" ∨ cmd = "g" then
        match parts with
        | [] => none
        | key :: _ => some (.get (String.ofList key))
      else if cmd = "keys" ∨ cmd = "k" then some .keys
      else if cmd = "status" ∨ cmd = "s" then some .status
      else if cmd = "campaign" ∨ cmd = "c" then some .campaign
      else none

end RaftATui
