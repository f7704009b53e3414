import RaftATui.Construction.Commands
import RaftATui.Construction.Server.App
import RaftATui.Library.ByteIndex

/-
This file models how the server's TUI handles its keys.
-/

namespace RaftATui.Server
open Machinery

inductive InputMode where
  | normal
  | editing
  deriving DecidableEq, Repr

inductive KeyCode where
  | char (letter : Char)
  | enter
  | esc
  | backspace
  | left
  | right
  | other
  deriving DecidableEq, Repr

structure KeyEvent where
  code : KeyCode
  control : Bool
  deriving DecidableEq, Repr

inductive KeyAction where
  | «continue»
  | quit
  deriving DecidableEq, Repr

/-- This is `App` with its input line and the commands in its channel. The cursor is a byte offset. -/
structure Tui where
  app : App
  input : String
  cursorPosition : Nat
  inputMode : InputMode
  commandHistory : List String
  sent : List UserCommand

namespace Tui

def new (nodeId : Nat) : Tui := ⟨.new nodeId, "", 0, .editing, [], []⟩

def addCommandHistory (cmd : String) (tui : Tui) : Tui :=
  let kept := if 50 ≤ tui.commandHistory.length then tui.commandHistory.drop 1 else tui.commandHistory
  { tui with commandHistory := kept ++ [cmd] }

def addSystemMessage (msg : String) (tui : Tui) : Tui := { tui with app := tui.app.addSystemMessage msg }

/-- The flag tells whether the driver still receives commands. -/
def submitCommand (received : Bool) (tui : Tui) : Except String KeyAction × Tui :=
  let input := tui.input
  let drained := { tui with input := "", cursorPosition := 0 }
  let trimmed := String.ofList (Text.trim input.toList)
  if trimmed.isEmpty then (.ok .«continue», drained)
  else if trimmed = "quit" ∨ trimmed = "exit" then (.ok .quit, drained)
  else match parseCommand input with
    | some cmd =>
        if received then
          (.ok .«continue», (addCommandHistory input { drained with sent := drained.sent ++ [cmd] }).addSystemMessage
            s!"Command sent: {input}")
        else (.error "sending on a disconnected channel", drained)
    | none => (.ok .«continue», drained.addSystemMessage s!"Unknown command: {input}")

def insertChar (letter : Char) (tui : Tui) : Option Tui :=
  (ByteIndex.insert tui.cursorPosition letter tui.input.toList).map fun text =>
    { tui with input := String.ofList text, cursorPosition := tui.cursorPosition + 1 }

def backspace (tui : Tui) : Option Tui :=
  if 0 < tui.cursorPosition then
    (ByteIndex.remove (tui.cursorPosition - 1) tui.input.toList).map fun text =>
      { tui with input := String.ofList text, cursorPosition := tui.cursorPosition - 1 }
  else some tui

/-- No result is a panic. -/
def handleKeyEvent (received : Bool) (key : KeyEvent) (tui : Tui) : Option (Except String KeyAction × Tui) :=
  match tui.inputMode with
  | .normal =>
      match key.code with
      | .char 'q' => some (.ok .quit, tui)
      | .char 'i' => some (.ok .«continue», { tui with inputMode := .editing })
      | _ => some (.ok .«continue», tui)
  | .editing =>
      match key.code with
      | .esc => some (.ok .«continue», { tui with inputMode := .normal })
      | .enter => some (tui.submitCommand received)
      | .backspace => tui.backspace.map fun after => (.ok .«continue», after)
      | .left =>
          some (.ok .«continue», if 0 < tui.cursorPosition then
            { tui with cursorPosition := tui.cursorPosition - 1 } else tui)
      | .right =>
          some (.ok .«continue», if tui.cursorPosition < ByteIndex.byteLength tui.input.toList then
            { tui with cursorPosition := tui.cursorPosition + 1 } else tui)
      | .char letter =>
          if letter = 'c' ∧ key.control then some (.ok .quit, tui)
          else (tui.insertChar letter).map fun after => (.ok .«continue», after)
      | .other => some (.ok .«continue», tui)

/-- The keys are handled one after the other, and no result is a panic. -/
def run : List (KeyEvent × Bool) → Tui → Option Tui
  | [], tui => some tui
  | (key, received) :: rest, tui => (tui.handleKeyEvent received key).bind fun result => run rest result.2

end Tui

end RaftATui.Server
