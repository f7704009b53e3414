import RaftATui.Construction.Server.Tui

namespace RaftATui.Server
open Machinery
open Machinery.ByteIndex (byteLength Narrow)

/-- This is a list of characters with a cursor between two of them, or at one of its ends. -/
structure Editor where
  mode : InputMode
  chars : List Char
  cursor : Nat
  within : cursor ≤ chars.length

namespace Editor

def new : Editor := ⟨.editing, [], 0, Nat.le_refl 0⟩

def clear (editor : Editor) : Editor := { editor with chars := [], cursor := 0, within := Nat.le_refl 0 }

def insert (letter : Char) (editor : Editor) : Editor where
  mode := editor.mode
  chars := editor.chars.insertIdx editor.cursor letter
  cursor := editor.cursor + 1
  within := by
    rw [List.length_insertIdx_of_le_length editor.within]
    exact Nat.succ_le_succ editor.within

/-- The character before the cursor goes. -/
def backspace (editor : Editor) : Editor where
  mode := editor.mode
  chars := if 0 < editor.cursor then editor.chars.eraseIdx (editor.cursor - 1) else editor.chars
  cursor := editor.cursor - 1
  within := by
    have within := editor.within
    split
    · rw [List.length_eraseIdx_of_lt (by omega)]
      omega
    · omega

def left (editor : Editor) : Editor :=
  { editor with cursor := editor.cursor - 1, within := (Nat.sub_le _ _).trans editor.within }

def right (editor : Editor) : Editor where
  mode := editor.mode
  chars := editor.chars
  cursor := min (editor.cursor + 1) editor.chars.length
  within := Nat.min_le_right _ _

/-- This is the character that a key types. -/
def typed (editor : Editor) (key : KeyEvent) : Option Char :=
  match editor.mode, key.code with
  | .editing, .char letter => if letter = 'c' ∧ key.control then none else some letter
  | _, _ => none

def step (key : KeyEvent) (editor : Editor) : Editor :=
  match editor.mode with
  | .normal => if key.code = .char 'i' then { editor with mode := .editing } else editor
  | .editing =>
      match key.code with
      | .esc => { editor with mode := .normal }
      | .enter => editor.clear
      | .backspace => editor.backspace
      | .left => editor.left
      | .right => editor.right
      | .char letter => if letter = 'c' ∧ key.control then editor else editor.insert letter
      | .other => editor

end Editor

/-- The TUI has the line of the editor, and its cursor is the byte offset of the editor's cursor. -/
structure Shows (tui : Tui) (editor : Editor) : Prop where
  mode : tui.inputMode = editor.mode
  input : tui.input.toList = editor.chars
  cursor : tui.cursorPosition = byteLength (editor.chars.take editor.cursor)

/-- The TUI shows the editor before every key and after the last one. No key panics. -/
def Follows : List (KeyEvent × Bool) → Tui → Editor → Prop
  | [], tui, editor => Shows tui editor
  | (key, received) :: rest, tui, editor => Shows tui editor ∧
      ∃ result, tui.handleKeyEvent received key = some result ∧ Follows rest result.2 (editor.step key)

/-- Every typed character is ASCII. -/
def TypesAscii : List (KeyEvent × Bool) → Editor → Prop
  | [], _ => True
  | (key, _) :: rest, editor =>
      (∀ letter, editor.typed key = some letter → letter.toNat < 128) ∧ TypesAscii rest (editor.step key)

/-- A followed run never panics. -/
theorem Follows.run {keys : List (KeyEvent × Bool)} {tui : Tui} {editor : Editor} (follows : Follows keys tui editor) :
    tui.run keys ≠ none := by
  induction keys generalizing tui editor with
  | nil => exact Option.some_ne_none tui
  | cons event rest ih =>
      obtain ⟨key, received⟩ := event
      obtain ⟨_, result, handled, later⟩ := follows
      rw [Tui.run, handled]
      exact ih later

/-- Exactly the ASCII letters have one byte. -/
theorem utf8Size_eq_one_iff {letter : Char} : letter.utf8Size = 1 ↔ letter.toNat < 128 := by
  rw [Char.utf8Size_eq_one_iff, UInt32.le_iff_toNat_le]
  exact Nat.lt_succ_iff.symm

section Step

variable {tui : Tui} {editor : Editor}

/-- Behind narrow characters the byte offset of the cursor is its place in the list. -/
theorem Shows.offset (shows : Shows tui editor) (narrow : Narrow editor.chars) : tui.cursorPosition = editor.cursor :=
  shows.cursor.trans (ByteIndex.byteLength_take narrow editor.within)

/-- In a line of ASCII letters the byte cursor is the letter cursor. -/
theorem shows_of_offset (mode : tui.inputMode = editor.mode) (input : tui.input.toList = editor.chars)
    (narrow : Narrow editor.chars) (cursor : tui.cursorPosition = editor.cursor) : Shows tui editor :=
  ⟨mode, input, cursor.trans (ByteIndex.byteLength_take narrow editor.within).symm⟩

/-- A typed letter stands at the cursor. -/
theorem insertChar_eq (shows : Shows tui editor) (narrow : Narrow editor.chars) (letter : Char) :
    tui.insertChar letter = some { tui with
      input := String.ofList (editor.insert letter).chars
      cursorPosition := editor.cursor + 1 } := by
  rw [Tui.insertChar, shows.input, shows.offset narrow, ByteIndex.insert_narrow narrow editor.within]
  rfl

/-- A typed ASCII letter is inserted as in the editor. -/
theorem insertChar_shows (shows : Shows tui editor) (narrow : Narrow editor.chars) {letter : Char}
    (one : letter.utf8Size = 1) : ∃ after, tui.insertChar letter = some after ∧
      Shows after (editor.insert letter) ∧ Narrow (editor.insert letter).chars := by
  have kept : Narrow (editor.insert letter).chars := narrow.insertIdx editor.within one
  exact ⟨_, insertChar_eq shows narrow letter, shows_of_offset shows.mode String.toList_ofList kept rfl, kept⟩

/-- A wide character leaves the cursor inside of it. -/
theorem insertChar_wide (shows : Shows tui editor) (narrow : Narrow editor.chars) {letter : Char} {after : Tui}
    (inserted : tui.insertChar letter = some after) (follows : Shows after (editor.insert letter)) :
    letter.utf8Size = 1 := by
  rw [insertChar_eq shows narrow letter] at inserted
  have cursor := follows.cursor
  rw [← Option.some.inj inserted] at cursor
  have offset : editor.cursor + 1 = editor.cursor + letter.utf8Size :=
    cursor.trans (ByteIndex.byteLength_take_insertIdx narrow editor.within letter)
  omega

/-- A backspace deletes as in the editor. -/
theorem backspace_shows (shows : Shows tui editor) (narrow : Narrow editor.chars) : ∃ after,
    tui.backspace = some after ∧ Shows after editor.backspace ∧ Narrow editor.backspace.chars := by
  have offset := shows.offset narrow
  have within := editor.within
  unfold Tui.backspace
  by_cases inside : 0 < editor.cursor
  · have chars : editor.backspace.chars = editor.chars.eraseIdx (editor.cursor - 1) := if_pos inside
    have kept : Narrow editor.backspace.chars := by
      rw [chars]
      exact narrow.eraseIdx _
    rw [if_pos (by omega), offset, shows.input, ByteIndex.remove_narrow narrow (by omega)]
    refine ⟨_, rfl, shows_of_offset shows.mode ?_ kept rfl, kept⟩
    exact String.toList_ofList.trans chars.symm
  · have chars : editor.backspace.chars = editor.chars := if_neg inside
    have kept : Narrow editor.backspace.chars := by
      rw [chars]
      exact narrow
    rw [if_neg (by omega)]
    refine ⟨tui, rfl, shows_of_offset shows.mode (shows.input.trans chars.symm) kept ?_, kept⟩
    change tui.cursorPosition = editor.cursor - 1
    omega

/-- Whatever a submitted line does, it leaves an empty line behind. -/
theorem submitCommand_shows (shows : Shows tui editor) (received : Bool) :
    Shows (tui.submitCommand received).2 editor.clear := by
  have drained (after : Tui) (mode : after.inputMode = tui.inputMode) (input : after.input = "")
      (cursor : after.cursorPosition = 0) : Shows after editor.clear := by
    refine ⟨mode.trans shows.mode, ?_, cursor⟩
    rw [input]
    rfl
  unfold Tui.submitCommand
  dsimp only
  split
  · exact drained _ rfl rfl rfl
  · split
    · exact drained _ rfl rfl rfl
    · cases parseCommand tui.input with
      | none => exact drained _ rfl rfl rfl
      | some cmd => cases received <;> exact drained _ rfl rfl rfl

/-- A moved cursor keeps the text. -/
theorem move_shows (shows : Shows tui editor) (narrow : Narrow editor.chars) {after : Tui} {moved : Editor}
    (mode : after.inputMode = moved.mode) (input : after.input = tui.input) (chars : moved.chars = editor.chars)
    (cursor : after.cursorPosition = moved.cursor) : Shows after moved := by
  refine shows_of_offset mode ?_ ?_ cursor
  · rw [input, shows.input, chars]
  · rw [chars]
    exact narrow

/-- In normal mode only one key does something to the line editor. -/
theorem handleKeyEvent_normal (mode : tui.inputMode = .normal) (received : Bool) (key : KeyEvent) :
    ∃ action, tui.handleKeyEvent received key =
      some (.ok action, if key.code = .char 'i' then { tui with inputMode := .editing } else tui) := by
  unfold Tui.handleKeyEvent
  rw [mode]
  dsimp only
  split
  · next quits =>
      rw [quits]
      exact ⟨.quit, rfl⟩
  · next enters =>
      rw [enters]
      exact ⟨.«continue», rfl⟩
  · next _ other => exact ⟨.«continue», by rw [if_neg other]⟩

/-- A key that types no wide character keeps the line and the editor together. -/
theorem handleKeyEvent_shows (shows : Shows tui editor) (narrow : Narrow editor.chars) {key : KeyEvent}
    (ascii : ∀ letter, editor.typed key = some letter → letter.toNat < 128) (received : Bool) :
    ∃ result, tui.handleKeyEvent received key = some result ∧ Shows result.2 (editor.step key) ∧
      Narrow (editor.step key).chars := by
  have offset := shows.offset narrow
  have within := editor.within
  cases mode : editor.mode with
  | normal =>
      obtain ⟨action, handled⟩ := handleKeyEvent_normal (shows.mode.trans mode) received key
      refine ⟨_, handled, ?_⟩
      rw [Editor.step, mode]
      dsimp only
      split
      · exact ⟨⟨rfl, shows.input, shows.cursor⟩, narrow⟩
      · exact ⟨shows, narrow⟩
  | editing =>
      rw [Tui.handleKeyEvent, Editor.step, shows.mode, mode]
      cases code : key.code with
      | esc => exact ⟨_, rfl, ⟨rfl, shows.input, shows.cursor⟩, narrow⟩
      | enter => exact ⟨_, rfl, submitCommand_shows shows received, fun _ absent => absurd absent List.not_mem_nil⟩
      | backspace =>
          obtain ⟨after, removed, follows, kept⟩ := backspace_shows shows narrow
          exact ⟨(.ok .«continue», after), by simp only [removed, Option.map_some], follows, kept⟩
      | left =>
          refine ⟨_, rfl, ?_, narrow⟩
          dsimp only
          split
          · have place : tui.cursorPosition - 1 = editor.left.cursor := congrArg (· - 1) offset
            exact move_shows shows narrow mode.symm rfl rfl place
          · have place : tui.cursorPosition = editor.left.cursor := by
              change tui.cursorPosition = editor.cursor - 1
              omega
            exact move_shows shows narrow shows.mode rfl rfl place
      | right =>
          refine ⟨_, rfl, ?_, narrow⟩
          dsimp only
          rw [shows.input, ByteIndex.byteLength_narrow narrow]
          split
          · have place : tui.cursorPosition + 1 = editor.right.cursor := by
              change tui.cursorPosition + 1 = min (editor.cursor + 1) editor.chars.length
              omega
            exact move_shows shows narrow mode.symm rfl rfl place
          · have place : tui.cursorPosition = editor.right.cursor := by
              change tui.cursorPosition = min (editor.cursor + 1) editor.chars.length
              omega
            exact move_shows shows narrow shows.mode rfl rfl place
      | other => exact ⟨_, rfl, shows, narrow⟩
      | char letter =>
          by_cases quits : letter = 'c' ∧ key.control = true
          · simp only [if_pos quits]
            exact ⟨_, rfl, shows, narrow⟩
          · have typed : editor.typed key = some letter := by simp only [Editor.typed, mode, code, if_neg quits]
            obtain ⟨after, inserted, follows, kept⟩ :=
              insertChar_shows shows narrow (utf8Size_eq_one_iff.mpr (ascii letter typed))
            simp only [if_neg quits]
            exact ⟨(.ok .«continue», after), by simp only [inserted, Option.map_some], follows, kept⟩

/-- A key that types a wide character takes the line and the editor apart. -/
theorem handleKeyEvent_wide (shows : Shows tui editor) (narrow : Narrow editor.chars) {key : KeyEvent} {letter : Char}
    (typed : editor.typed key = some letter) {received : Bool} {result : Except String KeyAction × Tui}
    (handled : tui.handleKeyEvent received key = some result) (follows : Shows result.2 (editor.step key)) :
    letter.toNat < 128 := by
  unfold Editor.typed at typed
  split at typed
  · next other mode code =>
      split at typed
      · cases typed
      · next types =>
          obtain rfl := Option.some.inj typed
          simp only [Tui.handleKeyEvent, shows.mode, mode, code, if_neg types] at handled
          obtain ⟨after, inserted, rfl⟩ := Option.map_eq_some_iff.mp handled
          simp only [Editor.step, mode, code, if_neg types] at follows
          exact utf8Size_eq_one_iff.mp (insertChar_wide shows narrow inserted follows)
  · cases typed

end Step

/-- From a line of narrow characters on, only a wide character takes the TUI and the editor apart. -/
theorem follows_iff_of_shows {keys : List (KeyEvent × Bool)} {tui : Tui} {editor : Editor} (shows : Shows tui editor)
    (narrow : Narrow editor.chars) : Follows keys tui editor ↔ TypesAscii keys editor := by
  induction keys generalizing tui editor with
  | nil => exact ⟨fun _ => trivial, fun _ => shows⟩
  | cons event rest ih =>
      obtain ⟨key, received⟩ := event
      constructor
      · rintro ⟨_, result, handled, later⟩
        have next : Shows result.2 (editor.step key) := by
          cases rest with
          | nil => exact later
          | cons event rest => exact later.1
        have ascii : ∀ letter, editor.typed key = some letter → letter.toNat < 128 :=
          fun letter typed => handleKeyEvent_wide shows narrow typed handled next
        obtain ⟨_, _, _, kept⟩ := handleKeyEvent_shows shows narrow ascii received
        exact ⟨ascii, (ih next kept).mp later⟩
      · rintro ⟨ascii, later⟩
        obtain ⟨result, handled, next, kept⟩ := handleKeyEvent_shows shows narrow ascii received
        exact ⟨shows, result, handled, (ih next kept).mpr later⟩

/-- The line of a new TUI is a list of characters with a cursor exactly as long as only ASCII is typed. -/
theorem lineEditor_follows_iff (nodeId : Nat) (keys : List (KeyEvent × Bool)) :
    Follows keys (.new nodeId) .new ↔ TypesAscii keys .new :=
  follows_iff_of_shows ⟨rfl, rfl, rfl⟩ fun _ absent => absurd absent List.not_mem_nil

/-- The key behind an accented letter panics. -/
theorem lineEditor_panics :
    ¬ Follows [(⟨.char 'é', false⟩, true), (⟨.char 'a', false⟩, true)] (.new 1) .new ∧
      Tui.run [(⟨.char 'é', false⟩, true), (⟨.char 'a', false⟩, true)] (.new 1) = none := by
  have panics : Tui.run [(⟨.char 'é', false⟩, true), (⟨.char 'a', false⟩, true)] (.new 1) = none := by
    decide +kernel
  exact ⟨fun follows => follows.run panics, panics⟩

end RaftATui.Server
