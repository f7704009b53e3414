import RaftATui.Construction.Client.Session
import RaftATui.Construction.Commands

namespace RaftATui.Client
open Machinery

/-- This is the call that a line issues. -/
def issued (cmd : String) : Option Request :=
  match readCommand cmd with
  | .issue request => some request
  | _ => none

/-- This is the first word of a line in lower case. -/
def commandName (line : String) : Option String :=
  (Text.words line.toList).head?.map fun name => String.ofList (Text.toAsciiLowercase name)

def IsPut (line : String) : Prop := commandName line = some "put" ∨ commandName line = some "p"

def IsGet (line : String) : Prop := commandName line = some "get" ∨ commandName line = some "g"

section Words

variable {line : String} {name : List Char} {parts : List (List Char)}

/-- The name of a line is its first word in lower case. -/
theorem commandName_eq (split : Text.words line.toList = name :: parts) :
    commandName line = some (String.ofList (Text.toAsciiLowercase name)) := by
  rw [commandName, split]
  rfl

/-- A PUT takes the next word as its key and joins the rest, which must not be missing. -/
theorem put_line (split : Text.words line.toList = name :: parts) (put : IsPut line) :
    (∃ key word more, parts = key :: word :: more ∧
      issued line = some (.put (String.ofList key) (String.ofList (Text.joined (word :: more)))) ∧
      parseCommand line = some (.put (String.ofList key) (String.ofList (Text.joined (word :: more))))) ∨
    (issued line = none ∧ parseCommand line = none) := by
  have asked : String.ofList (Text.toAsciiLowercase name) = "put" ∨
      String.ofList (Text.toAsciiLowercase name) = "p" := by
    simpa only [IsPut, commandName_eq split, Option.some.injEq] using put
  rcases parts with _ | ⟨key, _ | ⟨word, more⟩⟩
  · right
    simp only [issued, readCommand, parseCommand, split, if_pos asked, and_self]
  · right
    simp only [issued, readCommand, parseCommand, split, if_pos asked, true_and]
    rfl
  · left
    have member : word ∈ Text.words line.toList := by simp [split]
    have filled : (Text.joined (word :: more)).isEmpty = false :=
      Bool.eq_false_iff.mpr fun empty =>
        Text.joined_cons_ne_nil (Text.ne_nil_of_mem_words member) more (List.isEmpty_iff.mp empty)
    refine ⟨key, word, more, rfl, ?_, ?_⟩
    · simp only [issued, readCommand, split, if_pos asked]
    · simp only [parseCommand, split, if_pos asked, filled, Bool.false_eq_true, if_false]

/-- A GET takes the next word as its key. The client wants no other word behind it. -/
theorem get_line (split : Text.words line.toList = name :: parts) (get : IsGet line) :
    issued line = (match parts with
      | [key] => some (.get (String.ofList key))
      | _ => none) ∧
    parseCommand line = parts.head?.map fun key => .get (String.ofList key) := by
  have asked : String.ofList (Text.toAsciiLowercase name) = "get" ∨
      String.ofList (Text.toAsciiLowercase name) = "g" := by
    simpa only [IsGet, commandName_eq split, Option.some.injEq] using get
  have other : ¬ (String.ofList (Text.toAsciiLowercase name) = "put" ∨
      String.ofList (Text.toAsciiLowercase name) = "p") := by
    rcases asked with same | same <;> rw [same] <;> decide
  rcases parts with _ | ⟨key, _ | ⟨word, more⟩⟩ <;>
    simp only [issued, readCommand, parseCommand, split, if_neg other, if_pos asked, true_and] <;>
    rfl

/-- A line of another command issues no call, and the server reads neither a PUT nor a GET from it. -/
theorem other_line (noPut : ¬ IsPut line) (noGet : ¬ IsGet line) :
    issued line = none ∧ (∀ key value, parseCommand line ≠ some (.put key value)) ∧
      ∀ key, parseCommand line ≠ some (.get key) := by
  cases split : Text.words line.toList with
  | nil => simp [issued, readCommand, parseCommand, split]
  | cons name parts =>
      simp only [IsPut, IsGet, commandName_eq split, Option.some.injEq] at noPut noGet
      have quiet : issued line = none := by
        simp only [issued, readCommand, split, if_neg noPut, if_neg noGet]
        split_ifs <;> rfl
      refine ⟨quiet, fun key value => ?_, fun key => ?_⟩ <;>
        simp only [parseCommand, split, if_neg noPut, if_neg noGet] <;>
        split_ifs <;> simp

end Words

/-- Both command lines read the same PUT. They read the same GET when it has no word behind its key. -/
theorem commandLines_agree (line : String) :
    (∀ key value, issued line = some (.put key value) ↔ parseCommand line = some (.put key value)) ∧
      ∀ key, issued line = some (.get key) ↔
        parseCommand line = some (.get key) ∧ (Text.words line.toList).length = 2 := by
  cases split : Text.words line.toList with
  | nil => simp [issued, readCommand, parseCommand, split]
  | cons name parts =>
      by_cases put : IsPut line
      · rcases put_line split put with ⟨key, word, more, rfl, client, server⟩ | ⟨client, server⟩
        · simp [client, server]
        · simp [client, server]
      · by_cases get : IsGet line
        · obtain ⟨client, server⟩ := get_line split get
          rw [client, server]
          rcases parts with _ | ⟨key, _ | ⟨word, more⟩⟩ <;> simp
        · obtain ⟨client, noPut, noGet⟩ := other_line put get
          simp [client, noPut, noGet]

/-- The server reads a GET from a line that the client rejects. -/
theorem commandLines_differ :
    ¬ (issued "get a b" = some (.get "a") ↔ parseCommand "get a b" = some (.get "a")) ∧
      parseCommand "get a b" = some (.get "a") ∧ readCommand "get a b" = .message "Usage: get <key>" := by
  decide +kernel

end RaftATui.Client
