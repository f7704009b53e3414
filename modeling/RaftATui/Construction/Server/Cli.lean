import RaftATui.Construction.Server.RaftKvService

/-
This file models how the server reads its peer list.
-/

namespace RaftATui
open Machinery

/-- The text of an address stands in a peer list as it is, and other names are looked up. -/
structure PeerText (Ip : Type) extends SocketAddrText Ip where
  display_plain : ∀ addr, ∀ letter ∈ (display addr).toList,
    letter ≠ ',' ∧ letter ≠ '=' ∧ Text.isWhitespace letter = false
  lookup : String → Except String (List (SocketAddr Ip))

namespace Cli

variable {Ip : Type}

/-- This is `to_socket_addrs`, which parses a text before it looks it up. -/
def toSocketAddrs (text : PeerText Ip) (addrStr : String) : Except String (List (SocketAddr Ip)) :=
  match text.parse addrStr with
  | some addr => .ok [addr]
  | none => text.lookup addrStr

def digitError (bound : Nat) : (value : Nat) → List Char → String
  | _, [] => "invalid digit found in string"
  | value, letter :: rest =>
      if !letter.isDigit then "invalid digit found in string"
      else if bound ≤ value * 10 + (letter.toNat - '0'.toNat) then "number too large to fit in target type"
      else digitError bound (value * 10 + (letter.toNat - '0'.toNat)) rest

def parseIntError (bound : Nat) (text : List Char) : String :=
  if text.isEmpty then "cannot parse integer from empty string"
  else digitError bound 0 (Text.withoutSign text)

/-- This is the part of `parse_peers` that reads one entry. -/
def parsePeer (text : PeerText Ip) (peerEntry : List Char) : Except String (Nat × SocketAddr Ip) :=
  let shown := String.ofList peerEntry
  match peerEntry.splitOn '=' with
  | [idText, addrText] =>
      let addrStr := String.ofList addrText
      match Text.parseUnsigned (2 ^ 64) idText with
      | none => .error s!"Invalid node ID '{String.ofList idText}' in peer '{shown}': {parseIntError (2 ^ 64) idText}"
      | some id =>
          match toSocketAddrs text addrStr with
          | .error error => .error s!"Invalid address '{addrStr}' in peer '{shown}': {error}"
          | .ok [] => .error s!"Could not resolve address '{addrStr}' in peer '{shown}'"
          | .ok (addr :: _) => .ok (id, addr)
  | _ => .error s!"Invalid peer format '{shown}': expected ID=HOST:PORT"

/-- This loop skips the blank pieces of the list. -/
def parsePeersLoop (text : PeerText Ip) : List (List Char) → PeerMap Ip → Except String (PeerMap Ip)
  | [], peers => .ok peers
  | piece :: rest, peers =>
      let peerEntry := Text.trim piece
      if peerEntry.isEmpty then parsePeersLoop text rest peers
      else match parsePeer text peerEntry with
        | .error error => .error error
        | .ok (id, addr) =>
            if peers[id]?.isSome then .error s!"Duplicate node ID {id} in peer list"
            else parsePeersLoop text rest (peers.insert id addr)

def parsePeers (text : PeerText Ip) (peersStr : String) : Except String (PeerMap Ip) :=
  match parsePeersLoop text (peersStr.toList.splitOn ',') ∅ with
  | .error error => .error error
  | .ok peers => if peers.isEmpty then .error "Peer list is empty" else .ok peers

end Cli

namespace Ipv4Addr

theorem isWhitespace_of_isDigit {letter : Char} (digit : letter.isDigit = true) :
    letter ≠ ',' ∧ letter ≠ '=' ∧ Text.isWhitespace letter = false := by
  refine ⟨?_, ?_, Text.isDigit_not_whitespace digit⟩ <;>
    · rintro rfl
      exact absurd digit (by decide)

theorem letters_plain (addr : SocketAddr Ipv4Addr) : ∀ letter ∈ letters addr,
    letter ≠ ',' ∧ letter ≠ '=' ∧ Text.isWhitespace letter = false := by
  have digits (number : Nat) : ∀ letter ∈ decimal number,
      letter ≠ ',' ∧ letter ≠ '=' ∧ Text.isWhitespace letter = false :=
    fun _ member => isWhitespace_of_isDigit (Text.toDigits_isDigit member)
  have dot : '.' ≠ ',' ∧ '.' ≠ '=' ∧ Text.isWhitespace '.' = false := by decide
  have colon : ':' ≠ ',' ∧ ':' ≠ '=' ∧ Text.isWhitespace ':' = false := by decide
  simp only [letters, List.forall_mem_append, List.forall_mem_cons]
  exact ⟨digits _, dot, digits _, dot, digits _, dot, digits _, colon, digits _⟩

/-- These are the peer lists whose hosts are IPv4 addresses. No name is known. -/
def peerText : PeerText Ipv4Addr where
  toSocketAddrText := text
  display_plain addr letter member := by
    have shown : (text.display addr).toList = letters addr := String.toList_ofList
    rw [shown] at member
    exact letters_plain addr letter member
  lookup _ := .error "failed to lookup address information: Name or service not known"

end Ipv4Addr

end RaftATui
