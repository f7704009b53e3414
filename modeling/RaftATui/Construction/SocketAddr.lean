import RaftATui.Construction.RaftTypes
import RaftATui.Library.Text

/-
This file gives the socket addresses of the peers and the arithmetic on their ports.
-/

namespace RaftATui
open Machinery

structure SocketAddr (Ip : Type) where
  ip : Ip
  port : UInt16
  deriving DecidableEq, Repr

/-- These are the visible characters that `HeaderValue::to_str` accepts. -/
def isVisible (letter : Char) : Bool := (32 ≤ letter.toNat && letter.toNat < 127) || letter == '\t'

/-- This is the `Display` and `FromStr` text of the socket addresses over one type of hosts. -/
structure SocketAddrText (Ip : Type) where
  display : SocketAddr Ip → String
  parse : String → Option (SocketAddr Ip)
  parse_display : ∀ addr, parse (display addr) = some addr
  display_visible : ∀ addr, (display addr).toList.all isVisible = true

theorem SocketAddrText.display_injective {Ip : Type} (text : SocketAddrText Ip)
    {first second : SocketAddr Ip} (same : text.display first = text.display second) : first = second := by
  have parsed := text.parse_display first
  rw [same, text.parse_display] at parsed
  exact (Option.some.inj parsed).symm

/-- This adds 1000 to the port, and no result is a panic. -/
def SocketAddr.grpc {Ip : Type} (build : Build) (addr : SocketAddr Ip) : Option (SocketAddr Ip) :=
  if build = .debug ∧ UInt16.size ≤ addr.port.toNat + 1000 then none
  else some { addr with port := addr.port + 1000 }

theorem SocketAddr.grpc_eq {Ip : Type} {build : Build} {addr shifted : SocketAddr Ip}
    (done : addr.grpc build = some shifted) : shifted = { addr with port := addr.port + 1000 } := by
  rw [SocketAddr.grpc] at done
  split at done
  · exact absurd done (by simp)
  · exact (Option.some.inj done).symm

/-- Adding twice never gives the port that adding once gives. -/
theorem port_twice (port : UInt16) : port + 1000 + 1000 ≠ port + 1000 := by
  intro same
  have zero : (1000 : UInt16) = 0 :=
    (UInt16.add_right_inj (port + 1000)).mp (by rw [same, UInt16.add_zero])
  exact absurd zero (by decide)

structure Ipv4Addr where
  a : UInt8
  b : UInt8
  c : UInt8
  d : UInt8
  deriving DecidableEq, Repr

namespace Ipv4Addr

def decimal (number : Nat) : List Char := Nat.toDigits 10 number

def letters (addr : SocketAddr Ipv4Addr) : List Char :=
  decimal addr.ip.a.toNat ++ '.' :: (decimal addr.ip.b.toNat ++ '.' :: (decimal addr.ip.c.toNat ++
    '.' :: (decimal addr.ip.d.toNat ++ ':' :: decimal addr.port.toNat)))

def readChar (letter : Char) : List Char → Option (List Char)
  | first :: rest => if first = letter then some rest else none
  | [] => none

def readOctet : List Char → Option (Nat × List Char) := Text.readNumber 256 (some 3) false

/-- This is `read_socket_addr_v4`, which has to consume the whole text. -/
def parseLetters (text : List Char) : Option (SocketAddr Ipv4Addr) := do
  let (a, text) ← readOctet text
  let text ← readChar '.' text
  let (b, text) ← readOctet text
  let text ← readChar '.' text
  let (c, text) ← readOctet text
  let text ← readChar '.' text
  let (d, text) ← readOctet text
  let text ← readChar ':' text
  let (port, text) ← Text.readNumber 65536 none true text
  if text.isEmpty then
    some ⟨⟨UInt8.ofNat a, UInt8.ofNat b, UInt8.ofNat c, UInt8.ofNat d⟩, UInt16.ofNat port⟩
  else none

theorem readOctet_decimal (octet : UInt8) (letter : Char) (rest : List Char)
    (other : letter.isDigit = false) :
    readOctet (decimal octet.toNat ++ letter :: rest) = some (octet.toNat, letter :: rest) := by
  have small : octet.toNat < 256 := octet.toNat_lt
  have short : (Nat.toDigits 10 octet.toNat).length ≤ 3 :=
    (Nat.length_toDigits_le_iff (by decide) (by decide)).mpr (by omega)
  exact Text.readNumber_toDigits (some 3) false (letter :: rest) small (by simpa using short) (by simpa using other)

/-- The text of an address is read back. -/
theorem parseLetters_letters (addr : SocketAddr Ipv4Addr) : parseLetters (letters addr) = some addr := by
  have port : Text.readNumber 65536 none true (decimal addr.port.toNat) = some (addr.port.toNat, []) := by
    have read := Text.readNumber_toDigits none true [] addr.port.toNat_lt rfl rfl
    rwa [List.append_nil] at read
  simp [parseLetters, letters, readOctet_decimal, readChar, port]

theorem letters_visible (addr : SocketAddr Ipv4Addr) : (letters addr).all isVisible = true := by
  have digits (number : Nat) : (decimal number).all isVisible = true := by
    rw [List.all_eq_true]
    intro letter member
    have range : 48 ≤ letter.toNat ∧ letter.toNat ≤ 57 := by
      simpa [Char.isDigit, UInt32.le_iff_toNat_le] using Text.toDigits_isDigit member
    simp only [isVisible, Bool.or_eq_true, Bool.and_eq_true, decide_eq_true_eq]
    omega
  have dot : isVisible '.' = true := by decide
  have colon : isVisible ':' = true := by decide
  simp [letters, List.all_append, digits, dot, colon]

def text : SocketAddrText Ipv4Addr where
  display addr := String.ofList (letters addr)
  parse string := parseLetters string.toList
  parse_display addr := by rw [String.toList_ofList, parseLetters_letters]
  display_visible addr := by rw [String.toList_ofList, letters_visible]

end Ipv4Addr

end RaftATui
