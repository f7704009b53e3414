import RaftATui.Construction.Server.Cli
import RaftATui.Library.OrderedTree
import Mathlib.Data.List.Perm.Basic

namespace RaftATui.Cli
open Machinery

variable {Ip : Type} {text : PeerText Ip}

/-- These are the trimmed pieces of a list that are not blank. -/
def segments (pieces : List (List Char)) : List (List Char) :=
  (pieces.map Text.trim).filter fun segment => !segment.isEmpty

/-- A segment binds the number before its only equals sign to the address behind it. -/
def Binds (text : PeerText Ip) (segment : List Char) (peer : Nat × SocketAddr Ip) : Prop :=
  ∃ idText addrText, segment = idText ++ '=' :: addrText ∧ '=' ∉ idText ∧ '=' ∉ addrText ∧
    Text.parseUnsigned (2 ^ 64) idText = some peer.1 ∧
    ∃ others, toSocketAddrs text (String.ofList addrText) = .ok (peer.2 :: others)

/-- An entry is read exactly as the binding that it states. -/
theorem parsePeer_eq_ok_iff {peerEntry : List Char} {peer : Nat × SocketAddr Ip} :
    parsePeer text peerEntry = .ok peer ↔ Binds text peerEntry peer := by
  constructor
  · intro read
    dsimp only [parsePeer] at read
    split at read
    · next idText addrText split =>
        obtain ⟨whole, idClear, addrClear⟩ := Text.splitOn_eq_pair_iff.mp split
        split at read
        · cases read
        · next id number =>
            split at read
            · cases read
            · cases read
            · next addr others resolved =>
                rw [← Except.ok.inj read]
                exact ⟨idText, addrText, whole, idClear, addrClear, number, others, resolved⟩
    · cases read
  · rintro ⟨idText, addrText, whole, idClear, addrClear, number, others, resolved⟩
    have split := Text.splitOn_eq_pair_iff.mpr ⟨whole, idClear, addrClear⟩
    simp only [parsePeer, split, number, resolved]

/-- A blank piece is skipped. -/
theorem segments_cons_blank {piece : List Char} (blank : (Text.trim piece).isEmpty = true)
    (rest : List (List Char)) : segments (piece :: rest) = segments rest := by
  rw [segments, List.map_cons, List.filter_cons, blank]
  rfl

/-- Another piece is trimmed. -/
theorem segments_cons {piece : List Char} (filled : (Text.trim piece).isEmpty = false) (rest : List (List Char)) :
    segments (piece :: rest) = Text.trim piece :: segments rest := by
  rw [segments, List.map_cons, List.filter_cons, filled]
  rfl

/-- A key is free behind an insert when it is another one that was free. -/
theorem insert_eq_none_iff {peers : PeerMap Ip} {id key : Nat} {addr : SocketAddr Ip} :
    (peers.insert id addr)[key]? = none ↔ id ≠ key ∧ peers[key]? = none := by
  rw [OrderedTree.getElem?_insert]
  by_cases same : id = key
  · simp [same]
  · simp [same]

/-- The segments bind distinct new ids, and these bindings are added to the peers. -/
def Accepts (text : PeerText Ip) (segments : List (List Char)) (peers final : PeerMap Ip) : Prop :=
  ∃ bindings, List.Forall₂ (Binds text) segments bindings ∧ (bindings.map Prod.fst).Nodup ∧
    (∀ peer ∈ bindings, peers[peer.1]? = none) ∧ final = OrderedTree.insertAll peers bindings

/-- The end of the list leaves the peers as they are. -/
theorem accepts_nil_iff {peers final : PeerMap Ip} : Accepts text [] peers final ↔ peers = final := by
  constructor
  · rintro ⟨bindings, bound, _, _, built⟩
    cases bound
    exact built.symm
  · rintro rfl
    exact ⟨[], .nil, List.nodup_nil, by simp, rfl⟩

/-- The first segment binds a new id, and the rest is accepted behind it. -/
theorem accepts_cons_iff {segment : List Char} {rest : List (List Char)} {peer : Nat × SocketAddr Ip}
    {peers final : PeerMap Ip} (binds : Binds text segment peer)
    (only : ∀ other, Binds text segment other → other = peer) :
    Accepts text (segment :: rest) peers final ↔
      peers[peer.1]? = none ∧ Accepts text rest (peers.insert peer.1 peer.2) final := by
  constructor
  · rintro ⟨bindings, bound, distinct, fresh, built⟩
    obtain ⟨first, more, here, later, rfl⟩ := List.forall₂_cons_left_iff.mp bound
    obtain rfl := only first here
    obtain ⟨apart, distinct⟩ := List.nodup_cons.mp distinct
    refine ⟨fresh first List.mem_cons_self, more, later, distinct, fun other member => ?_, built⟩
    refine insert_eq_none_iff.mpr ⟨?_, fresh other (List.mem_cons_of_mem _ member)⟩
    intro same
    exact apart (List.mem_map.mpr ⟨other, member, same.symm⟩)
  · rintro ⟨missing, bindings, bound, distinct, fresh, built⟩
    have apart : peer.1 ∉ bindings.map Prod.fst := by
      intro inside
      obtain ⟨other, member, same⟩ := List.mem_map.mp inside
      exact (insert_eq_none_iff.mp (fresh other member)).1 same.symm
    refine ⟨peer :: bindings, .cons binds bound, List.nodup_cons.mpr ⟨apart, distinct⟩, fun other member => ?_, built⟩
    rcases List.mem_cons.mp member with rfl | later
    · exact missing
    · exact (insert_eq_none_iff.mp (fresh other later)).2

/-- The loop accepts what its segments state. -/
theorem parsePeersLoop_eq_ok_iff {pieces : List (List Char)} {peers final : PeerMap Ip} :
    parsePeersLoop text pieces peers = .ok final ↔ Accepts text (segments pieces) peers final := by
  induction pieces generalizing peers with
  | nil => rw [parsePeersLoop, Except.ok.injEq, segments, List.map_nil, List.filter_nil, accepts_nil_iff]
  | cons piece rest ih =>
      cases blank : (Text.trim piece).isEmpty with
      | true => rw [parsePeersLoop, segments_cons_blank blank, if_pos blank, ih]
      | false =>
          rw [parsePeersLoop, segments_cons blank, if_neg (by rw [blank]; exact Bool.false_ne_true)]
          cases read : parsePeer text (Text.trim piece) with
          | error error =>
              constructor
              · intro done
                cases done
              · rintro ⟨bindings, bound, _⟩
                obtain ⟨peer, _, binds, _, rfl⟩ := List.forall₂_cons_left_iff.mp bound
                rw [parsePeer_eq_ok_iff.mpr binds] at read
                cases read
          | ok peer =>
              have only (other : Nat × SocketAddr Ip) (binds : Binds text (Text.trim piece) other) :
                  other = peer := by
                rw [parsePeer_eq_ok_iff.mpr binds] at read
                exact Except.ok.inj read
              rw [accepts_cons_iff (parsePeer_eq_ok_iff.mp read) only, ← ih]
              cases stored : peers[peer.1]? <;> simp [stored]

/-- A peer list is accepted exactly when its loop ends with some peer. -/
theorem parsePeers_eq_ok_iff_loop {peersStr : String} {peers : PeerMap Ip} :
    parsePeers text peersStr = .ok peers ↔
      parsePeersLoop text (peersStr.toList.splitOn ',') ∅ = .ok peers ∧ peers.isEmpty = false := by
  unfold parsePeers
  cases parsePeersLoop text (peersStr.toList.splitOn ',') ∅ with
  | error error => simp
  | ok built =>
      cases empty : built.isEmpty with
      | true =>
          refine ⟨fun done => by simp [empty] at done, ?_⟩
          rintro ⟨same, filled⟩
          rw [← Except.ok.inj same, empty] at filled
          cases filled
      | false =>
          simp only [empty, Bool.false_eq_true, if_false, Except.ok.injEq]
          refine ⟨fun same => ⟨same, by rw [← same, empty]⟩, And.left⟩

/-- The map has as many peers as there are segments. -/
theorem isEmpty_eq_false_iff {segments : List (List Char)} {bindings : List (Nat × SocketAddr Ip)}
    {peers : PeerMap Ip} (bound : List.Forall₂ (Binds text) segments bindings) (same : peers.toList.Perm bindings) :
    peers.isEmpty = false ↔ segments ≠ [] := by
  have count : peers.toList.length = segments.length := same.length_eq.trans bound.length_eq.symm
  rw [← Std.ExtTreeMap.isEmpty_toList, ← Bool.not_eq_true, List.isEmpty_iff, ← List.length_eq_zero_iff, count,
    List.length_eq_zero_iff]

/-- A list is accepted exactly when its segments bind distinct ids, and the map has these bindings. -/
theorem parsePeers_eq_ok_iff {peersStr : String} {peers : PeerMap Ip} :
    parsePeers text peersStr = .ok peers ↔ segments (peersStr.toList.splitOn ',') ≠ [] ∧
      ∃ bindings, List.Forall₂ (Binds text) (segments (peersStr.toList.splitOn ',')) bindings ∧
        (bindings.map Prod.fst).Nodup ∧ peers.toList.Perm bindings := by
  rw [parsePeers_eq_ok_iff_loop, parsePeersLoop_eq_ok_iff]
  constructor
  · rintro ⟨⟨bindings, bound, distinct, _, built⟩, filled⟩
    have same := (OrderedTree.eq_insertAll_iff distinct).mp built
    exact ⟨(isEmpty_eq_false_iff bound same).mp filled, bindings, bound, distinct, same⟩
  · rintro ⟨some, bindings, bound, distinct, same⟩
    have built := (OrderedTree.eq_insertAll_iff distinct).mpr same
    exact ⟨⟨bindings, bound, distinct, by simp, built⟩, (isEmpty_eq_false_iff bound same).mpr some⟩

/-- The order of the segments does not matter. -/
theorem parsePeers_perm {first second : String} {peers : PeerMap Ip}
    (same : (segments (first.toList.splitOn ',')).Perm (segments (second.toList.splitOn ',')))
    (read : parsePeers text first = .ok peers) : parsePeers text second = .ok peers := by
  obtain ⟨some, bindings, bound, distinct, listed⟩ := parsePeers_eq_ok_iff.mp read
  obtain ⟨turned, bound, order⟩ := List.perm_comp_forall₂ same.symm bound
  refine parsePeers_eq_ok_iff.mpr ⟨fun none => some (List.perm_nil.mp (none ▸ same)), turned, bound, ?_, ?_⟩
  · exact ((order.map Prod.fst).nodup_iff).mpr distinct
  · exact listed.trans order.symm

/-- These pieces stand in a list behind each other. -/
def listOf (pieces : List (List Char)) : String := String.ofList ([','].intercalate pieces)

/-- The pieces of a list are read back from its text. -/
theorem segments_listOf {pieces : List (List Char)} (clear : ∀ piece ∈ pieces, ',' ∉ piece) :
    segments ((listOf pieces).toList.splitOn ',') = segments pieces := by
  rw [listOf, String.toList_ofList]
  cases pieces with
  | nil => rfl
  | cons piece rest => rw [List.splitOn_intercalate ',' clear (List.cons_ne_nil piece rest)]

/-- This is the entry of a peer in a list. -/
def shownPeer (text : PeerText Ip) (peer : Nat × SocketAddr Ip) : List Char :=
  Nat.toDigits 10 peer.1 ++ '=' :: (text.display peer.2).toList

/-- Peers are shown in a list one after the other. -/
def shownPeers (text : PeerText Ip) (peers : List (Nat × SocketAddr Ip)) : String :=
  listOf (peers.map (shownPeer text))

/-- The text of a peer has no comma and no whitespace. -/
theorem shownPeer_letters (peer : Nat × SocketAddr Ip) {letter : Char} (member : letter ∈ shownPeer text peer) :
    letter ≠ ',' ∧ Text.isWhitespace letter = false := by
  rcases List.mem_append.mp member with digit | rest
  · have number := Text.toDigits_isDigit digit
    refine ⟨?_, Text.isDigit_not_whitespace number⟩
    rintro rfl
    exact absurd number (by decide)
  · rcases List.mem_cons.mp rest with rfl | shown
    · decide
    · have plain := text.display_plain peer.2 letter shown
      exact ⟨plain.1, plain.2.2⟩

/-- The text of a peer binds the peer. -/
theorem binds_shownPeer {peer : Nat × SocketAddr Ip} (small : peer.1 < 2 ^ 64) :
    Binds text (shownPeer text peer) peer := by
  refine ⟨Nat.toDigits 10 peer.1, (text.display peer.2).toList, rfl, ?_, ?_, ?_, [], ?_⟩
  · intro inside
    exact absurd (Text.toDigits_isDigit inside) (by decide)
  · intro inside
    exact (text.display_plain peer.2 '=' inside).2.1 rfl
  · rw [Text.parseUnsigned_toDigits, if_pos small]
  · rw [String.ofList_toList, toSocketAddrs, text.parse_display]

/-- The texts of peers are trimmed already. -/
theorem segments_shownPeers (peers : List (Nat × SocketAddr Ip)) :
    segments (peers.map (shownPeer text)) = peers.map (shownPeer text) := by
  have trimmed (peer : Nat × SocketAddr Ip) : Text.trim (shownPeer text peer) = shownPeer text peer :=
    Text.trim_eq_self fun _ member => (shownPeer_letters peer member).2
  rw [segments, List.map_map, List.filter_eq_self.mpr]
  · exact List.map_congr_left fun peer _ => trimmed peer
  · intro segment inside
    obtain ⟨peer, _, rfl⟩ := List.mem_map.mp inside
    rw [Function.comp_apply, trimmed]
    simp [shownPeer]

/-- The peers of a map are read back from any list of them. -/
theorem parsePeers_shownPeers {peers : PeerMap Ip} {listing : List (Nat × SocketAddr Ip)}
    (same : peers.toList.Perm listing) (filled : listing ≠ []) (small : ∀ peer ∈ listing, peer.1 < 2 ^ 64) :
    parsePeers text (shownPeers text listing) = .ok peers := by
  have clear : ∀ piece ∈ listing.map (shownPeer text), ',' ∉ piece := by
    intro piece inside comma
    obtain ⟨peer, _, rfl⟩ := List.mem_map.mp inside
    exact (shownPeer_letters peer comma).1 rfl
  have distinct : (listing.map Prod.fst).Nodup := by
    rw [← (same.map Prod.fst).nodup_iff, Std.ExtTreeMap.map_fst_toList_eq_keys]
    exact Std.ExtTreeMap.nodup_keys
  rw [parsePeers_eq_ok_iff, shownPeers, segments_listOf clear, segments_shownPeers]
  refine ⟨fun none => filled (List.map_eq_nil_iff.mp none), listing, ?_, distinct, same⟩
  rw [List.forall₂_map_left_iff]
  exact List.forall₂_same.mpr fun peer inside => binds_shownPeer (small peer inside)

/-- The pieces of a list change their order, blank pieces come in, and whitespace comes around a piece. -/
inductive Rearranged : List (List Char) → List (List Char) → Prop
  | reordered {first second : List (List Char)} (same : first.Perm second) : Rearranged first second
  | blank {piece : List Char} (only : ∀ letter ∈ piece, Text.isWhitespace letter = true)
      (pieces : List (List Char)) : Rearranged pieces (piece :: pieces)
  | padded {before after : List Char} (piece : List Char)
      (beforeBlank : ∀ letter ∈ before, Text.isWhitespace letter = true)
      (afterBlank : ∀ letter ∈ after, Text.isWhitespace letter = true)
      (pieces : List (List Char)) : Rearranged (piece :: pieces) ((before ++ piece ++ after) :: pieces)
  | trans {first second third : List (List Char)} (left : Rearranged first second)
      (right : Rearranged second third) : Rearranged first third

/-- A rearranged list has the same pieces. -/
theorem Rearranged.segments {first second : List (List Char)} (rearranged : Rearranged first second) :
    (segments first).Perm (segments second) := by
  induction rearranged with
  | reordered same => exact (same.map Text.trim).filter _
  | blank only pieces =>
      have nothing : Text.trim _ = Text.trim [] := Text.trim_padded [] only fun _ absent => absurd absent List.not_mem_nil
      rw [List.append_nil, List.append_nil] at nothing
      rw [segments_cons_blank (by rw [nothing]; rfl)]
  | padded piece beforeBlank afterBlank pieces =>
      rw [Cli.segments, Cli.segments, List.map_cons, List.map_cons,
        Text.trim_padded piece beforeBlank afterBlank]
  | trans left right firstPerm secondPerm => exact firstPerm.trans secondPerm

/-- A peer list is accepted exactly when it states distinct bindings, which are the map. Their order, blank
pieces and whitespace around the pieces do not matter, and the peers of a map are read back. -/
theorem parsePeers_spec (text : PeerText Ip) :
    (∀ peersStr peers, parsePeers text peersStr = .ok peers ↔
      segments (peersStr.toList.splitOn ',') ≠ [] ∧
        ∃ bindings, List.Forall₂ (Binds text) (segments (peersStr.toList.splitOn ',')) bindings ∧
          (bindings.map Prod.fst).Nodup ∧ peers.toList.Perm bindings) ∧
      (∀ first second : List (List Char), (∀ piece ∈ first, ',' ∉ piece) → (∀ piece ∈ second, ',' ∉ piece) →
        Rearranged first second → ∀ peers,
          parsePeers text (listOf first) = .ok peers ↔ parsePeers text (listOf second) = .ok peers) ∧
      ∀ (peers : PeerMap Ip) (listing : List (Nat × SocketAddr Ip)), peers.toList.Perm listing → listing ≠ [] →
        (∀ peer ∈ listing, peer.1 < 2 ^ 64) → parsePeers text (shownPeers text listing) = .ok peers := by
  refine ⟨fun _ _ => parsePeers_eq_ok_iff, fun first second firstClear secondClear rearranged peers => ?_,
    fun _ _ => parsePeers_shownPeers⟩
  have same := rearranged.segments
  rw [← segments_listOf firstClear, ← segments_listOf secondClear] at same
  exact ⟨parsePeers_perm same, parsePeers_perm same.symm⟩

end RaftATui.Cli
