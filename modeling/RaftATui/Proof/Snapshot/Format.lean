import RaftATui.Library.OrderedTree
import RaftATui.Library.Reading
import RaftATui.Construction.Bincode

namespace RaftATui.Bincode
open Machinery
open Machinery.Reading
open Protobuf (utf8 parseUtf8)

/-- A length may be written in each width that holds it. -/
inductive SpellsLen (value : Nat) : Bytes → Prop
  | single (fits : value < 251) : SpellsLen value [UInt8.ofNat value]
  | two (fits : value < 2 ^ 16) : SpellsLen value (251 :: littleEndian 2 value)
  | four (fits : value < 2 ^ 32) : SpellsLen value (252 :: littleEndian 4 value)
  | eight (fits : value < 2 ^ 64) : SpellsLen value (253 :: littleEndian 8 value)

def SpellsString (text : String) (bytes : Bytes) : Prop :=
  ∃ len, SpellsLen (utf8 text).length len ∧ bytes = len ++ utf8 text

def SpellsPairs : List (String × String) → Bytes → Prop
  | [], bytes => bytes = []
  | pair :: rest, bytes => ∃ key value later, SpellsString pair.1 key ∧ SpellsString pair.2 value ∧
      SpellsPairs rest later ∧ bytes = key ++ (value ++ later)

/-- A map is spelled as the number of its pairs and then the pairs, in any order and with repetitions. -/
def SpellsMap (pairs : List (String × String)) (bytes : Bytes) : Prop :=
  ∃ len body, SpellsLen pairs.length len ∧ SpellsPairs pairs body ∧ bytes = len ++ body

def SpellsStrings : List String → Bytes → Prop
  | [], bytes => bytes = []
  | text :: rest, bytes => ∃ part later, SpellsString text part ∧ SpellsStrings rest later ∧ bytes = part ++ later

/-- Behind fewer strings than the limit the bytes announce one that cannot be allocated. -/
def Announces (memory : Memory) (limit : Nat) (bytes : Bytes) : Prop :=
  ∃ strings body size announced rest, SpellsStrings strings body ∧ strings.length < limit ∧
    SpellsLen size announced ∧ memory.allocates size = false ∧ bytes = body ++ (announced ++ rest)

/-- In the place of one of its strings the map announces a string that cannot be allocated. -/
def Oversized (memory : Memory) (bytes : Bytes) : Prop :=
  ∃ count len rest, SpellsLen count len ∧ bytes = len ++ rest ∧ Announces memory (2 * count) rest

/-- The lengths of the pairs fit into 64 bits. -/
def PairsFit (pairs : List (String × String)) : Prop :=
  pairs.length < 2 ^ 64 ∧ ∀ pair ∈ pairs, (utf8 pair.1).length < 2 ^ 64 ∧ (utf8 pair.2).length < 2 ^ 64

/-- Texts that the memory holds have a length below 2^64. -/
theorem Held.fits {memory : Memory} {pairs : List (String × String)} (held : Held memory pairs) : PairsFit pairs := by
  have wide {size : Nat} (allocated : memory.allocates size = true) : size < 2 ^ 64 :=
    Nat.lt_trans (memory.capacity size allocated) (by decide)
  exact ⟨held.1, fun pair inside => ⟨wide (held.2 pair inside).1, wide (held.2 pair inside).2⟩⟩

/-- The keys of the pairs ascend strictly. -/
def Ascending (pairs : List (String × String)) : Prop :=
  pairs.Pairwise fun first second => compare first.1 second.1 = .lt

/-- This is the spelling of the pairs with lengths of the least widths. -/
def shortest (pairs : List (String × String)) : Bytes :=
  encodeLen pairs.length ++ pairs.flatMap fun pair => encodeString pair.1 ++ encodeString pair.2

/-- The encoder writes the shortest spelling of the pairs. -/
theorem encodeMap_eq_shortest (kv : KvMap) : encodeMap kv = shortest kv.toList := by
  rw [encodeMap, shortest, Std.ExtTreeMap.length_toList]

section Numbers

theorem length_littleEndian (count value : Nat) : (littleEndian count value).length = count := by
  induction count generalizing value with
  | zero => rfl
  | succ count ih => rw [littleEndian, List.length_cons, ih]

/-- A number is read back when it fits into its bytes. -/
theorem fromLittleEndian_littleEndian (count value : Nat) :
    fromLittleEndian (littleEndian count value) = value % 256 ^ count := by
  induction count generalizing value with
  | zero => rw [Nat.pow_zero, Nat.mod_one]; rfl
  | succ count ih =>
      change (UInt8.ofNat (value % 256)).toNat + 256 * fromLittleEndian (littleEndian count (value / 256)) = _
      have wider : 256 ^ (count + 1) = 256 * 256 ^ count := by rw [Nat.pow_succ, Nat.mul_comm]
      rw [ih, UInt8.toNat_ofNat', wider, Nat.mod_mul]
      omega

/-- Bytes are written back from their number. -/
theorem littleEndian_fromLittleEndian (bytes : Bytes) :
    littleEndian bytes.length (fromLittleEndian bytes) = bytes := by
  induction bytes with
  | nil => rfl
  | cons byte rest ih =>
      have small := byte.toNat_lt
      change UInt8.ofNat ((byte.toNat + 256 * fromLittleEndian rest) % 256) ::
        littleEndian rest.length ((byte.toNat + 256 * fromLittleEndian rest) / 256) = byte :: rest
      have digit : (byte.toNat + 256 * fromLittleEndian rest) % 256 = byte.toNat := by omega
      have others : (byte.toNat + 256 * fromLittleEndian rest) / 256 = fromLittleEndian rest := by omega
      rw [digit, others, ih, UInt8.ofNat_toNat]

/-- The number of some bytes fits into them. -/
theorem fromLittleEndian_lt (bytes : Bytes) : fromLittleEndian bytes < 256 ^ bytes.length := by
  induction bytes with
  | nil => exact Nat.one_pos
  | cons byte rest ih =>
      have small := byte.toNat_lt
      change byte.toNat + 256 * fromLittleEndian rest < 256 ^ (rest.length + 1)
      rw [Nat.pow_succ]
      omega

end Numbers

section Readers

/-- This reads exactly that many bytes. -/
theorem takeBytes_reads (count : Nat) :
    Reads (takeBytes count) fun value part => part = value ∧ value.length = count := by
  intro bytes value rest
  unfold takeBytes
  constructor
  · intro done
    split at done
    · cases done
    · cases done
      refine ⟨bytes.take count, ⟨rfl, ?_⟩, (List.take_append_drop count bytes).symm⟩
      rw [List.length_take]
      omega
  · rintro ⟨_, ⟨rfl, rfl⟩, rfl⟩
    simp

/-- This reads the number of exactly that many bytes. -/
theorem takeNumber_reads (count : Nat) :
    Reads (takeBytes count >>= fun bytes => pure (fromLittleEndian bytes))
      fun value part => part.length = count ∧ value = fromLittleEndian part := by
  refine (takeBytes_reads count).map.congr fun value part => ?_
  constructor
  · rintro ⟨bytes, ⟨rfl, length⟩, same⟩
    exact ⟨length, same⟩
  · rintro ⟨length, same⟩
    exact ⟨part, ⟨rfl, length⟩, same⟩

/-- A number of a fixed width is its own bytes. -/
theorem eq_littleEndian_iff {count value : Nat} {part : Bytes} :
    part.length = count ∧ value = fromLittleEndian part ↔
      value < 256 ^ count ∧ part = littleEndian count value := by
  constructor
  · rintro ⟨rfl, rfl⟩
    exact ⟨fromLittleEndian_lt part, (littleEndian_fromLittleEndian part).symm⟩
  · rintro ⟨fits, rfl⟩
    rw [length_littleEndian, fromLittleEndian_littleEndian, Nat.mod_eq_of_lt fits]
    exact ⟨rfl, rfl⟩

/-- The marker decides how many bytes follow it and what they mean. -/
def Follows (marker value : Nat) (part : Bytes) : Prop :=
  match marker with
  | 251 => part.length = 2 ∧ value = fromLittleEndian part
  | 252 => part.length = 4 ∧ value = fromLittleEndian part
  | 253 => part.length = 8 ∧ value = fromLittleEndian part
  | 254 => False
  | 255 => False
  | small => value = small ∧ part = []

/-- A spelled length is a first byte and what follows it. -/
theorem spellsLen_iff {value : Nat} {bytes : Bytes} :
    SpellsLen value bytes ↔ ∃ byte part, Follows (UInt8.toNat byte) value part ∧ bytes = byte :: part := by
  constructor
  · intro spelled
    cases spelled with
    | single fits =>
        have small : value % 256 = value := Nat.mod_eq_of_lt (by omega)
        refine ⟨UInt8.ofNat value, [], ?_, rfl⟩
        rw [UInt8.toNat_ofNat', small]
        unfold Follows
        split <;> first | omega | exact ⟨rfl, rfl⟩
    | two fits => exact ⟨251, _, eq_littleEndian_iff.mpr ⟨fits, rfl⟩, rfl⟩
    | four fits => exact ⟨252, _, eq_littleEndian_iff.mpr ⟨fits, rfl⟩, rfl⟩
    | eight fits => exact ⟨253, _, eq_littleEndian_iff.mpr ⟨fits, rfl⟩, rfl⟩
  · rintro ⟨byte, part, follows, rfl⟩
    have bound := byte.toNat_lt
    have named (number : UInt8) (same : byte.toNat = number.toNat) : byte = number := UInt8.toNat_inj.mp same
    unfold Follows at follows
    split at follows
    · next marker =>
        obtain ⟨fits, rfl⟩ := eq_littleEndian_iff.mp follows
        rw [named 251 marker]
        exact .two fits
    · next marker =>
        obtain ⟨fits, rfl⟩ := eq_littleEndian_iff.mp follows
        rw [named 252 marker]
        exact .four fits
    · next marker =>
        obtain ⟨fits, rfl⟩ := eq_littleEndian_iff.mp follows
        rw [named 253 marker]
        exact .eight fits
    · exact follows.elim
    · exact follows.elim
    · next no251 no252 no253 no254 no255 =>
        obtain ⟨rfl, rfl⟩ := follows
        rw [imp_false] at no251 no252 no253 no254 no255
        have fits : byte.toNat < 251 := by omega
        have single := SpellsLen.single fits
        rw [UInt8.ofNat_toNat] at single
        exact single

/-- The decoder of a length reads its spellings. -/
theorem decodeLen_reads : Reads decodeLen SpellsLen := by
  have follows (marker : Bytes) : Reads (match fromLittleEndian marker with
      | 251 => do let bytes ← takeBytes 2; pure (fromLittleEndian bytes)
      | 252 => do let bytes ← takeBytes 4; pure (fromLittleEndian bytes)
      | 253 => do let bytes ← takeBytes 8; pure (fromLittleEndian bytes)
      | 254 => Attempt.fail "InvalidIntegerType"
      | 255 => Attempt.fail "InvalidIntegerType"
      | small => pure small : Reader Nat) (Follows (fromLittleEndian marker)) := by
    unfold Follows
    split
    · exact takeNumber_reads 2
    · exact takeNumber_reads 4
    · exact takeNumber_reads 8
    · exact reads_fail _
    · exact reads_fail _
    · exact reads_pure _
  refine ((takeBytes_reads 1).bind follows).congr fun value bytes => ?_
  have single (byte : UInt8) : fromLittleEndian [byte] = byte.toNat := by simp [fromLittleEndian]
  rw [spellsLen_iff]
  constructor
  · rintro ⟨marker, _, later, ⟨rfl, length⟩, continued, rfl⟩
    obtain ⟨byte, rfl⟩ := List.length_eq_one_iff.mp length
    rw [single] at continued
    exact ⟨byte, later, continued, rfl⟩
  · rintro ⟨byte, part, continued, rfl⟩
    refine ⟨[byte], [byte], part, ⟨rfl, rfl⟩, ?_, rfl⟩
    rw [single]
    exact continued

/-- The bytes of a text determine the text. -/
theorem utf8_injective : Function.Injective utf8 := by
  intro first second same
  have parsed := congrArg parseUtf8 same
  rw [Protobuf.parseUtf8_utf8, Protobuf.parseUtf8_utf8] at parsed
  exact Option.some.inj parsed

/-- A parsed text has the parsed bytes. -/
theorem utf8_of_parseUtf8 {bytes : Bytes} {text : String} (parsed : parseUtf8 bytes = some text) :
    utf8 text = bytes := by
  unfold parseUtf8 String.fromUTF8? at parsed
  split at parsed
  · rw [← Option.some.inj parsed]
    rfl
  · cases parsed

/-- A spelled length is below 2^64. -/
theorem SpellsLen.fits {value : Nat} {bytes : Bytes} (spelled : SpellsLen value bytes) : value < 2 ^ 64 := by
  cases spelled <;> omega

section Decoders

variable {memory : Memory}

/-- An allocation reads nothing and succeeds within the memory. -/
theorem allocate_reads (memory : Memory) (size : Nat) :
    Reads (allocate memory size) fun _ part => memory.allocates size = true ∧ part = [] := by
  rw [allocate]
  cases memory.allocates size with
  | true => exact (reads_pure ()).congr fun _ part => ⟨fun same => ⟨rfl, same.2⟩, fun same => ⟨rfl, same.2⟩⟩
  | false => exact (reads_fail Stop.abort).congr fun _ part => ⟨False.elim, fun same => by cases same.1⟩

/-- An allocation aborts exactly beyond the memory. -/
theorem allocate_stops (memory : Memory) (size : Nat) :
    Stops (allocate memory size) .abort fun _ => memory.allocates size = false := by
  rw [allocate]
  cases memory.allocates size with
  | true => exact (stops_pure ()).congr fun _ => by simp
  | false => exact (stops_fail Stop.abort).congr fun _ => by simp

/-- An error of the crate is no abort. -/
theorem error_ne_abort (text : String) : Stop.error text ≠ .abort := by
  intro same
  cases same

/-- Parsed bytes are those of the text. -/
theorem parse_reads (bytes : Bytes) :
    Reads (match parseUtf8 bytes with
      | some text => pure text
      | none => Attempt.fail (.error "Utf8") : Decoder String) fun text part => utf8 text = bytes ∧ part = [] := by
  cases parsed : parseUtf8 bytes with
  | some text =>
      have same := utf8_of_parseUtf8 parsed
      refine (reads_pure text).congr fun value part => and_congr_left fun _ => ?_
      rw [← same]
      exact ⟨fun equal => congrArg utf8 equal, fun equal => utf8_injective equal⟩
  | none =>
      refine (reads_fail _).congr fun value part => iff_of_false id ?_
      rintro ⟨rfl, _⟩
      rw [Protobuf.parseUtf8_utf8] at parsed
      cases parsed

/-- Bytes that are no text give an error and never abort. -/
theorem parse_stops (bytes : Bytes) :
    Stops (match parseUtf8 bytes with
      | some text => pure text
      | none => Attempt.fail (.error "Utf8") : Decoder String) .abort fun _ => False := by
  cases parseUtf8 bytes with
  | some text => exact stops_pure text
  | none => exact (stops_fail _).congr fun _ => ⟨error_ne_abort _, False.elim⟩

/-- The decoder of a text reads its spellings that fit into the memory. -/
theorem decodeString_reads (memory : Memory) : Reads (decodeString memory) fun text part =>
    SpellsString text part ∧ memory.allocates (utf8 text).length = true := by
  have body (len : Nat) := (allocate_reads memory len).bind fun _ =>
    ((takeBytes_reads len).relabel Stop.error).bind parse_reads
  refine ((decodeLen_reads.relabel Stop.error).bind body).congr fun text bytes => ?_
  constructor
  · rintro ⟨_, len, _, spelled, ⟨_, _, _, ⟨held, rfl⟩, ⟨_, _, _, ⟨rfl, rfl⟩, ⟨rfl, rfl⟩, rfl⟩, rfl⟩, rfl⟩
    rw [List.append_nil, List.nil_append]
    exact ⟨⟨len, spelled, rfl⟩, held⟩
  · rintro ⟨⟨len, spelled, rfl⟩, held⟩
    refine ⟨_, len, _, spelled, ⟨(), [], _, ⟨held, rfl⟩, ⟨_, _, [], ⟨rfl, rfl⟩, ⟨rfl, rfl⟩, rfl⟩, rfl⟩, ?_⟩
    rw [List.append_nil, List.nil_append]

/-- The read of a string aborts exactly on a length that cannot be allocated. -/
theorem decodeString_stops (memory : Memory) : Stops (decodeString memory) .abort fun bytes =>
    ∃ size announced rest, SpellsLen size announced ∧ memory.allocates size = false ∧ bytes = announced ++ rest := by
  have behind (len : Nat) := (@stops_relabel _ _ _ (takeBytes len) _ _ _ error_ne_abort).bind
    ((takeBytes_reads len).relabel Stop.error) parse_stops
  have body (len : Nat) := (allocate_stops memory len).bind (allocate_reads memory len) fun _ => behind len
  refine ((stops_relabel error_ne_abort).bind (decodeLen_reads.relabel Stop.error) body).congr fun bytes => ?_
  simp only [false_or, and_false, exists_false, or_false]
  constructor
  · rintro ⟨size, announced, rest, spelled, rfl, refused⟩
    exact ⟨size, announced, rest, spelled, refused, rfl⟩
  · rintro ⟨size, announced, rest, spelled, refused, rfl⟩
    exact ⟨size, announced, rest, spelled, rfl, refused⟩

/-- The loop puts the pairs that it reads over the map. -/
theorem decodePairs_reads (count : Nat) (kv : KvMap) : Reads (decodePairs memory count kv) fun result part =>
    ∃ pairs, pairs.length = count ∧ SpellsPairs pairs part ∧
      (∀ pair ∈ pairs, memory.allocates (utf8 pair.1).length = true ∧ memory.allocates (utf8 pair.2).length = true) ∧
      result = pairs.foldl (fun later pair => later.insert pair.1 pair.2) kv := by
  induction count generalizing kv with
  | zero =>
      refine (reads_pure kv).congr fun result part => ?_
      constructor
      · rintro ⟨rfl, rfl⟩
        exact ⟨[], rfl, rfl, by simp, rfl⟩
      · rintro ⟨pairs, none, spelled, _, rfl⟩
        rw [List.length_eq_zero_iff] at none
        subst none
        exact ⟨rfl, spelled⟩
  | succ count ih =>
      have value (key : String) := (decodeString_reads memory).bind fun value => ih (kv.insert key value)
      refine ((decodeString_reads memory).bind value).congr fun result bytes => ?_
      constructor
      · rintro ⟨key, first, _, ⟨spelledKey, heldKey⟩, ⟨value, second, rest, ⟨spelledValue, heldValue⟩,
          ⟨pairs, length, spelled, held, rfl⟩, rfl⟩, rfl⟩
        refine ⟨(key, value) :: pairs, by rw [List.length_cons, length], ?_, ?_, rfl⟩
        · exact ⟨first, second, rest, spelledKey, spelledValue, spelled, rfl⟩
        · exact List.forall_mem_cons.mpr ⟨⟨heldKey, heldValue⟩, held⟩
      · rintro ⟨pairs, length, spelled, held, rfl⟩
        match pairs, spelled with
        | [], _ => cases length
        | (key, value) :: pairs, ⟨first, second, rest, spelledKey, spelledValue, spelled, same⟩ =>
            obtain ⟨⟨heldKey, heldValue⟩, held⟩ := List.forall_mem_cons.mp held
            refine ⟨key, first, second ++ rest, ⟨spelledKey, heldKey⟩, ?_, same⟩
            exact ⟨value, second, rest, ⟨spelledValue, heldValue⟩, ⟨pairs, Nat.succ.inj length, spelled, held, rfl⟩, rfl⟩

/-- No announcement is oversized where no text is read. -/
theorem not_announces_zero (bytes : Bytes) : ¬ Announces memory 0 bytes := by
  rintro ⟨_, _, _, _, _, _, below, _⟩
  exact absurd below (Nat.not_lt_zero _)

/-- The next string is too large, or another one behind it. -/
theorem announces_succ (limit : Nat) (bytes : Bytes) : Announces memory (limit + 1) bytes ↔
    (∃ size announced rest, SpellsLen size announced ∧ memory.allocates size = false ∧ bytes = announced ++ rest) ∨
      ∃ text part rest, (SpellsString text part ∧ memory.allocates (utf8 text).length = true) ∧
        bytes = part ++ rest ∧ Announces memory limit rest := by
  constructor
  · rintro ⟨strings, body, size, announced, rest, spelled, below, counted, refused, rfl⟩
    match strings, spelled with
    | [], spelled =>
        have empty : body = [] := spelled
        rw [empty]
        exact Or.inl ⟨size, announced, rest, counted, refused, rfl⟩
    | text :: strings, ⟨part, later, first, spelled, same⟩ =>
        rw [same]
        cases held : memory.allocates (utf8 text).length with
        | false =>
            obtain ⟨len, short, rfl⟩ := first
            refine Or.inl ⟨_, len, utf8 text ++ later ++ (announced ++ rest), short, held, ?_⟩
            simp only [List.append_assoc]
        | true =>
            refine Or.inr ⟨text, part, later ++ (announced ++ rest), ⟨first, held⟩, List.append_assoc _ _ _, ?_⟩
            exact ⟨strings, later, size, announced, rest, spelled, Nat.lt_of_succ_lt_succ below, counted, refused, rfl⟩
  · rintro (⟨size, announced, rest, counted, refused, rfl⟩ | ⟨text, part, _, ⟨first, _⟩, rfl, behind⟩)
    · exact ⟨[], [], size, announced, rest, rfl, Nat.succ_pos limit, counted, refused, rfl⟩
    · obtain ⟨strings, body, size, announced, rest, spelled, below, counted, refused, rfl⟩ := behind
      refine ⟨text :: strings, part ++ body, size, announced, rest, ?_, Nat.succ_lt_succ below, counted, refused, ?_⟩
      · exact ⟨part, body, first, spelled, rfl⟩
      · rw [List.append_assoc]

/-- The loop aborts exactly when one of its strings cannot be allocated. -/
theorem decodePairs_stops (count : Nat) (kv : KvMap) :
    Stops (decodePairs memory count kv) .abort (Announces memory (2 * count)) := by
  induction count generalizing kv with
  | zero => exact (stops_pure kv).congr fun bytes => iff_of_false id (not_announces_zero bytes)
  | succ count ih =>
      have value (key : String) := (decodeString_stops memory).bind (decodeString_reads memory) fun value => ih (kv.insert key value)
      refine ((decodeString_stops memory).bind (decodeString_reads memory) value).congr fun bytes => ?_
      rw [Nat.mul_succ, announces_succ]
      simp only [announces_succ]

/-- The reader takes each spelling of pairs and builds their map. -/
theorem decodeMap_reads : Reads (decodeMap memory) fun kv part =>
    ∃ pairs, SpellsMap pairs part ∧ Held memory pairs ∧ kv = Std.ExtTreeMap.ofList pairs := by
  refine ((decodeLen_reads.relabel Stop.error).bind fun len => decodePairs_reads len ∅).congr fun kv bytes => ?_
  simp only [Std.ExtTreeMap.ofList_eq_foldl, SpellsMap]
  constructor
  · rintro ⟨_, len, body, spelled, ⟨pairs, rfl, listed, held, same⟩, rfl⟩
    exact ⟨pairs, ⟨len, body, spelled, listed, rfl⟩, ⟨spelled.fits, held⟩, same⟩
  · rintro ⟨pairs, ⟨len, body, spelled, listed, rfl⟩, held, same⟩
    exact ⟨_, len, body, spelled, ⟨pairs, rfl, listed, held.2, same⟩, rfl⟩

/-- The reader aborts exactly on an oversized map. -/
theorem decodeMap_stops : Stops (decodeMap memory) .abort (Oversized memory) := by
  refine ((stops_relabel error_ne_abort).bind (decodeLen_reads.relabel Stop.error)
    fun len => decodePairs_stops len ∅).congr fun bytes => ?_
  rw [false_or]
  rfl

end Decoders

end Readers

section Spellings

variable {pairs others : List (String × String)} {part more rest later : Bytes}

/-- The length in front decides where a string ends. -/
theorem SpellsString.unique {text other : String} (spelled : SpellsString text part) (also : SpellsString other more)
    (same : part ++ rest = more ++ later) : text = other ∧ part = more ∧ rest = later := by
  obtain ⟨len, counted, rfl⟩ := spelled
  obtain ⟨len', counted', rfl⟩ := also
  simp only [List.append_assoc] at same
  obtain ⟨length, rfl, behind⟩ := decodeLen_reads.unique counted counted' same
  obtain ⟨texts, rfl⟩ := List.append_inj behind length
  rw [utf8_injective texts]
  exact ⟨rfl, rfl, rfl⟩

/-- Two spellings of equally many pairs at one place are the same. -/
theorem SpellsPairs.unique (spelled : SpellsPairs pairs part) (also : SpellsPairs others more)
    (length : pairs.length = others.length) (same : part ++ rest = more ++ later) :
    pairs = others ∧ part = more ∧ rest = later := by
  induction pairs generalizing others part more with
  | nil =>
      obtain rfl := List.eq_nil_of_length_eq_zero length.symm
      have first : part = [] := spelled
      have second : more = [] := also
      subst first second
      exact ⟨rfl, rfl, same⟩
  | cons pair tail ih =>
      cases others with
      | nil => cases length
      | cons other others =>
          obtain ⟨key, value, body, spelledKey, spelledValue, spelled, rfl⟩ := spelled
          obtain ⟨key', value', body', spelledKey', spelledValue', spelled', rfl⟩ := also
          simp only [List.append_assoc] at same
          obtain ⟨sameKey, rfl, behindKey⟩ := spelledKey.unique spelledKey' same
          obtain ⟨sameValue, rfl, behindValue⟩ := spelledValue.unique spelledValue' behindKey
          obtain ⟨rfl, rfl, behind⟩ := ih spelled spelled' (Nat.succ.inj length) behindValue
          exact ⟨by rw [Prod.ext sameKey sameValue], rfl, behind⟩

/-- The bytes decide the pairs in their order and the end of the spelling. -/
theorem SpellsMap.unique (spelled : SpellsMap pairs part) (also : SpellsMap others more)
    (same : part ++ rest = more ++ later) : pairs = others ∧ part = more ∧ rest = later := by
  obtain ⟨len, body, counted, listed, rfl⟩ := spelled
  obtain ⟨len', body', counted', listed', rfl⟩ := also
  simp only [List.append_assoc] at same
  obtain ⟨length, rfl, behindLen⟩ := decodeLen_reads.unique counted counted' same
  obtain ⟨rfl, rfl, behind⟩ := listed.unique listed' length behindLen
  exact ⟨rfl, rfl, behind⟩

/-- A spelled length has at least one byte. -/
theorem SpellsLen.filled {value : Nat} {bytes : Bytes} (spelled : SpellsLen value bytes) : bytes ≠ [] := by
  cases spelled <;> exact List.cons_ne_nil _ _

/-- A spelled map has at least one byte. -/
theorem SpellsMap.filled (spelled : SpellsMap pairs part) : part ≠ [] := by
  obtain ⟨len, body, counted, _, rfl⟩ := spelled
  exact List.append_ne_nil_of_left_ne_nil counted.filled body

/-- The encoder writes a spelling of each length below 2^64. -/
theorem encodeLen_spells {value : Nat} (fits : value < 2 ^ 64) : SpellsLen value (encodeLen value) := by
  unfold encodeLen
  split
  · next small => exact .single small
  · split
    · next small => exact .two small
    · split
      · next small => exact .four small
      · exact .eight fits

/-- Spelled texts have a length below 2^64. -/
theorem SpellsPairs.fits (spelled : SpellsPairs pairs part) :
    ∀ pair ∈ pairs, (utf8 pair.1).length < 2 ^ 64 ∧ (utf8 pair.2).length < 2 ^ 64 := by
  induction pairs generalizing part with
  | nil => simp
  | cons pair tail ih =>
      obtain ⟨_, _, _, ⟨_, key, _⟩, ⟨_, value, _⟩, spelled, _⟩ := spelled
      exact List.forall_mem_cons.mpr ⟨⟨key.fits, value.fits⟩, ih spelled⟩

/-- A spelled map has fewer than 2^64 pairs of such texts. -/
theorem SpellsMap.fits (spelled : SpellsMap pairs part) : PairsFit pairs := by
  obtain ⟨_, _, counted, listed, _⟩ := spelled
  exact ⟨counted.fits, listed.fits⟩

/-- The shortest spelling is one. -/
theorem shortest_spells (fits : PairsFit pairs) : SpellsMap pairs (shortest pairs) := by
  refine ⟨_, _, encodeLen_spells fits.1, ?_, rfl⟩
  have each := fits.2
  clear fits
  induction pairs with
  | nil => rfl
  | cons pair tail ih =>
      obtain ⟨⟨key, value⟩, others⟩ := List.forall_mem_cons.mp each
      rw [List.flatMap_cons, List.append_assoc]
      exact ⟨_, _, _, ⟨_, encodeLen_spells key, rfl⟩, ⟨_, encodeLen_spells value, rfl⟩, ih others, rfl⟩

/-- Strings that the memory holds hide no other announcement. -/
theorem SpellsPairs.not_announces {memory : Memory} (spelled : SpellsPairs pairs part)
    (held : ∀ pair ∈ pairs, memory.allocates (utf8 pair.1).length = true ∧ memory.allocates (utf8 pair.2).length = true)
    (rest : Bytes) : ¬ Announces memory (2 * pairs.length) (part ++ rest) := by
  intro announces
  have stopped := (decodePairs_stops pairs.length ∅ (part ++ rest)).mpr announces
  rw [(decodePairs_reads pairs.length ∅ (part ++ rest) _ rest).mpr ⟨part, ⟨pairs, rfl, spelled, held, rfl⟩, rfl⟩] at stopped
  cases stopped

/-- Where no string is too large, the next one is held and none behind it is too large. -/
theorem SpellsString.held {memory : Memory} {text : String} {limit : Nat} (spelled : SpellsString text part)
    (quiet : ¬ Announces memory (limit + 1) (part ++ rest)) :
    memory.allocates (utf8 text).length = true ∧ ¬ Announces memory limit rest := by
  rw [announces_succ, not_or] at quiet
  have held : memory.allocates (utf8 text).length = true := by
    by_contra refused
    obtain ⟨len, counted, rfl⟩ := spelled
    refine quiet.1 ⟨_, len, utf8 text ++ rest, counted, Bool.eq_false_iff.mpr refused, List.append_assoc _ _ _⟩
  exact ⟨held, fun announces => quiet.2 ⟨text, part, rest, ⟨spelled, held⟩, rfl, announces⟩⟩

/-- The memory holds all spelled texts when no announcement is oversized. -/
theorem SpellsPairs.held {memory : Memory} (spelled : SpellsPairs pairs part)
    (quiet : ¬ Announces memory (2 * pairs.length) (part ++ rest)) :
    ∀ pair ∈ pairs, memory.allocates (utf8 pair.1).length = true ∧ memory.allocates (utf8 pair.2).length = true := by
  induction pairs generalizing part with
  | nil => simp
  | cons pair tail ih =>
      obtain ⟨key, value, body, spelledKey, spelledValue, spelled, rfl⟩ := spelled
      rw [List.length_cons, Nat.mul_succ, List.append_assoc, List.append_assoc] at quiet
      obtain ⟨heldKey, quiet⟩ := spelledKey.held quiet
      obtain ⟨heldValue, quiet⟩ := spelledValue.held quiet
      exact List.forall_mem_cons.mpr ⟨⟨heldKey, heldValue⟩, ih spelled quiet⟩

/-- The memory holds the strings of a spelling that is not oversized. -/
theorem SpellsMap.held {memory : Memory} (spelled : SpellsMap pairs part)
    (sized : ¬ Oversized memory (part ++ rest)) : Held memory pairs := by
  obtain ⟨len, body, counted, listed, rfl⟩ := spelled
  have quiet : ¬ Announces memory (2 * pairs.length) (body ++ rest) := fun announces =>
    sized ⟨_, len, body ++ rest, counted, List.append_assoc _ _ _, announces⟩
  exact ⟨counted.fits, listed.held quiet⟩

/-- A spelling whose strings the memory holds is not oversized. -/
theorem SpellsMap.not_oversized {memory : Memory} (spelled : SpellsMap pairs part) (held : Held memory pairs)
    (rest : Bytes) : ¬ Oversized memory (part ++ rest) := by
  obtain ⟨len, body, counted, listed, rfl⟩ := spelled
  rintro ⟨count, len', behind, counted', same, announces⟩
  rw [List.append_assoc] at same
  obtain ⟨rfl, rfl, rfl⟩ := decodeLen_reads.unique counted counted' same
  exact listed.not_announces held.2 rest announces

end Spellings

section Codec

variable {crate : Crate} {bytes : Bytes} {kv : KvMap}

/-- The codec writes what the crate writes. -/
theorem Crate.codec_encode_iff : crate.codec.encode kv = .ok bytes ↔ crate.encodeToVec kv = .ok bytes :=
  Attempt.mapError_eq_ok

/-- The codec reads no bytes as the empty map. -/
theorem Crate.codec_decode_nil (crate : Crate) : crate.codec.decode [] = .ok ∅ := rfl

/-- The crate decodes all bytes but the empty ones, and the read length is dropped. -/
theorem Crate.decode_filled (filled : bytes ≠ []) : crate.decode bytes =
    (crate.decodeFromSlice bytes).map fun result => (result.mapError .decodeError).map Prod.fst := by
  have asked : bytes.isEmpty = false := by simpa using filled
  simp only [Crate.decode, asked, Bool.false_eq_true, if_false]

/-- A decode aborts exactly where the crate does. -/
theorem Crate.decode_eq_none_iff (filled : bytes ≠ []) :
    crate.decode bytes = none ↔ crate.decodeFromSlice bytes = none := by
  rw [Crate.decode_filled filled, Option.map_eq_none_iff]

/-- A map is decoded exactly when the crate reads it at the front. -/
theorem Crate.decode_iff (filled : bytes ≠ []) :
    crate.decode bytes = some (.ok kv) ↔ ∃ read, crate.decodeFromSlice bytes = some (.ok (kv, read)) := by
  rw [Crate.decode_filled filled, Option.map_eq_some_iff]
  constructor
  · rintro ⟨error | ⟨map, read⟩, found, decoded⟩
    · cases decoded
    · have same : map = kv := Except.ok.inj decoded
      exact ⟨read, by rw [found, same]⟩
  · rintro ⟨read, found⟩
    exact ⟨_, found, rfl⟩

/-- The codec reads a map exactly when the node decodes it. -/
theorem Crate.codec_decode_iff : crate.codec.decode bytes = .ok kv ↔ crate.decode bytes = some (.ok kv) := by
  change (crate.decode bytes).getD _ = _ ↔ _
  cases crate.decode bytes with
  | none => exact ⟨fun same => (by cases same), fun same => (by cases same)⟩
  | some result => rw [Option.getD_some, Option.some.injEq]

end Codec

/-- The crate reads a spelling off the front and writes the one with the least widths. It aborts on a string
that the memory does not allocate. -/
structure Crate.Standard (memory : Memory) (crate : Crate) : Prop where
  encodes : ∀ kv bytes, crate.encodeToVec kv = .ok bytes ↔ Held memory kv.toList ∧ bytes = shortest kv.toList
  decodes : ∀ bytes kv read, crate.decodeFromSlice bytes = some (.ok (kv, read)) ↔ ∃ pairs part rest,
    SpellsMap pairs part ∧ Held memory pairs ∧ bytes = part ++ rest ∧ read = part.length ∧
      kv = Std.ExtTreeMap.ofList pairs
  aborts : ∀ bytes, crate.decodeFromSlice bytes = none ↔ Oversized memory bytes

/-- What the crate writes is read back, and it is never empty. -/
def Crate.Inverts (crate : Crate) : Prop :=
  ∀ kv bytes, crate.encodeToVec kv = .ok bytes →
    bytes ≠ [] ∧ ∃ read, crate.decodeFromSlice bytes = some (.ok (kv, read))

/-- The format of the model is the one that the crate documents. -/
theorem standard_standard (memory : Memory) : (standard memory).Standard memory where
  encodes kv bytes := by
    simp only [standard, encodeMap_eq_shortest]
    split
    · next held => simp [held, eq_comm]
    · next held => simp [held]
  decodes bytes kv read := by
    simp only [standard]
    rcases done : decodeMap memory bytes with ⟨(text | _) | found, rest⟩
    · simp only [Option.some.injEq, reduceCtorEq, false_iff]
      rintro ⟨pairs, part, rest, spelled, held, same, _, _⟩
      rw [(decodeMap_reads bytes _ rest).mpr ⟨part, ⟨pairs, spelled, held, rfl⟩, same⟩] at done
      cases done
    · simp only [reduceCtorEq, false_iff]
      rintro ⟨pairs, part, rest, spelled, held, same, _, _⟩
      rw [(decodeMap_reads bytes _ rest).mpr ⟨part, ⟨pairs, spelled, held, rfl⟩, same⟩] at done
      cases done
    · obtain ⟨part, ⟨pairs, spelled, held, rfl⟩, rfl⟩ := (decodeMap_reads bytes found rest).mp done
      have length : (part ++ rest).length - rest.length = part.length := by
        rw [List.length_append, Nat.add_sub_cancel]
      simp only [length, Option.some.injEq, Except.ok.injEq, Prod.mk.injEq]
      constructor
      · rintro ⟨rfl, rfl⟩
        exact ⟨pairs, part, rest, spelled, held, rfl, rfl, rfl⟩
      · rintro ⟨others, more, later, also, _, same, rfl, rfl⟩
        obtain ⟨rfl, rfl, _⟩ := spelled.unique also same
        exact ⟨rfl, rfl⟩
  aborts bytes := by
    rw [← decodeMap_stops bytes]
    simp only [standard]
    rcases decodeMap memory bytes with ⟨(text | _) | found, rest⟩ <;> simp

/-- A standard crate reads back what it writes. -/
theorem Crate.Standard.inverts {memory : Memory} {crate : Crate} (standard : crate.Standard memory) :
    crate.Inverts := by
  intro kv bytes encoded
  obtain ⟨held, rfl⟩ := (standard.encodes kv bytes).mp encoded
  have spelled := shortest_spells held.fits
  refine ⟨spelled.filled, _, (standard.decodes _ kv _).mpr ⟨_, _, [], spelled, held, ?_, rfl, ?_⟩⟩
  · rw [List.append_nil]
  · rw [OrderedTree.ofList_toList]

end RaftATui.Bincode

namespace RaftATui

/-- A restore replaces the map by what the codec reads. -/
theorem restoreFromSnapshot_ok_iff {codec : SnapshotCodec} {bytes : Bytes} {kv : KvMap} {node : Node} :
    Node.restoreFromSnapshot codec bytes node = (.ok (), ⟨kv⟩) ↔ codec.decode bytes = .ok kv := by
  unfold Node.restoreFromSnapshot
  cases codec.decode bytes <;> simp

end RaftATui
