import RaftATui.Proof.Driver.Promise

namespace RaftATui
open Machinery

namespace KvCodec

variable (codec : KvCodec)

/-- A command is never written as the empty data of a leader's own entry. -/
theorem encodePutCommand_ne_nil (key value : String) : codec.encodePutCommand key value ≠ [] := by
  intro empty
  have read := codec.decode_encode ⟨some ⟨key, value⟩⟩
  rw [show codec.encode ⟨some ⟨key, value⟩⟩ = [] from empty, codec.decode_nil] at read
  cases read

/-- The key and the value are read back from a put. -/
theorem encodePutCommand_injective {key value key' value' : String}
    (same : codec.encodePutCommand key value = codec.encodePutCommand key' value') :
    key = key' ∧ value = value' := by
  have read := codec.decode_encode ⟨some ⟨key, value⟩⟩
  rw [show codec.encode ⟨some ⟨key, value⟩⟩ = codec.encode ⟨some ⟨key', value'⟩⟩ from same,
    codec.decode_encode] at read
  cases read
  exact ⟨rfl, rfl⟩

/-- A put stores its value under its key. -/
theorem applyKvCommand_put (key value : String) (node : Node) :
    Node.applyKvCommand codec (codec.encodePutCommand key value) node =
      (.ok (), ⟨node.kv.insert key value⟩) := by
  rw [Node.applyKvCommand, encodePutCommand, codec.decode_encode]

end KvCodec

/-- The commands of these externals are written and read by prost. -/
def Externals.prost (X : Externals) : Externals := { X with kvCodec := Protobuf.kvCodec }

/-- This entry carries a proposed PUT. -/
def putEntry (entry : Entry) (key value : String) : Entry :=
  { entry with entryType := .entryNormal, data := Protobuf.kvCodec.encodePutCommand key value }

namespace Driver

variable {X : Externals}

/-- The report of an applied entry only adds effects. -/
theorem reportApplied_grows (entry : Entry) (result : Except String Unit) :
    Attempt.Within Grows (reportApplied entry result : Attempt (Driver X) RaftLoopError Unit) := by
  intro driver
  obtain ⟨added, trace, _⟩ := (reportApplied_reports entry result driver).trace
  exact ⟨added, trace.symm⟩

/-- The loop runs the command of a PUT and then goes on. -/
theorem applyEntries_putEntry (driver : Driver X.prost) (entry : Entry) (rest : List Entry) (key value : String) :
    ∃ later, (applyEntries (putEntry entry key value :: rest) driver).2.trace =
      driver.trace ++ .applied (putEntry entry key value) (driver.kvNode.kv.insert key value) :: later := by
  let applied : Driver X.prost := { driver with
    kvNode := ⟨driver.kvNode.kv.insert key value⟩
    trace := driver.trace ++ [.applied (putEntry entry key value) (driver.kvNode.kv.insert key value)] }
  have filled : (putEntry entry key value).data.isEmpty = false :=
    Bool.eq_false_iff.mpr fun empty =>
      Protobuf.kvCodec.encodePutCommand_ne_nil key value (List.isEmpty_iff.mp empty)
  have run : applyKvCommand (putEntry entry key value) driver = (.ok (.ok ()), applied) := by
    have result := Protobuf.kvCodec.applyKvCommand_put key value driver.kvNode
    have data : (putEntry entry key value).data = Protobuf.kvCodec.encodePutCommand key value := rfl
    have codec : X.prost.kvCodec = Protobuf.kvCodec := rfl
    simp only [applyKvCommand, data, codec, result]
    rfl
  have code : applyEntries (putEntry entry key value :: rest) driver =
      (reportApplied (putEntry entry key value) (.ok ()) >>= fun _ =>
        setAppliedIndex (putEntry entry key value).index >>= fun _ => applyEntries rest) applied := by
    have first : applyEntry (putEntry entry key value) =
        (applyNormalEntry (putEntry entry key value) : Attempt (Driver X.prost) RaftLoopError Unit) := by
      unfold applyEntry
      rw [filled]
      rfl
    rw [applyEntries, Attempt.forEach_cons, first, applyNormalEntry, Attempt.bind_assoc,
      Attempt.bind_ok _ run, Attempt.bind_assoc]
    rfl
  have grows : Attempt.Within Grows (reportApplied (putEntry entry key value) (.ok ()) >>= fun _ =>
      setAppliedIndex (putEntry entry key value).index >>= fun _ =>
        (applyEntries rest : Attempt (Driver X.prost) RaftLoopError Unit)) :=
    Attempt.Within.bind (reportApplied_grows _ _) fun _ =>
      Attempt.Within.bind (grows_of_plain (plain_of_stores (setAppliedIndex_stores _))) fun _ =>
        applyEntries_grows rest
  obtain ⟨later, grown⟩ := grows applied
  refine ⟨later, ?_⟩
  rw [code, ← grown]
  exact List.append_assoc _ _ _

end Driver

/-- A proposed PUT has data, is applied when its entry is reached, and is told apart from every other PUT. -/
theorem putCommand_kept {X : Externals} (driver : Driver X.prost) (entry : Entry) (rest : List Entry)
    (kv : KvMap) (key value : String) :
    Protobuf.kvCodec.encodePutCommand key value ≠ [] ∧
      (∃ later, (Driver.applyEntries (putEntry entry key value :: rest) driver).2.trace =
        driver.trace ++ .applied (putEntry entry key value) (driver.kvNode.kv.insert key value) :: later) ∧
      Node.applyKvCommand Protobuf.kvCodec (Protobuf.kvCodec.encodePutCommand key value) ⟨kv⟩ =
        (.ok (), ⟨kv.insert key value⟩) ∧
      ∀ key' value', Protobuf.kvCodec.encodePutCommand key value = Protobuf.kvCodec.encodePutCommand key' value' →
        key = key' ∧ value = value' :=
  ⟨Protobuf.kvCodec.encodePutCommand_ne_nil key value, driver.applyEntries_putEntry entry rest key value,
    Protobuf.kvCodec.applyKvCommand_put key value ⟨kv⟩,
    fun _ _ same => Protobuf.kvCodec.encodePutCommand_injective same⟩

end RaftATui
