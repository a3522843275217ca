import SmartSensorNetwork.Network.WireFormat

/-!
# What the decoders touch

The decoders again, keeping a record that the source does not keep: every
index of the buffer that is read, and the running offset after each field.
The record outlives an exception. It is tied to the readers of the source by
a relation that sequencing preserves.
-/

namespace SmartSensorNetwork.PacketSerializer

open CppStd

/-! ## Readers over any field read -/

section With

variable {m : Type → Type} [Monad m] (read : (T : Type) → [UnsignedInt T] → m T)

def readDoubleWith : m Double := do
  let bits ← read UInt64
  return ⟨bits⟩

def readHeaderWith : m PacketHeader := do
  let type ← read UInt8
  let sensorId ← read UInt32
  let timestampMs ← read UInt64
  return ⟨⟨type⟩, sensorId, timestampMs⟩

def readTelemetryWith : m (TelemetryMessage Double) := do
  let header ← readHeaderWith read
  let type ← read UInt8
  let state ← read UInt8
  let value ← readDoubleWith read
  return ⟨header, ⟨type⟩, ⟨state⟩, value⟩

end With

/-! ## The record -/

structure Trace where
  offset : ℕ := 0
  /-- The arguments of `buffer[..]`, oldest first. -/
  indices : List ℕ := []
  /-- The offset after each field read that returned, oldest first. -/
  ends : List ℕ := []

abbrev Traced := ExceptT Exception (StateM Trace)

def nextByteTraced (buffer : ByteString) : Traced UInt8 := do
  let offset := (← get).offset
  modify fun trace ↦ { trace with indices := trace.indices ++ [offset] }
  match buffer[offset]? with
  | some b =>
      modify fun trace ↦ { trace with offset := offset + 1 }
      return b
  | none => throw (.undefinedBehaviour "vector index out of range")

def readLoopTraced {T : Type} [UnsignedInt T] (buffer : ByteString) (value : T) : ℕ → Traced T
  | 0 => pure value
  | n + 1 => do
      let b ← nextByteTraced buffer
      readLoopTraced buffer (UnsignedInt.ofNat (UnsignedInt.toNat value <<< 8 ||| b.toNat)) n

def readTraced (buffer : ByteString) (T : Type) [UnsignedInt T] : Traced T := do
  if (← get).offset + UnsignedInt.sizeof T > buffer.length then
    throw bufferUnderflow
  let value ← readLoopTraced buffer (UnsignedInt.ofNat 0) (UnsignedInt.sizeof T)
  modify fun trace ↦ { trace with ends := trace.ends ++ [trace.offset] }
  return value

def deserializeTelemetryTraced (buffer : ByteString) : Traced (TelemetryMessage Double) :=
  readTelemetryWith (readTraced buffer)

def deserializeHeartbeatTraced (buffer : ByteString) : Traced HeartbeatMessage := do
  let header ← readHeaderWith (readTraced buffer)
  return ⟨header⟩

def peekMessageTypeTraced (buffer : ByteString) : Traced MessageType := do
  let header ← readHeaderWith (readTraced buffer)
  return header.type

/-! ## The relation -/

/-- The sums of the first one, two, .. of the widths, from `offset` on. -/
def endsFrom (offset : ℕ) : List ℕ → List ℕ
  | [] => []
  | width :: widths => (offset + width) :: endsFrom (offset + width) widths

theorem endsFrom_append (offset : ℕ) (widths widths' : List ℕ) :
    endsFrom offset (widths ++ widths') =
      endsFrom offset widths ++ endsFrom (offset + widths.sum) widths' := by
  induction widths generalizing offset with
  | nil => rfl
  | cons width widths ih =>
      rw [List.cons_append, endsFrom, endsFrom, ih, List.sum_cons, List.cons_append,
        Nat.add_assoc]

/-- How the two readers end, from the same offset: with the same result, the
record being extended by the fields of the given widths, or by some first of
them where a read throws. -/
inductive Outcome {α : Type} (b : ByteString) (widths : List ℕ) (trace : Trace) :
    Except Exception (α × ℕ) → Except Exception α × Trace → Prop
  | returned (x : α) (trace' : Trace) (hoffset : trace'.offset = trace.offset + widths.sum)
      (hindices : ∀ i ∈ trace'.indices, i < b.length)
      (hends : trace'.ends = trace.ends ++ endsFrom trace.offset widths) :
      Outcome b widths trace (.ok (x, trace'.offset)) (.ok x, trace')
  | thrown (e : Exception) (trace' : Trace) (done : List ℕ) (hdone : done <+: widths)
      (hindices : ∀ i ∈ trace'.indices, i < b.length)
      (hends : trace'.ends = trace.ends ++ endsFrom trace.offset done) :
      Outcome b widths trace (.error e) (.error e, trace')

/-- The fields before belong to the same read. -/
theorem Outcome.after {α : Type} {b : ByteString} {widths widths' : List ℕ}
    {trace trace' : Trace} {r : Except Exception (α × ℕ)} {r' : Except Exception α × Trace}
    (hoffset : trace'.offset = trace.offset + widths.sum)
    (hends : trace'.ends = trace.ends ++ endsFrom trace.offset widths)
    (h : Outcome b widths' trace' r r') : Outcome b (widths ++ widths') trace r r' := by
  have hconcat (more : List ℕ) : trace'.ends ++ endsFrom trace'.offset more =
      trace.ends ++ endsFrom trace.offset (widths ++ more) := by
    rw [hends, hoffset, endsFrom_append, List.append_assoc]
  cases h with
  | returned x last hoffset' hindices hends' =>
      apply Outcome.returned x last
      · rw [hoffset', hoffset, List.sum_append, Nat.add_assoc]
      · exact hindices
      · rw [hends', hconcat]
  | thrown e last done hdone hindices hends' =>
      apply Outcome.thrown e last (widths ++ done)
      · exact (List.prefix_append_right_inj widths).mpr hdone
      · exact hindices
      · rw [hends', hconcat]

section Outcome

variable {α : Type} {b : ByteString} {widths : List ℕ} {trace : Trace}
  {r : Except Exception (α × ℕ)} {r' : Except Exception α × Trace}

theorem Outcome.result_eq (h : Outcome b widths trace r r') : r'.1 = (·.1) <$> r := by
  cases h <;> rfl

theorem Outcome.inRange (h : Outcome b widths trace r r') : ∀ i ∈ r'.2.indices, i < b.length := by
  cases h <;> assumption

theorem Outcome.of_ok (h : Outcome b widths trace r r') {x : α} (hx : r'.1 = .ok x) :
    r'.2.ends = trace.ends ++ endsFrom trace.offset widths ∧
      r'.2.offset = trace.offset + widths.sum := by
  cases h with
  | returned y last hoffset hindices hends => exact ⟨hends, hoffset⟩
  | thrown e last done hdone hindices hends => cases hx

theorem Outcome.of_error (h : Outcome b widths trace r r') {e : Exception}
    (he : r'.1 = .error e) :
    ∃ done, done <+: widths ∧ r'.2.ends = trace.ends ++ endsFrom trace.offset done := by
  cases h with
  | returned y last hoffset hindices hends => cases he
  | thrown e' last done hdone hindices hends => exact ⟨done, hdone, hends⟩

end Outcome

def Tracks {α : Type} (b : ByteString) (widths : List ℕ) (reader : Reader α)
    (traced : Traced α) : Prop :=
  ∀ trace : Trace, (∀ i ∈ trace.indices, i < b.length) →
    Outcome b widths trace (reader.run trace.offset) (traced.run.run trace)

theorem traced_bind_run {α β : Type} (traced : Traced α) (k : α → Traced β) (trace : Trace) :
    (traced >>= k).run.run trace =
      match traced.run.run trace with
      | (.ok x, trace') => (k x).run.run trace'
      | (.error e, trace') => (.error e, trace') := by
  rw [ExceptT.run_bind, StateT.run_bind]
  obtain ⟨r, trace'⟩ := traced.run.run trace
  cases r <;> rfl

theorem traced_get_run (trace : Trace) :
    (get : Traced Trace).run.run trace = (.ok trace, trace) := rfl

theorem traced_modify_run (f : Trace → Trace) (trace : Trace) :
    (modify f : Traced PUnit).run.run trace = (.ok ⟨⟩, f trace) := rfl

namespace Tracks

variable {α β : Type} {b : ByteString}

theorem pure (x : α) : Tracks b [] (pure x) (Pure.pure x) := by
  intro trace htrace
  exact .returned x trace rfl htrace (by simp [endsFrom])

theorem bind {widths widths' : List ℕ} {reader : Reader α} {traced : Traced α}
    {k : α → Reader β} {k' : α → Traced β} (h : Tracks b widths reader traced)
    (hk : ∀ x, Tracks b widths' (k x) (k' x)) :
    Tracks b (widths ++ widths') (reader >>= k) (traced >>= k') := by
  intro trace htrace
  have hfirst := h trace htrace
  rw [StateT.run_bind, traced_bind_run]
  generalize reader.run trace.offset = r at hfirst
  generalize traced.run.run trace = r' at hfirst
  cases hfirst with
  | thrown e trace' done hdone hindices hends =>
      exact .thrown e trace' done (hdone.trans (List.prefix_append _ _)) hindices hends
  | returned x trace' hoffset hindices hends =>
      exact (hk x trace' hindices).after hoffset hends

end Tracks

/-! ## The byte loop -/

section Field

variable {T : Type} [UnsignedInt T] {b : ByteString}

theorem nextByteTraced_run {trace : Trace} {x : UInt8} (hx : b[trace.offset]? = some x) :
    (nextByteTraced b).run.run trace =
      (.ok x, { trace with offset := trace.offset + 1,
                           indices := trace.indices ++ [trace.offset] }) := by
  simp only [nextByteTraced, traced_bind_run, traced_get_run, traced_modify_run, hx]
  rfl

/-- Inside the buffer the loop reads `n` indices in a row, each one once. -/
theorem readLoop_traced (n : ℕ) : ∀ (value : T) (trace : Trace), trace.offset + n ≤ b.length →
    ∃ x : T, (readLoop b value n).run trace.offset = .ok (x, trace.offset + n) ∧
      (readLoopTraced b value n).run.run trace =
        (.ok x, { trace with offset := trace.offset + n,
                             indices := trace.indices ++ List.range' trace.offset n }) := by
  induction n with
  | zero =>
      intro value trace _
      exact ⟨value, rfl, by simp [readLoopTraced]; rfl⟩
  | succ n ih =>
      intro value trace hle
      have hbyte := List.getElem?_eq_getElem (show trace.offset < b.length by omega)
      obtain ⟨x, hreader, htraced⟩ := ih
        (UnsignedInt.ofNat (UnsignedInt.toNat value <<< 8 ||| b[trace.offset].toNat))
        { trace with offset := trace.offset + 1,
                     indices := trace.indices ++ [trace.offset] } (by dsimp only; omega)
      refine ⟨x, ?_, ?_⟩
      · rw [readLoop, StateT.run_bind, Wire.nextByte_run hbyte]
        refine hreader.trans ?_
        rw [Nat.add_right_comm, Nat.add_assoc]
      · rw [readLoopTraced, traced_bind_run, nextByteTraced_run hbyte]
        refine htraced.trans ?_
        simp [List.range'_succ, Nat.add_comm, Nat.add_left_comm]

theorem tracks_read : Tracks b [UnsignedInt.sizeof T] (read T b) (readTraced b T) := by
  intro trace htrace
  by_cases h : trace.offset + UnsignedInt.sizeof T ≤ b.length
  · have hguard : ¬ trace.offset + UnsignedInt.sizeof T > b.length := by omega
    obtain ⟨x, hreader, hloop⟩ :=
      readLoop_traced (UnsignedInt.sizeof T) (UnsignedInt.ofNat 0 : T) trace h
    have hread : (read T b).run trace.offset =
        .ok (x, trace.offset + UnsignedInt.sizeof T) := by
      simpa [read, hguard] using hreader
    have htraced : (readTraced b T).run.run trace =
        (.ok x, { offset := trace.offset + UnsignedInt.sizeof T,
                  indices := trace.indices ++ List.range' trace.offset (UnsignedInt.sizeof T),
                  ends := trace.ends ++ [trace.offset + UnsignedInt.sizeof T] }) := by
      rw [readTraced, traced_bind_run, traced_get_run]
      dsimp only
      rw [if_neg hguard, traced_bind_run, hloop]
      rfl
    rw [hread, htraced]
    refine .returned x ⟨trace.offset + UnsignedInt.sizeof T, _, _⟩ rfl (fun i hi ↦ ?_) rfl
    rcases List.mem_append.mp hi with hi | hi
    · exact htrace i hi
    · have hlt := (List.mem_range'_1.mp hi).2
      omega
  · have hguard : trace.offset + UnsignedInt.sizeof T > b.length := by omega
    have hread : (read T b).run trace.offset = .error bufferUnderflow := by
      rw [Wire.read_run, if_neg h]
    have htraced : (readTraced b T).run.run trace = (.error bufferUnderflow, trace) := by
      rw [readTraced, traced_bind_run, traced_get_run]
      dsimp only
      rw [if_pos hguard]
      rfl
    rw [hread, htraced]
    exact .thrown _ trace [] List.nil_prefix htrace (by simp [endsFrom])

theorem tracks_read_bind {α : Type} {width : ℕ} {widths : List ℕ} {k : T → Reader α}
    {k' : T → Traced α} (hwidth : UnsignedInt.sizeof T = width)
    (hk : ∀ x, Tracks b widths (k x) (k' x)) :
    Tracks b (width :: widths) (read T b >>= k) (readTraced b T >>= k') :=
  hwidth ▸ tracks_read.bind hk

end Field

/-! ## The decoders -/

def headerWidths : List ℕ := [1, 4, 8]
def telemetryWidths : List ℕ := headerWidths ++ [1, 1, 8]

theorem tracks_readHeader (b : ByteString) :
    Tracks b headerWidths (readHeader b) (readHeaderWith (readTraced b)) := by
  unfold readHeader readHeaderWith
  refine tracks_read_bind rfl fun type ↦ ?_
  refine tracks_read_bind rfl fun sensorId ↦ ?_
  refine tracks_read_bind rfl fun timestampMs ↦ ?_
  exact Tracks.pure _

theorem tracks_readDouble (b : ByteString) :
    Tracks b [8] (readDouble b) (readDoubleWith (readTraced b)) := by
  unfold readDouble readDoubleWith
  refine tracks_read_bind rfl fun bits ↦ ?_
  exact Tracks.pure _

theorem tracks_readTelemetry (b : ByteString) :
    Tracks b telemetryWidths (readTelemetry b) (deserializeTelemetryTraced b) := by
  unfold readTelemetry deserializeTelemetryTraced readTelemetryWith
  refine (tracks_readHeader b).bind fun header ↦ ?_
  refine tracks_read_bind rfl fun type ↦ ?_
  refine tracks_read_bind rfl fun state ↦ ?_
  exact (tracks_readDouble b).bind fun value ↦ Tracks.pure _

/-- A decoder that needs the first `size` bytes and looks at nothing else. -/
structure Decodes {α : Type} (size : ℕ) (widths : List ℕ)
    (decode : ByteString → Except Exception α) (traced : ByteString → Traced α) : Prop where
  succeeds_iff : ∀ b, (∃ x, decode b = .ok x) ↔ size ≤ b.length
  underflow : ∀ b e, decode b = .error e → e = bufferUnderflow
  traced_eq : ∀ b, ((traced b).run.run {}).1 = decode b
  inRange : ∀ b, ∀ i ∈ ((traced b).run.run {}).2.indices, i < b.length
  returned : ∀ b x, decode b = .ok x →
    ((traced b).run.run {}).2.ends = endsFrom 0 widths ∧ ((traced b).run.run {}).2.offset = size
  thrown : ∀ b e, decode b = .error e →
    ∃ done, done <+: widths ∧ ((traced b).run.run {}).2.ends = endsFrom 0 done
  take : ∀ b, decode (b.take size) = decode b
  append : ∀ b x, decode b = .ok x → ∀ bytes, decode (b ++ bytes) = .ok x

theorem decodes_of_tracks {α : Type} {size : ℕ} {widths : List ℕ}
    {decode : ByteString → Except Exception α} {traced : ByteString → Traced α}
    {value : ByteString → α} (reader : ByteString → Reader α) (hsum : widths.sum = size)
    (hdecode : ∀ b, decode b = if size ≤ b.length then .ok (value b) else .error bufferUnderflow)
    (hvalue : ∀ b, value (b.take size) = value b)
    (hreader : ∀ b, (reader b).run' 0 = decode b)
    (htracks : ∀ b, Tracks b widths (reader b) (traced b)) :
    Decodes size widths decode traced := by
  have hrun (b : ByteString) : Outcome b widths {} ((reader b).run 0) ((traced b).run.run {}) :=
    htracks b {} (by simp)
  have hresult (b : ByteString) : ((traced b).run.run {}).1 = decode b :=
    (hrun b).result_eq.trans (hreader b)
  have htake (b : ByteString) : decode (b.take size) = decode b := by
    rw [hdecode, hdecode, hvalue, List.length_take]
    simp only [le_min_iff, le_refl, true_and]
  have hsucceeds (b : ByteString) : (∃ x, decode b = .ok x) ↔ size ≤ b.length := by
    rw [hdecode]
    split_ifs with h <;> simp [h]
  refine ⟨hsucceeds, fun b e he ↦ ?_, hresult, fun b ↦ (hrun b).inRange, fun b x hx ↦ ?_,
    fun b e he ↦ ?_, htake, fun b x hx bytes ↦ ?_⟩
  · rw [hdecode] at he
    split_ifs at he
    cases he
    rfl
  · obtain ⟨hends, hoffset⟩ := (hrun b).of_ok ((hresult b).trans hx)
    rw [← hsum]
    exact ⟨hends, hoffset.trans (Nat.zero_add _)⟩
  · exact (hrun b).of_error ((hresult b).trans he)
  · have hlength := (hsucceeds b).mp ⟨x, hx⟩
    rw [← hx, ← htake, List.take_append_of_le_length hlength, htake]

/-! ## The first bytes decide -/

theorem field_take {T : Type} [UnsignedInt T] (b : ByteString) {offset size : ℕ}
    (h : offset + UnsignedInt.sizeof T ≤ size) :
    Wire.field T (b.take size) offset = Wire.field T b offset := by
  rw [Wire.field, Wire.field, Wire.slice, Wire.slice, List.drop_take, List.take_take,
    Nat.min_eq_left (by omega)]

theorem header_take (b : ByteString) {size : ℕ} (h : 13 ≤ size) :
    Wire.header (b.take size) = Wire.header b := by
  rw [Wire.header, Wire.header, field_take b (le_trans (by decide) h),
    field_take b (le_trans (by decide) h), field_take b (le_trans (by decide) h)]

theorem telemetry_take (b : ByteString) : Wire.telemetry (b.take 23) = Wire.telemetry b := by
  rw [Wire.telemetry, Wire.telemetry, header_take b (by decide), field_take b (by decide),
    field_take b (by decide), field_take b (by decide)]

/-- The peek and the heartbeat decoder read a header and keep a part of it. -/
theorem decodes_header {α : Type} (f : PacketHeader → α)
    {decode : ByteString → Except Exception α}
    (hdecode : ∀ b, decode b =
      if Wire.headerSize ≤ b.length then .ok (f (Wire.header b)) else .error bufferUnderflow) :
    Decodes 13 headerWidths decode
      fun b ↦ do let header ← readHeaderWith (readTraced b); return f header := by
  refine decodes_of_tracks (fun b ↦ do let header ← readHeader b; return f header) rfl hdecode
    ?_ ?_ ?_
  · intro b
    exact congrArg f (header_take b le_rfl)
  · intro b
    rw [hdecode, StateT.run'_eq, StateT.run_bind, Wire.readHeader_run]
    split_ifs <;> rfl
  · intro b
    exact (tracks_readHeader b).bind fun header ↦ Tracks.pure (f header)

theorem decodes_telemetry :
    Decodes 23 telemetryWidths deserializeTelemetry deserializeTelemetryTraced :=
  decodes_of_tracks readTelemetry rfl Wire.deserializeTelemetry_eq telemetry_take (fun _ ↦ rfl)
    tracks_readTelemetry

/-- Whenever two of the three decoders return, they return the same header. -/
structure Agree (b : ByteString) : Prop where
  telemetry_heartbeat : ∀ message beat, deserializeTelemetry b = .ok message →
    deserializeHeartbeat b = .ok beat → message.header = beat.header
  peek_heartbeat : ∀ type beat, peekMessageType b = .ok type →
    deserializeHeartbeat b = .ok beat → type = beat.header.type
  peek_telemetry : ∀ type message, peekMessageType b = .ok type →
    deserializeTelemetry b = .ok message → type = message.header.type

theorem ite_ok_eq {α : Type} {p : Prop} [Decidable p] {x y : α} {e : Exception}
    (h : (if p then .ok x else .error e : Except Exception α) = .ok y) : x = y := by
  split_ifs at h
  exact Except.ok.inj h

theorem agree (b : ByteString) : Agree b := by
  have htelemetry {message} (h : deserializeTelemetry b = .ok message) :
      Wire.telemetry b = message := ite_ok_eq ((Wire.deserializeTelemetry_eq b).symm.trans h)
  have hheartbeat {beat} (h : deserializeHeartbeat b = .ok beat) :
      Wire.heartbeat b = beat := ite_ok_eq ((Wire.deserializeHeartbeat_eq b).symm.trans h)
  have hpeek {type} (h : peekMessageType b = .ok type) :
      (Wire.header b).type = type := ite_ok_eq ((Wire.peekMessageType_eq b).symm.trans h)
  constructor
  · intro message beat hm hb
    rw [← htelemetry hm, ← hheartbeat hb]
    rfl
  · intro type beat ht hb
    rw [← hpeek ht, ← hheartbeat hb]
    rfl
  · intro type message ht hm
    rw [← hpeek ht, ← htelemetry hm]
    rfl

/-- The decoders are safe, total from their size on, and agree. -/
theorem decoders_safe :
    Decodes 13 [1, 4, 8] peekMessageType peekMessageTypeTraced ∧
    Decodes 13 [1, 4, 8] deserializeHeartbeat deserializeHeartbeatTraced ∧
    Decodes 23 [1, 4, 8, 1, 1, 8] deserializeTelemetry deserializeTelemetryTraced ∧
    ∀ b, Agree b :=
  ⟨decodes_header (·.type) Wire.peekMessageType_eq,
    decodes_header HeartbeatMessage.mk Wire.deserializeHeartbeat_eq, decodes_telemetry, agree⟩

end SmartSensorNetwork.PacketSerializer
