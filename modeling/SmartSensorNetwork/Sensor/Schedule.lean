import SmartSensorNetwork.Lib.PeriodicTimer
import SmartSensorNetwork.Network.WireFormat
import SmartSensorNetwork.Sensor.SensorNode

/-!
# The schedule of a sensor node

The run loop keeps two periodic timers on one sample of the clock per pass.
Times are in nanoseconds. The timers keep their intervals as long as 64 bits
hold the intervals and the time that passes.
-/

namespace SmartSensorNetwork.SensorNode

open CppStd PeriodicTimer

/-- What each pass of the loop sends, with the sample of the clock it took. -/
def sends (node : SensorNode) (timers : Timers) : List Pass → List (ℤ × List ByteString)
  | [] => []
  | pass :: passes =>
      let (node', timers', packets) := node.iterate timers pass
      (pass.nowTime, packets) :: sends node' timers' passes

def timersAfter (node : SensorNode) (timers : Timers) : List Pass → Timers
  | [] => timers
  | pass :: passes =>
      let (node', timers', _) := node.iterate timers pass
      timersAfter node' timers' passes

/-- An interval of this many milliseconds. -/
def milliseconds (n : ℤ) : ℤ := n * 1000000

/-- The longest interval, in milliseconds, that 64-bit nanoseconds hold. -/
def longestInterval : ℤ := 9223372036854

def isOf (type : MessageType) (packet : ByteString) : Bool := packet.head? = some type.raw

/-- One entry for each packet of the kind. -/
def sendTimes (type : MessageType) (log : List (ℤ × List ByteString)) : List ℤ :=
  log.flatMap fun e ↦ List.replicate (e.2.countP (isOf type)) e.1

/-- The sends of one timer by the sample `now`: `start` is its initial reading,
`clock` the initial readings of both timers and the samples up to `now`. -/
structure OnSchedule (interval start reference now : ℤ) (clock times : List ℤ) : Prop where
  spaced : (start :: times).Pairwise fun s t ↦ interval ≤ t - s
  recent : now - reference < interval
  notMore : times.length * interval ≤ now - start
  notFewer : ∀ gap, clock.IsChain (fun s t ↦ t - s ≤ gap) →
    (now - start) / (interval + gap) ≤ times.length

/-- The two timers keep their pace, and neither sees the other. -/
structure KeepsPace (node : SensorNode) (t₀ t₁ : ℤ) (passes : List Pass) (now : ℤ) : Prop where
  telemetry : OnSchedule (milliseconds node.telemetryInterval) t₀
    (node.timersAfter ⟨t₀, t₁⟩ passes).lastTelemetry now (t₀ :: t₁ :: passes.map Pass.nowTime)
    (sendTimes .telemetry (node.sends ⟨t₀, t₁⟩ passes))
  heartbeat : OnSchedule (milliseconds node.heartbeatInterval) t₁
    (node.timersAfter ⟨t₀, t₁⟩ passes).lastHeartbeat now (t₀ :: t₁ :: passes.map Pass.nowTime)
    (sendTimes .heartbeat (node.sends ⟨t₀, t₁⟩ passes))
  once : ∀ e ∈ node.sends ⟨t₀, t₁⟩ passes,
    e.2.countP (isOf .telemetry) ≤ 1 ∧ e.2.countP (isOf .heartbeat) ≤ 1
  telemetryAlone : ∀ (other : SensorNode) (t : ℤ) (others : List Pass),
    other.telemetryInterval = node.telemetryInterval →
    others.map Pass.nowTime = passes.map Pass.nowTime →
    sendTimes .telemetry (other.sends ⟨t₀, t⟩ others) =
      sendTimes .telemetry (node.sends ⟨t₀, t₁⟩ passes)
  heartbeatAlone : ∀ (other : SensorNode) (t : ℤ) (others : List Pass),
    other.heartbeatInterval = node.heartbeatInterval →
    others.map Pass.nowTime = passes.map Pass.nowTime →
    sendTimes .heartbeat (other.sends ⟨t, t₁⟩ others) =
      sendTimes .heartbeat (node.sends ⟨t₀, t₁⟩ passes)

/-! ## One pass -/

theorem head?_headerBytes (header : PacketHeader) (bytes : ByteString) :
    (Wire.headerBytes header ++ bytes).head? = some header.type.raw := by
  rw [Wire.headerBytes, BigEndian.encode, pow_zero, Nat.div_one, UInt8.ofNat_toNat]
  rfl

theorem raw_eq_iff {a b : MessageType} : a.raw = b.raw ↔ a = b := by
  cases a
  cases b
  simp

theorem isOf_tick (type : MessageType) (node : SensorNode) (sample : Double) (now : UInt64) :
    isOf type (node.tick sample now).2.1 = decide (MessageType.telemetry = type) := by
  rw [tick_eq, isOf, Wire.serializeTelemetry_eq, head?_headerBytes, AnySensor.createTelemetry_fst]
  simp [raw_eq_iff]

theorem isOf_sendHeartbeat (type : MessageType) (node : SensorNode) (now : UInt64) :
    isOf type (node.sendHeartbeat now) = decide (MessageType.heartbeat = type) := by
  rw [sendHeartbeat, isOf, Wire.serializeHeartbeat_eq, ← List.append_nil (Wire.headerBytes _),
    head?_headerBytes]
  simp [raw_eq_iff]

/-- Both timers move by one rule; the packets go out in the order of the code. -/
theorem iterate_eq (node : SensorNode) (timers : Timers) (pass : Pass) :
    node.iterate timers pass =
      let due := Due node.telemetryInterval timers.lastTelemetry pass.nowTime
      let beatDue := Due node.heartbeatInterval timers.lastHeartbeat pass.nowTime
      let node' := if due then (node.tick pass.sample pass.telemetryNow).2.2 else node
      (node',
        { lastTelemetry := next (Due node.telemetryInterval) timers.lastTelemetry pass.nowTime
          lastHeartbeat := next (Due node.heartbeatInterval) timers.lastHeartbeat pass.nowTime },
        (if due then [(node.tick pass.sample pass.telemetryNow).2.1] else []) ++
          if beatDue then [node'.sendHeartbeat pass.heartbeatNow] else []) := by
  by_cases hdue : Due node.telemetryInterval timers.lastTelemetry pass.nowTime <;>
    by_cases hbeat : Due node.heartbeatInterval timers.lastHeartbeat pass.nowTime <;>
    simp [iterate, next, tick, hdue, hbeat]

theorem iterate_timers (node : SensorNode) (timers : Timers) (pass : Pass) :
    (node.iterate timers pass).2.1 =
      { lastTelemetry := next (Due node.telemetryInterval) timers.lastTelemetry pass.nowTime
        lastHeartbeat := next (Due node.heartbeatInterval) timers.lastHeartbeat pass.nowTime } := by
  rw [iterate_eq]

theorem intervals_iterate (node : SensorNode) (timers : Timers) (pass : Pass) :
    (node.iterate timers pass).1.telemetryInterval = node.telemetryInterval ∧
      (node.iterate timers pass).1.heartbeatInterval = node.heartbeatInterval := by
  rw [iterate_eq]
  by_cases hdue : Due node.telemetryInterval timers.lastTelemetry pass.nowTime <;>
    simp [hdue, tick]

theorem count_telemetry (node : SensorNode) (timers : Timers) (pass : Pass) :
    (node.iterate timers pass).2.2.countP (isOf .telemetry) =
      if Due node.telemetryInterval timers.lastTelemetry pass.nowTime then 1 else 0 := by
  have hother : MessageType.heartbeat ≠ .telemetry := by decide
  rw [iterate_eq, List.countP_append]
  split_ifs <;> simp [isOf_tick, isOf_sendHeartbeat, hother]

theorem count_heartbeat (node : SensorNode) (timers : Timers) (pass : Pass) :
    (node.iterate timers pass).2.2.countP (isOf .heartbeat) =
      if Due node.heartbeatInterval timers.lastHeartbeat pass.nowTime then 1 else 0 := by
  have hother : MessageType.telemetry ≠ .heartbeat := by decide
  rw [iterate_eq, List.countP_append]
  split_ifs <;> simp [isOf_tick, isOf_sendHeartbeat, hother]

/-! ## The loop -/

theorem sends_cons (node : SensorNode) (timers : Timers) (pass : Pass) (passes : List Pass) :
    node.sends timers (pass :: passes) = (pass.nowTime, (node.iterate timers pass).2.2) ::
      (node.iterate timers pass).1.sends (node.iterate timers pass).2.1 passes := rfl

theorem sendTimes_cons (type : MessageType) (e : ℤ × List ByteString)
    (log : List (ℤ × List ByteString)) :
    sendTimes type (e :: log) =
      List.replicate (e.2.countP (isOf type)) e.1 ++ sendTimes type log := rfl

/-- Each timer of the loop is a periodic timer on the samples of the passes. -/
theorem sendTimes_telemetry (node : SensorNode) (timers : Timers) (passes : List Pass) :
    sendTimes .telemetry (node.sends timers passes) =
      firings (Due node.telemetryInterval) timers.lastTelemetry (passes.map Pass.nowTime) := by
  induction passes generalizing node timers with
  | nil => rfl
  | cons pass passes ih =>
      rw [sends_cons, sendTimes_cons, ih, count_telemetry, (intervals_iterate node timers pass).1,
        iterate_timers, List.map_cons, firings_cons]

theorem sendTimes_heartbeat (node : SensorNode) (timers : Timers) (passes : List Pass) :
    sendTimes .heartbeat (node.sends timers passes) =
      firings (Due node.heartbeatInterval) timers.lastHeartbeat (passes.map Pass.nowTime) := by
  induction passes generalizing node timers with
  | nil => rfl
  | cons pass passes ih =>
      rw [sends_cons, sendTimes_cons, ih, count_heartbeat, (intervals_iterate node timers pass).2,
        iterate_timers, List.map_cons, firings_cons]

theorem timersAfter_eq (node : SensorNode) (timers : Timers) (passes : List Pass) :
    node.timersAfter timers passes =
      { lastTelemetry := reference (Due node.telemetryInterval) timers.lastTelemetry
          (passes.map Pass.nowTime)
        lastHeartbeat := reference (Due node.heartbeatInterval) timers.lastHeartbeat
          (passes.map Pass.nowTime) } := by
  induction passes generalizing node timers with
  | nil => rfl
  | cons pass passes ih =>
      have hcons : node.timersAfter timers (pass :: passes) =
          (node.iterate timers pass).1.timersAfter (node.iterate timers pass).2.1 passes := rfl
      rw [hcons, ih, (intervals_iterate node timers pass).1, (intervals_iterate node timers pass).2,
        iterate_timers]
      rfl

theorem once_of_mem_sends {node : SensorNode} {timers : Timers} {passes : List Pass}
    {e : ℤ × List ByteString} (he : e ∈ node.sends timers passes) :
    e.2.countP (isOf .telemetry) ≤ 1 ∧ e.2.countP (isOf .heartbeat) ≤ 1 := by
  induction passes generalizing node timers with
  | nil => cases he
  | cons pass passes ih =>
      rw [sends_cons] at he
      rcases List.mem_cons.mp he with rfl | he
      · rw [count_telemetry, count_heartbeat]
        constructor <;> split_ifs <;> simp
      · exact ih he

/-! ## Pace -/

/-- As long as nothing overflows, the comparison of the loop is the intended
one. -/
theorem due_iff {interval last nowTime : ℤ} (hinterval : 0 < interval)
    (hrange : interval ≤ longestInterval) (hle : last ≤ nowTime)
    (hspan : nowTime - last < 2 ^ 63) :
    Due interval last nowTime ↔ Passed (milliseconds interval) last nowTime := by
  rw [longestInterval] at hrange
  rw [Due, Passed, milliseconds, int64_of_lt (by omega) (by omega),
    int64_of_lt (by omega) (by omega)]

theorem due_iff_of_span {interval start now : ℤ} {samples : List ℤ} (hinterval : 0 < interval)
    (hrange : interval ≤ longestInterval)
    (hordered : (start :: (samples ++ [now])).Pairwise (· ≤ ·)) (hspan : now - start < 2 ^ 63) :
    (start :: (samples ++ [now])).Pairwise fun s t ↦
      (Due interval s t ↔ Passed (milliseconds interval) s t) := by
  have hbounds : ∀ t ∈ start :: (samples ++ [now]), start ≤ t ∧ t ≤ now := by
    intro t ht
    constructor
    · rcases List.mem_cons.mp ht with rfl | ht
      · exact le_rfl
      · exact (List.pairwise_cons.mp hordered).1 t ht
    · rw [← List.cons_append] at ht hordered
      rcases List.mem_append.mp ht with ht | ht
      · exact (List.pairwise_append.mp hordered).2.2 t ht now (List.mem_singleton_self now)
      · exact (List.mem_singleton.mp ht).le
  refine hordered.imp_of_mem fun hs ht hle ↦ due_iff hinterval hrange hle ?_
  have hstart := (hbounds _ hs).1
  have hnow := (hbounds _ ht).2
  omega

/-- A timer that starts at `start`, one of the two initial readings. -/
theorem onSchedule_of_firings {interval start t₁ now : ℤ} {samples : List ℤ} (t₀ : ℤ)
    (hpos : 0 < interval) (hrange : interval ≤ longestInterval) (hstart : start = t₀ ∨ start = t₁)
    (hordered : (t₀ :: t₁ :: (samples ++ [now])).Pairwise (· ≤ ·)) (hspan : now - t₀ < 2 ^ 63) :
    OnSchedule (milliseconds interval) start (reference (Due interval) start (samples ++ [now]))
      now (t₀ :: t₁ :: (samples ++ [now])) (firings (Due interval) start (samples ++ [now])) := by
  obtain ⟨hfirst, hlater⟩ := List.pairwise_cons.mp hordered
  have hle : t₀ ≤ t₁ := hfirst t₁ (by simp)
  have hmine : (start :: (samples ++ [now])).Pairwise (· ≤ ·) := by
    rcases hstart with rfl | rfl
    · exact List.pairwise_cons.mpr ⟨fun t ht ↦ hfirst t (List.mem_cons_of_mem _ ht),
        (List.pairwise_cons.mp hlater).2⟩
    · exact hlater
  have hbefore : now - start < 2 ^ 63 := by
    rcases hstart with rfl | rfl <;> omega
  have hlong : 0 < milliseconds interval := by
    rw [milliseconds]
    omega
  obtain ⟨hfirings, hreference⟩ :=
    firings_congr (Due interval) (due_iff_of_span hpos hrange hmine hbefore)
  rw [hfirings, hreference]
  exact {
    spaced := pairwise_firings hlong _
    recent := sub_reference_lt hlong samples now
    notMore := by
      apply length_mul_le
      intro s hs
      rw [← List.cons_append] at hmine
      exact (List.pairwise_append.mp hmine).2.2 s hs now (List.mem_singleton_self now)
    notFewer := fun gap hgaps ↦ by
      obtain ⟨hgap, hrest⟩ := List.isChain_cons_cons.mp hgaps
      have hprevious : t₁ - start ≤ gap := by
        rcases hstart with rfl | rfl
        · exact hgap
        · omega
      have hlt := elapsed_lt hlong (by omega) hprevious hrest
      rw [List.getLastD_concat] at hlt
      have hdiv : (now - start) / (milliseconds interval + gap) <
          (firings (Passed (milliseconds interval)) start (samples ++ [now])).length + 1 :=
        Int.ediv_lt_of_lt_mul (by omega) hlt
      omega }

/-- In every run of the loop with a clock that never goes back, however it is
sampled, both timers keep their pace, unless an interval or the whole run is
longer than 64-bit nanoseconds can say. -/
theorem keepsPace (node : SensorNode) (t₀ t₁ : ℤ) (passes : List Pass) (pass : Pass)
    (htelemetry : 0 < node.telemetryInterval ∧ node.telemetryInterval ≤ longestInterval)
    (hheartbeat : 0 < node.heartbeatInterval ∧ node.heartbeatInterval ≤ longestInterval)
    (hclock : (t₀ :: t₁ :: (passes ++ [pass]).map Pass.nowTime).Pairwise (· ≤ ·))
    (hspan : pass.nowTime - t₀ < 2 ^ 63) :
    KeepsPace node t₀ t₁ (passes ++ [pass]) pass.nowTime where
  telemetry := by
    rw [sendTimes_telemetry, timersAfter_eq, List.map_append] at *
    exact onSchedule_of_firings t₀ htelemetry.1 htelemetry.2 (.inl rfl) hclock hspan
  heartbeat := by
    rw [sendTimes_heartbeat, timersAfter_eq, List.map_append] at *
    exact onSchedule_of_firings t₀ hheartbeat.1 hheartbeat.2 (.inr rfl) hclock hspan
  once e he := once_of_mem_sends he
  telemetryAlone other t others hinterval htimes := by
    rw [sendTimes_telemetry, sendTimes_telemetry, hinterval, htimes]
  heartbeatAlone other t others hinterval htimes := by
    rw [sendTimes_heartbeat, sendTimes_heartbeat, hinterval, htimes]

/-- A stall of seven seconds: one telemetry message and one heartbeat. -/
theorem keepsPace_stall :
    KeepsPace { sensor := .battery (BatterySensor.new 7) } 0 0
      ([⟨10000000, ⟨0⟩, 1000, 1000⟩] ++ [⟨7000000000, ⟨0⟩, 8000, 8000⟩]) 7000000000 :=
  keepsPace _ 0 0 [⟨10000000, ⟨0⟩, 1000, 1000⟩] ⟨7000000000, ⟨0⟩, 8000, 8000⟩
    (by decide) (by decide) (by simp) (by norm_num)

/-- An interval of `std::chrono::milliseconds::max()`. -/
def overlongNode : SensorNode where
  sensor := .battery (BatterySensor.new 7)
  telemetryInterval := 2 ^ 63 - 1

/-- With that interval telemetry goes out on every pass. If the clock goes from
the least 64-bit reading to the greatest one, the timers miss it. -/
theorem floods_and_misses_on_overflow :
    ¬ KeepsPace overlongNode 0 0 [⟨0, ⟨0⟩, 1000, 1000⟩] 0 ∧
    ¬ KeepsPace { sensor := .battery (BatterySensor.new 7) } (-2 ^ 63) (-2 ^ 63)
      [⟨2 ^ 63 - 1, ⟨0⟩, 1000, 1000⟩] (2 ^ 63 - 1) := by
  constructor
  · intro h
    have hspaced := h.telemetry.spaced
    rw [sendTimes_telemetry] at hspaced
    exact absurd hspaced (by decide)
  · intro h
    have hrecent := h.telemetry.recent
    rw [timersAfter_eq] at hrecent
    exact absurd hrecent (by decide)

end SmartSensorNetwork.SensorNode
