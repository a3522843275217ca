import SmartSensorNetwork.Gateway.Replay
import SmartSensorNetwork.Network.TcpSession
import SmartSensorNetwork.Network.TcpThreads
import SmartSensorNetwork.Network.UdpReceiver

/-!
# Replies never go back in time

The receiver and the watchdog change the Gateway, and the TCP server and the
dashboard read it, statement by statement in any interleaving. The replies of
the server, to one client or to several, show registries that only grow.
-/

namespace SmartSensorNetwork.MonotonicReads

open CppStd Gateway Gateway.Threads TcpServer.Threads

inductive Thread (ι : Type) where
  | receiver
  | watchdog
  | reporter (i : ι)
  deriving DecidableEq

inductive Service where
  | receiving (n : ℕ)
  | watching
  | over

/-- What the receive buffer holds of a datagram. -/
def received (datagrams : ℕ → ByteString) (n : ℕ) : ByteString :=
  (datagrams n).take UdpReceiver.maxPacketSize

/-- An exception leaves the receive loop. -/
def afterPacket (n : ℕ) : Result → Service
  | .threw _ => .over
  | _ => .receiving (n + 1)

def services (datagrams : ℕ → ByteString) : Program Service
  | .receiving n => some (.call (.handlePacket (received datagrams n)), afterPacket n)
  | .watching => some (.call .detectOfflineSensors, fun _ ↦ .watching)
  | .over => none

variable {ι β : Type}

def start (reports : ι → Report β) : Thread ι → Report β ⊕ Service
  | .receiver => .inr (.receiving 0)
  | .watchdog => .inr .watching
  | .reporter i => .inl (reports i)

/-- The sensor's telemetry packets reach the receiver in the order of their
timestamps. -/
def InOrder (datagrams : ℕ → ByteString) (id : UInt32) : Prop :=
  ∀ m n, m ≤ n → AcceptsTelemetry (received datagrams m) →
    AcceptsTelemetry (received datagrams n) →
    (Wire.header (received datagrams m)).sensorId = id →
    (Wire.header (received datagrams n)).sensorId = id →
    (Wire.header (received datagrams m)).timestampMs ≤
      (Wire.header (received datagrams n)).timestampMs

structure Grows (datagrams : ℕ → ByteString) (sensors sensors' : Registry) : Prop where
  keeps : ∀ id ∈ sensors, id ∈ sensors'
  size : sensors.size ≤ sensors'.size
  heard : ∀ id info info', sensors.lookup id = some info → sensors'.lookup id = some info' →
    info.health ≠ .unknown → info'.health ≠ .unknown
  telemetry : ∀ id info info', sensors.lookup id = some info → sensors'.lookup id = some info' →
    InOrder datagrams id →
    info.lastTelemetry.header.timestampMs ≤ info'.lastTelemetry.header.timestampMs

/-! ## The packets of a run -/

def packet : Call × UInt64 → Option ByteString
  | (.handlePacket b, _) => some b
  | _ => none

/-- The first datagrams, handled in turn. -/
def Handled (datagrams : ℕ → ByteString) (calls : List (Call × UInt64)) : Prop :=
  ∃ n, calls.filterMap packet = (List.range n).map (received datagrams)

variable [DecidableEq ι] {datagrams : ℕ → ByteString}

/-- Where each thread can be between its calls. -/
def Own : Thread ι → Local (Report β ⊕ Service) → Prop
  | .receiver, l => l = .calling (.inr .over) ∨ ∃ n, l = .calling (.inr (.receiving n))
  | .watchdog, l => l = .calling (.inr .watching) ∨ ∃ now, l = .scanning now (.inr .watching)
  | .reporter _, l => ∃ p, l = .calling (.inl p)

structure Receiving (datagrams : ℕ → ByteString) (a : Calls (Report β ⊕ Service) (Thread ι)) :
    Prop where
  own : ∀ t, Own t (a.locals t)
  next : ∀ n, a.locals .receiver = .calling (.inr (.receiving n)) →
    a.history.filterMap packet = (List.range n).map (received datagrams)
  handled : Handled datagrams a.history

theorem filterMap_packet_member (q : Question) (now : UInt64) :
    (q.member.entry now).filterMap packet = [] := by
  cases q <;> rfl

/-- A call that is no packet leaves the receiver where it is. -/
theorem Receiving.perform {a : Calls (Report β ⊕ Service) (Thread ι)}
    (h : Receiving datagrams a) {t : Thread ι} {now : UInt64} {member : Member}
    {k : Result → Report β ⊕ Service} (ht : t ≠ .receiver)
    (hown : ∀ r, Own t (.calling (k r))) (hentry : (member.entry now).filterMap packet = []) :
    Receiving datagrams (a.perform t now member k) where
  own t' := by
    rcases eq_or_ne t' t with rfl | hne
    · simpa only [Calls.perform, Function.update_self] using hown _
    · simpa only [Calls.perform, Function.update_of_ne hne] using h.own t'
  next n hlocal := by
    simp only [Calls.perform, Function.update_of_ne ht.symm] at hlocal
    simpa only [Calls.perform, List.filterMap_append, hentry, List.append_nil] using h.next n hlocal
  handled := by
    obtain ⟨n, hn⟩ := h.handled
    exact ⟨n, by simpa only [Calls.perform, List.filterMap_append, hentry, List.append_nil] using hn⟩

theorem Receiving.packet {a : Calls (Report β ⊕ Service) (Thread ι)}
    (h : Receiving datagrams a) {n : ℕ} {now : UInt64}
    (hlocal : a.locals .receiver = .calling (.inr (.receiving n))) :
    Receiving datagrams (a.perform .receiver now (.call (.handlePacket (received datagrams n)))
      fun r ↦ .inr (afterPacket n r)) := by
  have hpackets : (a.history ++ Member.entry now
      (.call (.handlePacket (received datagrams n)))).filterMap MonotonicReads.packet =
        (List.range (n + 1)).map (received datagrams) := by
    rw [List.filterMap_append, h.next n hlocal, List.range_succ, List.map_append]
    rfl
  refine ⟨fun t' ↦ ?_, fun m hm ↦ ?_, ⟨n + 1, hpackets⟩⟩
  · rcases eq_or_ne t' .receiver with rfl | hne
    · simp only [Calls.perform, Function.update_self]
      cases Result.of a.gateway now (.call (.handlePacket (received datagrams n))) with
      | threw e => exact .inl rfl
      | returned => exact .inr ⟨n + 1, rfl⟩
      | sensors registry => exact .inr ⟨n + 1, rfl⟩
      | number m => exact .inr ⟨n + 1, rfl⟩
    · simpa only [Calls.perform, Function.update_of_ne hne] using h.own t'
  · simp only [Calls.perform, Function.update_self, Local.calling.injEq, Sum.inr.injEq] at hm
    have hnext : m = n + 1 := by
      revert hm
      cases Result.of a.gateway now (.call (.handlePacket (received datagrams n))) <;>
        simp [afterPacket, eq_comm]
    rw [hnext]
    exact hpackets

theorem Receiving.begins {a : Calls (Report β ⊕ Service) (Thread ι)}
    (h : Receiving datagrams a) (now : UInt64) :
    Receiving datagrams { a with
      locals := Function.update a.locals .watchdog (.scanning now (.inr .watching)) } where
  own t := by
    rcases eq_or_ne t .watchdog with rfl | hne
    · simpa only [Function.update_self] using .inr ⟨now, rfl⟩
    · simpa only [Function.update_of_ne hne] using h.own t
  next n hlocal := h.next n (by simpa using hlocal)
  handled := h.handled

theorem receiving_step {a a' : Calls (Report β ⊕ Service) (Thread ι)} {e : Thread ι × UInt64}
    (h : Receiving datagrams a)
    (hstep : callStep (reporting (services datagrams)) a e = some a') : Receiving datagrams a' := by
  obtain ⟨t, x⟩ := e
  have hown := h.own t
  obtain ⟨l, k, hlocal, hprogram, rfl⟩ | ⟨l, member, k, hlocal, hprogram, rfl⟩ |
    ⟨now, l, member, k, hlocal, hprogram, rfl⟩ := callStep_cases hstep
  all_goals simp only at hlocal; rw [hlocal] at hown
  · cases t with
    | receiver =>
        rcases hown with hover | ⟨n, hn⟩
        · cases hover
          simp [reporting, services] at hprogram
        · cases hn
          simp [reporting, services] at hprogram
    | reporter i =>
        obtain ⟨p, hp⟩ := hown
        cases hp
        cases p with
        | done b => simp [reporting] at hprogram
        | ask q k' => cases q <;> simp [reporting, Question.member] at hprogram
    | watchdog =>
        rcases hown with hl | ⟨_, hl⟩
        · cases hl
          exact h.begins x
        · cases hl
  · cases t with
    | receiver =>
        rcases hown with hover | ⟨n, hn⟩
        · cases hover
          simp [reporting, services] at hprogram
        · cases hn
          obtain ⟨rfl, rfl⟩ : Member.call (.handlePacket (received datagrams n)) = member ∧
              (fun r ↦ Sum.inr (afterPacket n r)) = k := by
            simpa [reporting, services] using hprogram
          exact h.packet hlocal
    | reporter i =>
        obtain ⟨p, hp⟩ := hown
        cases hp
        cases p with
        | done b => simp [reporting] at hprogram
        | ask q k' =>
            obtain ⟨rfl, rfl⟩ : q.member = member ∧ (fun r ↦ Sum.inl (k' r)) = k := by
              simpa [reporting] using hprogram
            exact h.perform (by simp) (fun r ↦ ⟨k' r, rfl⟩) (filterMap_packet_member q x)
    | watchdog =>
        rcases hown with hl | ⟨_, hl⟩
        · cases hl
          obtain ⟨rfl, rfl⟩ : Member.call .detectOfflineSensors = member ∧
              (fun _ ↦ Sum.inr Service.watching) = k := by
            simpa [reporting, services] using hprogram
          exact h.perform (by simp) (fun r ↦ .inl rfl) rfl
        · cases hl
  · cases t with
    | receiver => rcases hown with hl | ⟨n, hl⟩ <;> cases hl
    | reporter i =>
        obtain ⟨p, hp⟩ := hown
        cases hp
    | watchdog =>
        rcases hown with hl | ⟨_, hl⟩
        · cases hl
        · cases hl
          obtain ⟨-, rfl⟩ : Member.call .detectOfflineSensors = member ∧
              (fun _ ↦ Sum.inr Service.watching) = k := by
            simpa [reporting, services] using hprogram
          exact h.perform (by simp) (fun r ↦ .inl rfl) rfl

theorem receiving_of_run {a a' : Calls (Report β ⊕ Service) (Thread ι)}
    {events : List (Thread ι × UInt64)} (h : Receiving datagrams a)
    (hrun : Runs.run (callStep (reporting (services datagrams))) a events = some a') :
    Receiving datagrams a' :=
  Runs.invariant_run (fun _ _ _ h hstep ↦ receiving_step h hstep) h hrun

/-! ## Registries along a run -/

def timestampOf (id : UInt32) (b : ByteString) : Option UInt64 :=
  if AcceptsTelemetry b ∧ (Wire.header b).sensorId = id then some (Wire.header b).timestampMs
  else none

/-- The timestamps of a sensor's telemetry, in the order of handling. -/
def timestamps (id : UInt32) (calls : List (Call × UInt64)) : List UInt64 :=
  (calls.filterMap packet).filterMap (timestampOf id)

theorem timestamps_eq_map (id : UInt32) (calls : List (Call × UInt64)) :
    timestamps id calls =
      (calls.filterMap (telemetryOf id)).map fun t ↦ t.1.header.timestampMs := by
  induction calls with
  | nil => rfl
  | cons call calls ih =>
      obtain ⟨call, now⟩ := call
      simp only [timestamps] at ih
      cases call with
      | handlePacket b =>
          by_cases hid : AcceptsTelemetry b ∧ (Wire.header b).sensorId = id
          · simp [timestamps, packet, timestampOf, telemetryOf, hid, ih, Wire.telemetry]
          · simp [timestamps, packet, timestampOf, telemetryOf, hid, ih]
      | detectOfflineSensors => exact ih
      | getSecondsSinceLastHeartbeat sensorId => exact ih

theorem timestamps_pairwise {calls : List (Call × UInt64)} {id : UInt32}
    (h : Handled datagrams calls) (horder : InOrder datagrams id) :
    (timestamps id calls).Pairwise (· ≤ ·) := by
  obtain ⟨n, hn⟩ := h
  rw [timestamps, hn, List.filterMap_map, List.pairwise_filterMap]
  apply List.pairwise_lt_range.imp
  intro i j hij t ht t' ht'
  obtain ⟨⟨hacc, hid⟩, hstamp⟩ := Option.ite_none_right_eq_some.mp ht
  obtain ⟨⟨hacc', hid'⟩, hstamp'⟩ := Option.ite_none_right_eq_some.mp ht'
  cases hstamp
  cases hstamp'
  exact horder i j hij.le hacc hacc' hid hid'

theorem last_le_last {l l' : List UInt64} (h : l <+: l') (hl' : l'.Pairwise (· ≤ ·)) :
    l.getLast?.getD 0 ≤ l'.getLast?.getD 0 := by
  obtain ⟨more, rfl⟩ := h
  cases hlast : more.getLast? with
  | none => simp [List.getLast?_append, hlast]
  | some y =>
      cases hfirst : l.getLast? with
      | none => simp
      | some x =>
          have hx := List.mem_of_getLast? hfirst
          have hy := List.mem_of_getLast? hlast
          simpa [List.getLast?_append, hlast] using (List.pairwise_append.mp hl').2.2 x hx y hy

theorem timestamp_lookup {calls : List (Call × UInt64)} {id : UInt32} {info : SensorInfo}
    (h : (left calls).lookup id = some info) :
    info.lastTelemetry.header.timestampMs = (timestamps id calls).getLast?.getD 0 := by
  have htelemetry := congrArg Prod.fst ((registry_is_replay calls).telemetry id info h)
  simp only at htelemetry
  rw [htelemetry, timestamps_eq_map, List.getLast?_map, lastTelemetry]
  cases (calls.filterMap (telemetryOf id)).getLast? <;> rfl

theorem keys_subset {calls calls' : List (Call × UInt64)} (h : calls <+: calls') :
    (left calls).keys ⊆ (left calls').keys := by
  intro id hid
  obtain ⟨call, hcall, hfrom⟩ := ((registry_is_replay calls).keys id).mp hid
  exact ((registry_is_replay calls').keys id).mpr ⟨call, h.subset hcall, hfrom⟩

theorem grows_of_prefix {calls calls' history : List (Call × UInt64)} (hbegins : calls <+: calls')
    (hpart : calls' <+: history) (h : Handled datagrams history) :
    Grows datagrams (left calls) (left calls') where
  keeps id hid := keys_subset hbegins hid
  size := by
    rw [AList.size_eq_length_keys, AList.size_eq_length_keys]
    exact ((left calls).keys_nodup.subperm (keys_subset hbegins)).length_le
  heard id info info' hinfo hinfo' hhealth := by
    obtain ⟨more, rfl⟩ := hbegins
    have hentry : entryRun id none calls = some info := (lookup_run _ calls id).symm.trans hinfo
    have hentry' : entryRun id none (calls ++ more) = some info' :=
      (lookup_run _ (calls ++ more) id).symm.trans hinfo'
    rw [entryRun_append, hentry] at hentry'
    have hkept := Monitor.health_entryRun_ne_unknown_iff.mpr
      (.inl hhealth : ((some info).getD {}).health ≠ .unknown ∨
        ∃ e ∈ more, HeartbeatFrom id e.1)
    rwa [hentry'] at hkept
  telemetry id info info' hinfo hinfo' horder := by
    have hstamps : timestamps id calls <+: timestamps id calls' :=
      (hbegins.filterMap packet).filterMap (timestampOf id)
    have hpart' : timestamps id calls' <+: timestamps id history :=
      (hpart.filterMap packet).filterMap (timestampOf id)
    have hsorted := (timestamps_pairwise h horder).sublist hpart'.sublist
    rw [timestamp_lookup hinfo, timestamp_lookup hinfo']
    exact last_le_last hstamps hsorted

/-! ## Replies of a run -/

theorem exists_of_forall₂ {α β : Type} {R : α → β → Prop} {l : List α} {l' : List β} {x : α}
    (h : List.Forall₂ R l l') (hx : x ∈ l) : ∃ y ∈ l', R x y := by
  induction h with
  | nil => cases hx
  | cons hxy _ ih =>
      rcases List.mem_cons.mp hx with rfl | hx
      · exact ⟨_, List.mem_cons_self, hxy⟩
      · obtain ⟨y, hy, hR⟩ := ih hx
        exact ⟨y, List.mem_cons_of_mem _ hy, hR⟩

omit [DecidableEq ι] in
theorem receiving_start (datagrams : ℕ → ByteString) (reports : ι → Report β) :
    Receiving datagrams
      ({ locals := fun t ↦ .calling (start reports t) } : Calls (Report β ⊕ Service) _) := by
  refine ⟨fun t ↦ ?_, fun n hn ↦ ?_, ⟨0, rfl⟩⟩
  · cases t with
    | receiver => exact .inr ⟨0, rfl⟩
    | watchdog => exact .inl rfl
    | reporter i => exact ⟨reports i, rfl⟩
  · cases hn
    rfl

omit [DecidableEq ι] in
/-- The replies that a server gives after a moment show what later moments
left, in order. -/
theorem exists_moments {a₀ a : Calls (Report Session ⊕ Service) (Thread ι)}
    {c : Config (Report Session ⊕ Service) (Thread ι)} (hwritten : Written a₀ a)
    (hc : Linearizes (reporting (services datagrams)) c a) {i : ι} {session session' : Session}
    {clients : List (TcpServer.ClientSocket × List ByteString)}
    (hserve : a₀.locals (.reporter i) = .calling (.inl (serve session clients)))
    (hdone : c.position (.reporter i) = .outside (.calling (.inl (.done session')))) :
    ∃ exchanges, session'.answered = session.answered ++ exchanges ∧
      ∃ moments : List ℕ, moments.Pairwise (· ≤ ·) ∧ (∀ n ∈ moments, a₀.history.length ≤ n) ∧
        List.Forall₂ (fun exchange n ↦
          (command exchange.1).Shows (left (a.history.take n)) exchange.2) exchanges moments := by
  obtain ⟨gaps, hgaps, rfl⟩ := hwritten.result hc hserve hdone
  obtain ⟨exchanges, hanswered, moments, hshows, hchain, hupto⟩ :=
    serve_spans session clients a₀.history gaps
  have hspent : a₀.history ++ (((serve session clients).reads answer).split Instant.next
      a₀.instant gaps).1.flatten <+: a.history := by
    have hsplit := Reads.split_append Instant.next ((serve session clients).reads answer)
      a₀.instant gaps
    apply List.IsPrefix.trans _ hgaps
    apply (List.prefix_append_right_inj a₀.history).mpr
    exact ⟨_, List.flatten_append.symm.trans (congrArg List.flatten hsplit)⟩
  have htake : ∀ seen ∈ moments, a.history.take seen.length = seen := by
    intro seen hseen
    exact (List.prefix_iff_eq_take.mp ((hupto seen hseen).trans hspent)).symm
  have hlater := List.pairwise_cons.mp hchain
  refine ⟨exchanges, hanswered, moments.map List.length, ?_, ?_, ?_⟩
  · rw [List.pairwise_map]
    exact hlater.2.imp List.IsPrefix.length_le
  · intro n hn
    obtain ⟨seen, hseen, rfl⟩ := List.mem_map.mp hn
    exact (hlater.1 seen hseen).length_le
  · have hmoments : (moments.map List.length).map (fun n ↦ a.history.take n) = moments := by
      rw [List.map_map]
      exact (List.map_congr_left htake).trans (List.map_id moments)
    rwa [← hmoments, List.forall₂_map_right_iff] at hshows

/-- One sequence of registries that only grow accounts for all replies of all
servers: each shows one of them, and those of one server are in order. It
speaks of servers that have served their clients; one still at work has taken
the same steps so far as a server whose clients send only what it has answered. -/
theorem replies_in_order {reports : ι → Report Session} {schedule : List (Thread ι × UInt64)}
    {c : Config (Report Session ⊕ Service) (Thread ι)}
    (hrun : Runs.run (CriticalSections.step (action (reporting (services datagrams))))
      (init (start reports)) schedule = some c) :
    ∃ registries : ℕ → Registry,
      (∀ m n, m ≤ n → Grows datagrams (registries m) (registries n)) ∧
      ∀ i server clients session, reports i = serve { server := server } clients →
        c.position (.reporter i) = .outside (.calling (.inl (.done session))) →
        ∃ moments : List ℕ, moments.Pairwise (· ≤ ·) ∧
          List.Forall₂ (fun exchange n ↦ (command exchange.1).Shows (registries n) exchange.2)
            session.answered moments := by
  obtain ⟨events, a, hevents, hc⟩ :=
    (tracks_init (reporting (services datagrams)) (start reports)).run hrun
  have hhandled := (receiving_of_run (receiving_start datagrams reports) hevents).handled
  refine ⟨fun n ↦ left (a.history.take n), fun m n hmn ↦ ?_, ?_⟩
  · exact grows_of_prefix (List.take_prefix_take_left hmn) (List.take_prefix n a.history) hhandled
  · intro i server clients session hserve hdone
    have hlocal : Local.calling (start reports (.reporter i)) =
        .calling (.inl (serve { server := server } clients)) :=
      congrArg (fun p ↦ Local.calling (Sum.inl p)) hserve
    obtain ⟨exchanges, hanswered, moments, hsorted, -, hshows⟩ :=
      exists_moments (written_of_run hevents) hc.linearizes hlocal hdone
    rw [List.nil_append] at hanswered
    rw [hanswered]
    exact ⟨moments, hsorted, hshows⟩

/-- Telemetry of sensor 1, over and over. -/
def telemetryOfOne (_ : ℕ) : ByteString := [1, 0, 0, 0, 1] ++ List.replicate 18 0

/-- One client asks for the statistics twice. -/
def askingTwice (_ : Unit) : Report Session :=
  serve {} [(TcpServer.wholeWrites, [ascii "stats", ascii "stats"])]

/-- The sensor's packet is handled between the two requests. -/
def betweenRequests : List (Thread Unit × UInt64) :=
  List.replicate 12 (.reporter (), 5) ++ List.replicate 7 (.receiver, 6) ++
    List.replicate 12 (.reporter (), 7)

def exchanged {κ : Type} : CriticalSections.Position Gateway UInt64 ByteString Result
    (Local (Report Session ⊕ κ)) → ℕ
  | .outside (.calling (.inl (.done session))) => session.answered.length
  | _ => 0

theorem replies_in_order_around_packet :
    ∃ c : Config (Report Session ⊕ Service) (Thread Unit),
      Runs.run (CriticalSections.step (action (reporting (services telemetryOfOne))))
        (init (start askingTwice)) betweenRequests = some c ∧
      exchanged (c.position (.reporter ())) = 2 ∧
      ∃ registries : ℕ → Registry,
        (∀ m n, m ≤ n → Grows telemetryOfOne (registries m) (registries n)) ∧
        ∀ i server clients session, askingTwice i = serve { server := server } clients →
          c.position (.reporter i) = .outside (.calling (.inl (.done session))) →
          ∃ moments : List ℕ, moments.Pairwise (· ≤ ·) ∧
            List.Forall₂ (fun exchange n ↦ (command exchange.1).Shows (registries n) exchange.2)
              session.answered moments := by
  have hrun : ((Runs.run (CriticalSections.step (action (reporting (services telemetryOfOne))))
      (init (start askingTwice)) betweenRequests).map fun c ↦
        exchanged (c.position (.reporter ()))) = some 2 := by decide +kernel
  obtain ⟨c, hc, hexchanged⟩ := Option.map_eq_some_iff.mp hrun
  exact ⟨c, hc, hexchanged, replies_in_order hc⟩

omit [DecidableEq ι] in
theorem sensors_eq_left {program : Program (Report β ⊕ Service)}
    {c : Config (Report β ⊕ Service) (Thread ι)} {a : Calls (Report β ⊕ Service) (Thread ι)}
    (hc : Linearizes program c a) (hfree : c.owner = none) :
    c.shared.sensors = left a.history := by
  rw [(hc.free hfree).shared]
  rfl

/-- Requests that come after a moment are answered from a registry at least
as recent as that of the moment, and no more recent than the one at the end. -/
theorem replies_fresh {reports : ι → Report Session} {pre post : List (Thread ι × UInt64)}
    {c c' : Config (Report Session ⊕ Service) (Thread ι)}
    (hpre : Runs.run (CriticalSections.step (action (reporting (services datagrams))))
      (init (start reports)) pre = some c)
    (hpost : Runs.run (CriticalSections.step (action (reporting (services datagrams)))) c post =
      some c') (hfree : c.owner = none) (hfree' : c'.owner = none) {i : ι}
    {session session' : Session} {clients : List (TcpServer.ClientSocket × List ByteString)}
    (hserve : c.position (.reporter i) = .outside (.calling (.inl (serve session clients))))
    (hdone : c'.position (.reporter i) = .outside (.calling (.inl (.done session')))) :
    ∃ exchanges, session'.answered = session.answered ++ exchanges ∧
      ∀ exchange ∈ exchanges, ∃ sensors, Grows datagrams c.shared.sensors sensors ∧
        Grows datagrams sensors c'.shared.sensors ∧
        (command exchange.1).Shows sensors exchange.2 := by
  obtain ⟨events, a, hevents, hc⟩ :=
    (tracks_init (reporting (services datagrams)) (start reports)).run hpre
  obtain ⟨later, a', hlater, hc'⟩ := hc.run hpost
  have hreceiving := receiving_of_run (receiving_start datagrams reports) hevents
  have hhandled := (receiving_of_run hreceiving hlater).handled
  have hwritten := written_of_run hlater
  obtain ⟨exchanges, hanswered, moments, -, hsince, hshows⟩ :=
    exists_moments hwritten hc'.linearizes (hc.linearizes.outside _ _ hserve) hdone
  refine ⟨exchanges, hanswered, fun exchange hexchange ↦ ?_⟩
  obtain ⟨n, hn, hshown⟩ := exists_of_forall₂ hshows hexchange
  obtain ⟨more, hmore, -⟩ := hwritten
  refine ⟨left (a'.history.take n), ?_, ?_, hshown⟩
  · rw [sensors_eq_left hc.linearizes hfree]
    refine grows_of_prefix ?_ (List.take_prefix n a'.history) hhandled
    rw [hmore, List.take_append, List.take_of_length_le (hsince n hn)]
    exact List.prefix_append a.history _
  · rw [sensors_eq_left hc'.linearizes hfree']
    exact grows_of_prefix (List.take_prefix n a'.history) List.prefix_rfl hhandled

theorem replies_fresh_after_packet :
    ∃ c c' : Config (Report Session ⊕ Service) (Thread Unit),
      Runs.run (CriticalSections.step (action (reporting (services telemetryOfOne))))
        (init (start askingTwice)) (List.replicate 7 (.receiver, 5)) = some c ∧
      Runs.run (CriticalSections.step (action (reporting (services telemetryOfOne)))) c
        (List.replicate 24 (.reporter (), 6)) = some c' ∧
      exchanged (c'.position (.reporter ())) = 2 ∧
      ∀ session', c'.position (.reporter ()) = .outside (.calling (.inl (.done session'))) →
        ∃ exchanges, session'.answered = [] ++ exchanges ∧
          ∀ exchange ∈ exchanges, ∃ sensors, Grows telemetryOfOne c.shared.sensors sensors ∧
            Grows telemetryOfOne sensors c'.shared.sensors ∧
            (command exchange.1).Shows sensors exchange.2 := by
  have hpre : ∃ c : Config (Report Session ⊕ Service) (Thread Unit),
      Runs.run (CriticalSections.step (action (reporting (services telemetryOfOne))))
        (init (start askingTwice)) (List.replicate 7 (.receiver, 5)) = some c ∧
      c.owner = none ∧
      c.position (.reporter ()) = .outside (.calling (.inl (askingTwice ()))) := ⟨_, rfl, rfl, rfl⟩
  have hboth : ((Runs.run (CriticalSections.step (action (reporting (services telemetryOfOne))))
      (init (start askingTwice)) (List.replicate 7 (.receiver, 5) ++
        List.replicate 24 (.reporter (), 6))).map fun c ↦
      (c.owner.isNone, exchanged (c.position (.reporter ())))) = some (true, 2) := by
    decide +kernel
  obtain ⟨c, hc, hfree, hserve⟩ := hpre
  obtain ⟨c', hc', hexchanged⟩ := Option.map_eq_some_iff.mp hboth
  obtain ⟨hfree', hexchanged⟩ := Prod.mk.inj hexchanged
  obtain ⟨d, hd, hpost⟩ := Runs.run_append_eq_some.mp hc'
  cases hc.symm.trans hd
  exact ⟨c, c', hc, hpost, hexchanged, fun session' hdone ↦
    replies_fresh hc hpost hfree (Option.isNone_iff_eq_none.mp hfree') hserve hdone⟩

end SmartSensorNetwork.MonotonicReads
