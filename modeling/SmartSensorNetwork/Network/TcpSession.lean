import SmartSensorNetwork.Lib.PrefixFree
import SmartSensorNetwork.Network.TcpServer

/-!
# What a client session answers

A request asks one of eight kinds of query. The answers to different queries
differ before either of them ends, so the bytes of a session tell which
queries it answered, and in which order.
-/

namespace SmartSensorNetwork.TcpServer

open CppStd

inductive Query (sensors : Registry) where
  | help
  | list
  | health
  | stats
  | details (id : UInt32) (registered : id ∈ sensors)
  | notFound
  | invalid
  | unknown

def Query.sensor (sensors : Registry) (id : UInt32) : Query sensors :=
  if h : id ∈ sensors then .details id h else .notFound

/-- The query that the text of a request amounts to. -/
def query (sensors : Registry) (request : ByteString) : Query sensors :=
  let req := normalize request
  if req = ascii "help" then .help
  else if req = ascii "list" then .list
  else if req = ascii "health" then .health
  else if req = ascii "stats" then .stats
  else if (ascii "get ").isPrefixOf req then
    match parseId req with
    | .ok id => .sensor sensors id
    | .error _ => .invalid
  else .unknown

def Query.answer (i : Instant) : Query i.gateway.sensors → ByteString
  | .help => Monitor.help
  | .list => Monitor.sensorList.eval i
  | .health => Monitor.healthSummary.eval i
  | .stats => Monitor.stats.eval i
  | .details id registered =>
      Monitor.detailsText id (i.gateway.sensors.valueAt id registered)
        (i.gateway.getSecondsSinceLastHeartbeat i.clock id)
  | .notFound => Monitor.sensorNotFound
  | .invalid => invalidSensorId
  | .unknown => unknownCommand

theorem sensorDetails_eval (i : Instant) (id : UInt32) :
    (Monitor.sensorDetails id).eval i = (Query.sensor i.gateway.sensors id).answer i := by
  by_cases h : id ∈ i.gateway.sensors
  · have hlookup := AList.lookup_eq_some_valueAt h
    simp [Monitor.sensorDetails, Monitor.getSensors, Gateway.getSensors, Query.sensor, h, hlookup,
      Query.answer, Monitor.getSecondsSinceLastHeartbeat]
  · have hlookup : i.gateway.sensors.lookup id = none := AList.lookup_eq_none.mpr h
    simp [Monitor.sensorDetails, Monitor.getSensors, Gateway.getSensors, Query.sensor, h, hlookup,
      Query.answer]

theorem processRequest_fst (i : Instant) (request : ByteString) (server : TcpServer) :
    ((processRequest i request).run server).1 =
      (query i.gateway.sensors request).answer i := by
  unfold processRequest query
  simp only [StateT.run_bind]
  split_ifs
  · rfl
  · rfl
  · rfl
  · rfl
  · cases parseId (normalize request) with
    | ok id =>
        simp only
        rw [← sensorDetails_eval]
        split_ifs <;> rfl
    | error e => rfl
  · rfl

/-! ## Answers to different queries -/

inductive Kind where
  | help
  | list
  | health
  | stats
  | details
  | notFound
  | invalid
  | unknown
  deriving DecidableEq

def Query.kind {sensors : Registry} : Query sensors → Kind
  | .help => .help
  | .list => .list
  | .health => .health
  | .stats => .stats
  | .details _ _ => .details
  | .notFound => .notFound
  | .invalid => .invalid
  | .unknown => .unknown

def Kind.opening : Kind → ByteString
  | .help => ascii "\nAvailable co"
  | .list => ascii "\n=== SENSOR L"
  | .health => ascii "\n=== HEALTH S"
  | .stats => ascii "\n=== SYSTEM S"
  | .details => ascii "\n=== SENSOR I"
  | .notFound => ascii "sensor not fo"
  | .invalid => ascii "invalid senso"
  | .unknown => ascii "unknown comma"

theorem length_opening (k : Kind) : k.opening.length = 13 := by
  cases k <;> rfl

def Kind.all : List Kind :=
  [.help, .list, .health, .stats, .details, .notFound, .invalid, .unknown]

theorem find_opening (k : Kind) : Kind.all.find? (fun j ↦ j.opening = k.opening) = some k := by
  cases k <;> rfl

theorem opening_injective : Function.Injective Kind.opening := by
  intro a b h
  have ha := find_opening a
  rw [h, find_opening b] at ha
  exact (Option.some.inj ha).symm

theorem opening_prefix (i : Instant) (q : Query i.gateway.sensors) :
    q.kind.opening <+: q.answer i := by
  cases q with
  | list =>
      have hlist : ∃ rows, Monitor.sensorList.eval i = Monitor.listText rows := by
        simp [Monitor.sensorList]
      obtain ⟨rows, hrows⟩ := hlist
      have hopening : ascii "\n=== SENSOR L" <+: ascii "\n=== SENSOR LIST ===\n\n" := by decide
      rw [Query.answer, hrows, Monitor.listText]
      simp only [List.append_assoc]
      exact hopening.trans (List.prefix_append _ _)
  | health =>
      have hhealth : ∃ counts sensors,
          Monitor.healthSummary.eval i = Monitor.healthText counts sensors := by
        simp [Monitor.healthSummary]
      obtain ⟨counts, sensors, htext⟩ := hhealth
      have hopening : ascii "\n=== HEALTH S" <+: ascii "\n=== HEALTH SUMMARY ===\n\n" := by
        decide
      rw [Query.answer, htext, Monitor.healthText]
      simp only [List.append_assoc]
      exact hopening.trans (List.prefix_append _ _)
  | stats =>
      have hstats : ∃ stats, Monitor.stats.eval i = Monitor.statsText stats := by
        simp [Monitor.stats]
      obtain ⟨stats, htext⟩ := hstats
      have hopening : ascii "\n=== SYSTEM S" <+: ascii "\n=== SYSTEM STATISTICS ===\n\n" := by
        decide
      rw [Query.answer, htext, Monitor.statsText]
      simp only [List.append_assoc]
      exact hopening.trans (List.prefix_append _ _)
  | details id registered =>
      have hopening : ascii "\n=== SENSOR I" <+: ascii "\n=== SENSOR INFORMATION ===\n\n" := by
        decide
      rw [Query.answer, Monitor.detailsText]
      simp only [List.append_assoc]
      exact hopening.trans (List.prefix_append _ _)
  | help =>
      have hopening : ascii "\nAvailable co" <+: Monitor.help := by decide
      exact hopening
  | notFound =>
      have hopening : ascii "sensor not fo" <+: Monitor.sensorNotFound := by decide
      exact hopening
  | invalid =>
      have hopening : ascii "invalid senso" <+: invalidSensorId := by decide
      exact hopening
  | unknown =>
      have hopening : ascii "unknown comma" <+: unknownCommand := by decide
      exact hopening

theorem take_answer (i : Instant) (q : Query i.gateway.sensors) (s : ByteString) :
    (q.answer i ++ s).take 13 = q.kind.opening := by
  obtain ⟨rest, hrest⟩ := opening_prefix i q
  rw [← hrest, List.append_assoc]
  exact List.take_left' (length_opening q.kind)

/-- The id line of a report tells the sensor. -/
theorem detailsText_append_inj {a b : UInt32} {infoA infoB : SensorInfo}
    {secondsA secondsB : UInt64} {s t : ByteString}
    (h : Monitor.detailsText a infoA secondsA ++ s = Monitor.detailsText b infoB secondsB ++ t) :
    a = b := by
  have hlength : ∀ type : MessageType, type.to_string.length = 9 := by
    intro type
    unfold MessageType.to_string
    split_ifs <;> rfl
  have hlf : ∀ rest : ByteString, ascii "\n" ++ rest = 10 :: rest := fun _ ↦ rfl
  simp only [Monitor.detailsText, Monitor.headerText, List.append_assoc,
    List.append_cancel_left_eq] at h
  have htype := (List.append_inj h (by rw [hlength, hlength])).2
  simp only [hlf, List.cons.injEq, true_and, List.append_cancel_left_eq] at htype
  have hnumeral := line_eq_of_append_eq (lf_not_mem_to_string _) (lf_not_mem_to_string _) htype
  exact UInt32.toNat_inj.mp (to_string_injective hnumeral)

theorem answer_prefixFree (i : Instant) :
    PrefixFree (fun q : Query i.gateway.sensors ↦ q.answer i) := by
  intro a b s t h
  have hkind : a.kind = b.kind := by
    apply opening_injective
    rw [← take_answer i a s, h, take_answer]
  cases a with
  | details id registered =>
      cases b with
      | details other registered' =>
          have hid := detailsText_append_inj h
          subst hid
          rfl
      | _ => simp [Query.kind] at hkind
  | _ => cases b <;> simp_all [Query.kind]

theorem answer_ne_nil (i : Instant) (q : Query i.gateway.sensors) : q.answer i ≠ [] := by
  intro h
  have hopening := take_answer i q []
  rw [h] at hopening
  have hlength := length_opening q.kind
  rw [← hopening] at hlength
  cases hlength

/-! ## Sessions -/

/-- No call of `write` fails; a call may still take a part of the bytes. -/
def ClientSocket.Succeeds (socket : ClientSocket) : Prop :=
  ∀ i n, 0 < n → 0 < socket.write i n

theorem sendResponse_of_succeeds {socket : ClientSocket} (hsocket : socket.Succeeds)
    (out : Output) (rest : ByteString) :
    (sendResponse socket out rest).2 = true ∧
      (sendResponse socket out rest).1.bytes = out.bytes ++ rest := by
  induction out, rest using sendResponse.induct socket with
  | case1 out => simp [sendResponse]
  | case2 out rest hrest sent hsent =>
      have hpos := hsocket out.writes rest.length (List.length_pos_iff.mpr hrest)
      exact absurd hsent (not_le.mpr hpos)
  | case3 out rest hrest sent hsent ih =>
      rw [sendResponse, dif_neg hrest, dif_neg hsent]
      refine ⟨ih.1, ih.2.trans ?_⟩
      rw [List.append_assoc, List.take_append_drop]

theorem handleClient_cons_of_sent {socket : ClientSocket} {server : TcpServer} {out : Output}
    {i : Instant} {request : ByteString} {reads : List (Instant × ByteString)}
    (hrequest : request ≠ [])
    (hsent : (sendResponse socket out ((processRequest i request).run server).1).2 = true) :
    handleClient socket server out ((i, request) :: reads) =
      handleClient socket ((processRequest i request).run server).2
        (sendResponse socket out ((processRequest i request).run server).1).1 reads := by
  rw [handleClient, if_neg hrequest]
  rcases hrun : (processRequest i request).run server with ⟨response, server'⟩
  rw [hrun] at hsent
  rcases hsend : sendResponse socket out response with ⟨out', sent⟩
  rw [hsend] at hsent
  cases hsent
  simp only [hsend]

theorem handleClient_of_succeeds {socket : ClientSocket} (hsocket : socket.Succeeds)
    {reads : List (Instant × ByteString)} (hreads : ∀ r ∈ reads, r.2 ≠ [])
    (server : TcpServer) (out : Output) :
    (handleClient socket server out reads).2.bytes =
      out.bytes ++ (reads.map fun r ↦ (query r.1.gateway.sensors r.2).answer r.1).flatten := by
  induction reads generalizing server out with
  | nil => simp [handleClient]
  | cons r reads ih =>
      obtain ⟨i, request⟩ := r
      have hrequest : request ≠ [] := hreads (i, request) List.mem_cons_self
      have hresponse := processRequest_fst i request server
      obtain ⟨hsent, hbytes⟩ := sendResponse_of_succeeds hsocket out
        ((processRequest i request).run server).1
      have hrest := ih (fun r hr ↦ hreads r (List.mem_cons_of_mem _ hr))
        ((processRequest i request).run server).2
        (sendResponse socket out ((processRequest i request).run server).1).1
      rw [handleClient_cons_of_sent hrequest hsent, hrest, hbytes, hresponse, List.map_cons,
        List.flatten_cons, List.append_assoc]

/-- The chunks are what successive reads may return of a stream of lines. -/
structure Segmentation (lines chunks : List ByteString) : Prop where
  lineFeedFree : ∀ l ∈ lines, 10 ∉ l
  nonempty : ∀ c ∈ chunks, c ≠ []
  fits : ∀ c ∈ chunks, c.length ≤ maxPacketSize
  splits : chunks.flatten = unlines lines

def AnswersLines (socket : ClientSocket) (server : TcpServer) (i : Instant)
    (lines chunks : List ByteString) : Prop :=
  (handleClient socket server {} (chunks.map fun c ↦ (i, c))).2.bytes =
    (lines.map fun l ↦ ((processRequest i (l ++ [10])).run server).1).flatten

/-- The stream is answered line by line exactly when the chunks ask the same
queries as the lines, one for one. -/
theorem answersLines_iff (socket : ClientSocket) (server : TcpServer) (i : Instant)
    (lines chunks : List ByteString) (hsocket : socket.Succeeds)
    (hchunks : Segmentation lines chunks) :
    AnswersLines socket server i lines chunks ↔
      chunks.map (query i.gateway.sensors) =
        lines.map fun l ↦ query i.gateway.sensors (l ++ [10]) := by
  have hreads : ∀ r ∈ chunks.map fun c ↦ (i, c), r.2 ≠ [] := by
    intro r hr
    obtain ⟨c, hc, rfl⟩ := List.mem_map.mp hr
    exact hchunks.nonempty c hc
  have hsession := handleClient_of_succeeds hsocket hreads server {}
  have hinjective := (answer_prefixFree i).flatten_map_injective (answer_ne_nil i)
  rw [AnswersLines, hsession]
  simp only [processRequest_fst, List.map_map, Function.comp_def, List.nil_append]
  rw [← hinjective.eq_iff]
  simp only [List.map_map, Function.comp_def]

def wholeWrites : ClientSocket := ⟨fun _ n ↦ n, fun _ _ ↦ le_refl _⟩

/-- One line in two reads, a carriage return and a line feed split apart. -/
theorem answersLines_iff_split_line :
    AnswersLines wholeWrites {} ⟨{}, 0⟩ [ascii "stats\r"] [ascii "stats\r", [10]] ↔
      [ascii "stats\r", [10]].map (query ∅) =
        [ascii "stats\r"].map fun l ↦ query ∅ (l ++ [10]) :=
  answersLines_iff wholeWrites {} ⟨{}, 0⟩ _ _ (fun _ n hn ↦ by simpa [wholeWrites] using hn)
    ⟨by decide, by decide, by decide, by decide⟩

/-- Two commands in one read are answered as one unknown command. -/
theorem two_commands_in_one_read :
    Segmentation [ascii "help", ascii "list"] [ascii "help\nlist\n"] ∧
      ¬ AnswersLines wholeWrites {} ⟨{}, 0⟩ [ascii "help", ascii "list"]
        [ascii "help\nlist\n"] := by
  refine ⟨⟨by decide, by decide, by decide, by decide⟩, fun h ↦ ?_⟩
  have hreads : ∀ r ∈ [((⟨{}, 0⟩ : Instant), ascii "help\nlist\n")], r.2 ≠ [] := by decide
  have hsocket : wholeWrites.Succeeds := fun _ n hn ↦ by simpa [wholeWrites] using hn
  have hsession := handleClient_of_succeeds hsocket hreads {} {}
  have hline := congrArg (List.take 13) (hsession.symm.trans h)
  revert hline
  decide

end SmartSensorNetwork.TcpServer
