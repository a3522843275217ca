import SmartSensorNetwork.Monitor.Reports
import SmartSensorNetwork.Monitor.Rows
import SmartSensorNetwork.Network.TcpServer

/-!
# The TCP server among other threads

The server answers one request after the other, and one client after the
other, by calls of the Gateway; other threads call it in between. Each reply
shows the registry as it was at some moment while the request was answered.
-/

namespace SmartSensorNetwork.TcpServer.Threads

open CppStd Gateway Gateway.Threads

def log (msg : ByteString) : StateT TcpServer Report Unit :=
  modify fun server ↦ { server with logger := server.logger ++ [msg] }

/-- The size of the registry and the details come from two copies of it. -/
def processRequest (request : ByteString) : StateT TcpServer Report ByteString := do
  let req := normalize request
  modify fun server ↦ { server with lastCommand := req }
  log (ascii "[TCP] Command: " ++ req)
  if req = ascii "help" then
    return Monitor.help
  else if req = ascii "list" then
    Report.sensorList
  else if req = ascii "health" then
    Report.healthSummary
  else if req = ascii "stats" then
    Report.stats
  else if (ascii "get ").isPrefixOf req then
    match parseId req with
    | .ok id =>
        let sensors ← Report.getSensors
        if sensors.size < id.toNat then
          log (ascii "[TCP] Sensor " ++ CppStd.to_string id.toNat ++ ascii " not found")
        Report.sensorDetails id
    | .error _ =>
        log (ascii "[TCP] Invalid sensor id")
        return invalidSensorId
  else
    log (ascii "[TCP] Unknown command: " ++ req)
    return unknownCommand

/-- `answered` lists the requests and their responses so far; the program has
no such variable. -/
structure Session where
  server : TcpServer := {}
  out : Output := {}
  answered : List (ByteString × ByteString) := []

def handleClient (socket : ClientSocket) (session : Session) : List ByteString → Report Session
  | [] => return session
  | request :: reads =>
      if request = [] then return session
      else do
        let (response, server) ← (processRequest request).run session.server
        let (out, sent) := sendResponse socket session.out response
        let answered := session.answered ++ [(request, response)]
        if sent then handleClient socket ⟨server, out, answered⟩ reads
        else
          let server := { server with
            logger := server.logger ++ [ascii "[TCP] Failed to send response"] }
          return ⟨server, out, answered⟩

/-- One client after the other, by what each `read` returns. -/
def serve (session : Session) : List (ClientSocket × List ByteString) → Report Session
  | [] => return session
  | (socket, reads) :: clients => do
      let server := { session.server with
        logger := session.server.logger ++ [ascii "[TCP] Client connected"]
        clientConnected := true }
      let session ← handleClient socket { session with server := server, out := {} } reads
      let server := { session.server with
        clientConnected := false
        logger := session.server.logger ++ [ascii "[TCP] Client disconnected"] }
      serve { session with server := server } clients

/-! ## Without concurrent change -/

theorem eval_lift (i : Instant) {α : Type} (p : Report α) (server : TcpServer) :
    (((liftM p : StateT TcpServer Report α).run server).reads answer).eval i =
      ((p.reads answer).eval i, server) := by
  simp

theorem eval_processRequest (i : Instant) (request : ByteString) (server : TcpServer) :
    (((processRequest request).run server).reads answer).eval i =
      (TcpServer.processRequest i request).run server := by
  unfold processRequest TcpServer.processRequest
  simp only [StateT.run_bind]
  split_ifs
  · rfl
  · exact (eval_lift i Report.sensorList _).trans (by rw [Report.reads_sensorList]; rfl)
  · exact (eval_lift i Report.healthSummary _).trans (by rw [Report.reads_healthSummary]; rfl)
  · exact (eval_lift i Report.stats _).trans (by rw [Report.reads_stats]; rfl)
  · cases parseId (normalize request) with
    | ok id =>
        by_cases hsize : i.gateway.getSensors.size < id.toNat
        · simp [log, TcpServer.log, hsize, Report.reads_sensorDetails, Monitor.getSensors]
          rfl
        · simp [log, TcpServer.log, hsize, Report.reads_sensorDetails, Monitor.getSensors]
          rfl
    | error e => rfl
  · rfl

theorem eval_handleClient (i : Instant) (socket : ClientSocket) (session : Session)
    (reads : List ByteString) :
    let session' := ((handleClient socket session reads).reads answer).eval i
    (session'.server, session'.out) =
      TcpServer.handleClient socket session.server session.out
        (reads.map fun request ↦ (i, request)) := by
  induction reads generalizing session with
  | nil => rfl
  | cons request reads ih =>
      by_cases hend : request = []
      · simp [handleClient, TcpServer.handleClient, hend]
      · have hprocess := eval_processRequest i request session.server
        simp only [handleClient, TcpServer.handleClient, List.map_cons, if_neg hend,
          Client.reads_bind, Reads.eval_bind, hprocess]
        obtain ⟨response, server⟩ := (TcpServer.processRequest i request).run session.server
        cases hsent : sendResponse socket session.out response with
        | mk out sent =>
            cases sent with
            | true => simpa only [hsent, if_true] using ih ⟨server, out, _⟩
            | false =>
                simp only [hsent, Bool.false_eq_true, if_false]
                rfl

/-! ## What a reply shows -/

inductive Command where
  | help
  | list
  | health
  | stats
  | get (id : UInt32)
  | invalid
  | unknown

def command (request : ByteString) : Command :=
  let req := normalize request
  if req = ascii "help" then .help
  else if req = ascii "list" then .list
  else if req = ascii "health" then .health
  else if req = ascii "stats" then .stats
  else if (ascii "get ").isPrefixOf req then
    match parseId req with
    | .ok id => .get id
    | .error _ => .invalid
  else .unknown

/-- The reply prints this registry. Ages, counts and packet numbers are read
later and are left open. -/
def Command.Shows (sensors : Registry) (reply : ByteString) : Command → Prop
  | .help => reply = Monitor.help
  | .list => ∃ rows : List Monitor.Row, reply = Monitor.listText (rows.map Monitor.Row.text) ∧
      rows.map Monitor.Row.id = sensors.keys.mergeSort ∧
      ∀ row ∈ rows, sensors.lookup row.id = some row.info
  | .health => ∃ healthCount, reply = Monitor.healthText healthCount sensors
  | .stats => ∃ stats : SystemStats, reply = Monitor.statsText stats ∧
      stats.totalSensors = sensors.size
  | .get id => ∃ seconds, reply =
      Monitor.Row.details ((sensors.lookup id).map fun info ↦ ⟨id, info, seconds⟩)
  | .invalid => reply = invalidSensorId
  | .unknown => reply = unknownCommand

/-- The registry that some calls leave. -/
def left (calls : List (Call × UInt64)) : Registry := (({} : Gateway).run calls).sensors

theorem firstCopy_eq_left (past : List (Call × UInt64)) (gaps : List (List (Call × UInt64))) :
    Monitor.firstCopy (past.foldl Instant.next fresh) gaps = left (past ++ gaps.headD []) := by
  rw [Monitor.firstCopy, Monitor.gateway_foldl_next, left, Gateway.run, Gateway.run, Gateway.run,
    List.foldl_append]
  rfl

theorem displays_sensorList :
    Monitor.sensorList.Displays Instant.next fresh fun reply seen ↦
      Command.list.Shows (left seen) reply := by
  apply Reads.displays_first
  intro past gaps
  have hcopy : (Monitor.copied (past.foldl Instant.next fresh) gaps).gateway.sensors =
      left (past ++ gaps.headD []) := by
    rw [Monitor.copied, Monitor.gateway_foldl_next]
    exact firstCopy_eq_left past gaps
  refine ⟨Monitor.rows.exec Instant.next (past.foldl Instant.next fresh) gaps,
    Monitor.sensorList_exec _ _, ?_, fun row hrow ↦ ?_⟩
  · rw [Monitor.map_id_rows, hcopy]
  · obtain ⟨k, hk⟩ := List.getElem?_of_mem hrow
    rw [← hcopy]
    exact (Monitor.row_faithful _ _ hk).1

theorem displays_healthSummary :
    Monitor.healthSummary.Displays Instant.next fresh fun reply seen ↦
      Command.health.Shows (left seen) reply := by
  apply Reads.displays_first
  intro past gaps
  rw [← firstCopy_eq_left]
  exact ⟨_, Monitor.healthSummary_exec _ _⟩

theorem displays_stats :
    Monitor.stats.Displays Instant.next fresh fun reply seen ↦
      Command.stats.Shows (left seen) reply := by
  have hstats : Monitor.getStats.Displays Instant.next fresh fun stats seen ↦
      stats.totalSensors = (left seen).size := by
    apply Reads.displays_first
    intro past gaps
    rw [← firstCopy_eq_left]
    exact (Monitor.getStats_exec _ _).1
  exact hstats.map fun stats _ h ↦ ⟨stats, rfl, h⟩

theorem displays_sensorDetails (id : UInt32) :
    (Monitor.sensorDetails id).Displays Instant.next fresh fun reply seen ↦
      (Command.get id).Shows (left seen) reply := by
  apply Reads.displays_first
  intro past gaps
  have hcopy : ((gaps.headD []).foldl Instant.next (past.foldl Instant.next fresh)).gateway.sensors =
      left (past ++ gaps.headD []) := by
    rw [Monitor.gateway_foldl_next]
    exact firstCopy_eq_left past gaps
  rw [Reads.exec_get_bind, Gateway.getSensors, hcopy]
  cases hlookup : (left (past ++ gaps.headD [])).lookup id with
  | none => exact ⟨0, by rw [hlookup]; rfl⟩
  | some info =>
      simp only [Command.Shows, hlookup]
      exact ⟨_, Reads.exec_get_bind _ _ _ _ _⟩

theorem reads_lift {α : Type} (p : Report α) (server : TcpServer) :
    ((liftM p : StateT TcpServer Report α).run server).reads answer =
      (fun a ↦ (a, server)) <$> p.reads answer := by
  rw [← Client.reads_map]
  rfl

theorem displays_lift {p : Report ByteString} {R : ByteString → List (Call × UInt64) → Prop}
    (h : (p.reads answer).Displays Instant.next fresh R) (server : TcpServer) :
    (((liftM p : StateT TcpServer Report ByteString).run server).reads answer).Displays
      Instant.next fresh fun reply seen ↦ R reply.1 seen := by
  rw [reads_lift]
  exact h.map fun _ _ h ↦ h

theorem displays_processRequest (request : ByteString) (server : TcpServer) :
    (((processRequest request).run server).reads answer).Displays Instant.next fresh
      fun reply seen ↦ (command request).Shows (left seen) reply.1 := by
  unfold processRequest command
  simp only [StateT.run_bind]
  split_ifs
  · exact Reads.displays_pure fun _ ↦ rfl
  · exact displays_lift (Report.reads_sensorList ▸ displays_sensorList) _
  · exact displays_lift (Report.reads_healthSummary ▸ displays_healthSummary) _
  · exact displays_lift (Report.reads_stats ▸ displays_stats) _
  · cases parseId (normalize request) with
    | ok id =>
        have hdetails := Report.reads_sensorDetails id ▸ displays_sensorDetails id
        simp only [StateT.run_bind, Client.reads_bind]
        apply Reads.Displays.after
        rintro ⟨_, server⟩
        apply Reads.Displays.after
        rintro ⟨_, server⟩
        apply Reads.Displays.after
        rintro ⟨sensors, server⟩
        split_ifs
        · exact displays_lift hdetails _
        · exact displays_lift hdetails _
    | error e => exact Reads.displays_pure fun _ ↦ rfl
  · exact Reads.displays_pure fun _ ↦ rfl

/-! ## Sessions -/

/-- Each reply shows the registry of a moment, and the moments are in the
order of the replies. -/
def Answered (exchanges : List (ByteString × ByteString)) (past upto : List (Call × UInt64)) :
    Prop :=
  ∃ moments, List.Forall₂ (fun exchange seen ↦
      (command exchange.1).Shows (left seen) exchange.2) exchanges moments ∧
    (past :: moments).Pairwise (· <+: ·) ∧ ∀ seen ∈ moments, seen <+: upto

theorem answered_nil (past upto : List (Call × UInt64)) : Answered [] past upto :=
  ⟨[], .nil, by simp, by simp⟩

theorem Answered.append {exchanges more : List (ByteString × ByteString)}
    {past mid upto : List (Call × UInt64)} (h : Answered exchanges past mid)
    (hmore : Answered more mid upto) (hpast : past <+: mid) (hmid : mid <+: upto) :
    Answered (exchanges ++ more) past upto := by
  obtain ⟨moments, hshows, hchain, hupto⟩ := h
  obtain ⟨moments', hshows', hchain', hupto'⟩ := hmore
  have hlater := List.pairwise_cons.mp hchain'
  refine ⟨moments ++ moments', List.rel_append hshows hshows', ?_, ?_⟩
  · rw [← List.cons_append, List.pairwise_append]
    refine ⟨hchain, hlater.2, fun seen hseen seen' hseen' ↦ ?_⟩
    apply List.IsPrefix.trans _ (hlater.1 seen' hseen')
    rcases List.mem_cons.mp hseen with rfl | hseen
    · exact hpast
    · exact hupto seen hseen
  · intro seen hseen
    rcases List.mem_append.mp hseen with hseen | hseen
    · exact (hupto seen hseen).trans hmid
    · exact hupto' seen hseen

/-- The session goes on from the exchanges that it has made. -/
def Continues (session session' : Session) (past upto : List (Call × UInt64)) : Prop :=
  ∃ exchanges, session'.answered = session.answered ++ exchanges ∧ Answered exchanges past upto

theorem Continues.refl {session session' : Session} (h : session'.answered = session.answered)
    (past upto : List (Call × UInt64)) : Continues session session' past upto :=
  ⟨[], by rw [h, List.append_nil], answered_nil past upto⟩

theorem Continues.trans {session session' session'' : Session}
    {past mid upto : List (Call × UInt64)} (h : Continues session session' past mid)
    (h' : Continues session' session'' mid upto) (hpast : past <+: mid) (hmid : mid <+: upto) :
    Continues session session'' past upto := by
  obtain ⟨exchanges, hanswered, hmoments⟩ := h
  obtain ⟨more, hanswered', hmoments'⟩ := h'
  refine ⟨exchanges ++ more, ?_, hmoments.append hmoments' hpast hmid⟩
  rw [hanswered', hanswered, List.append_assoc]

theorem continues_of_reply {request response : ByteString} {session session' : Session}
    {past seen upto : List (Call × UInt64)}
    (hanswered : session'.answered = session.answered ++ [(request, response)])
    (hshows : (command request).Shows (left seen) response) (hpast : past <+: seen)
    (hseen : seen <+: upto) : Continues session session' past upto :=
  ⟨[(request, response)], hanswered, [seen], .cons hshows .nil, by simpa using hpast,
    by simpa using hseen⟩

theorem handleClient_spans (socket : ClientSocket) (session : Session) (reads : List ByteString) :
    ((handleClient socket session reads).reads answer).Spans Instant.next fresh
      (Continues session) := by
  induction reads generalizing session with
  | nil => exact Reads.spans_pure fun past ↦ Continues.refl rfl past past
  | cons request reads ih =>
      rw [handleClient]
      split_ifs with hend
      · exact Reads.spans_pure fun past ↦ Continues.refl rfl past past
      · rw [Client.reads_bind]
        refine (displays_processRequest request session.server).bind
          (fun reply ↦ (?_ : Reads.Spans Instant.next fresh _ (Continues
            { session with answered := session.answered ++ [(request, reply.1)] }))) ?_
        · simp only
          split_ifs
          · exact ih _
          · exact Reads.spans_pure fun past ↦ Continues.refl rfl past past
        · rintro reply session' past mid upto hpast hmid ⟨seen, hseen, hupto, hshows⟩ hcontinues
          exact (continues_of_reply rfl hshows hseen hupto).trans hcontinues hpast hmid

theorem serve_spans (session : Session) (clients : List (ClientSocket × List ByteString)) :
    ((serve session clients).reads answer).Spans Instant.next fresh (Continues session) := by
  induction clients generalizing session with
  | nil => exact Reads.spans_pure fun past ↦ Continues.refl rfl past past
  | cons client clients ih =>
      rw [serve, Client.reads_bind]
      refine (handleClient_spans client.1 _ client.2).bind (fun session' ↦ ih _) ?_
      intro session' session'' past mid upto hpast hmid h h'
      exact h.trans h' hpast hmid

end SmartSensorNetwork.TcpServer.Threads
