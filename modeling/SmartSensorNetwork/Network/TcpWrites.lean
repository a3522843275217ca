import SmartSensorNetwork.Network.TcpServer

/-!
# Partial writes

A session again, as the sequence of its calls of `read` and `write`, with the
offset that the inner loop keeps. A protocol says which sequences are right;
every session obeys it, and what the client sees follows from the protocol.
-/

namespace SmartSensorNetwork.TcpServer

open CppStd

/-- A call that returned: `put` is a `write` that took these bytes, `fail` one
that returned at most 0, `hangUp` a `read` that returned no bytes. -/
inductive Action where
  | read (i : Instant) (request : ByteString)
  | hangUp
  | put (bytes : ByteString)
  | fail

/-- The inner loop of `handleClient`: its calls, the number of all writes after
them, and whether it sent the response to the end. -/
def sendLoop (socket : ClientSocket) (writes : ℕ) (response : ByteString) (total : ℕ) :
    List Action × ℕ × Bool :=
  if _hmore : total < response.length then
    let sent := socket.write writes (response.length - total)
    if _hsent : sent ≤ 0 then ([.fail], writes + 1, false)
    else
      let rest := sendLoop socket (writes + 1) response (total + sent.toNat)
      (.put ((response.drop total).take sent.toNat) :: rest.1, rest.2)
  else ([], writes, true)
termination_by response.length - total

def session (socket : ClientSocket) (server : TcpServer) (writes : ℕ) :
    List (Instant × ByteString) → List Action
  | [] => []
  | (i, request) :: reads =>
      if request = [] then [.hangUp]
      else
        let (response, server) := (processRequest i request).run server
        let (actions, writes, sent) := sendLoop socket writes response 0
        .read i request :: (actions ++ if sent then session socket server writes reads else [])

/-! ## What the client sees -/

def Action.bytes : Action → ByteString
  | .put bytes => bytes
  | .read _ _ | .hangUp | .fail => []

def written (actions : List Action) : ByteString := actions.flatMap Action.bytes

@[simp] theorem written_nil : written [] = [] := rfl

@[simp] theorem written_read (i : Instant) (request : ByteString) (actions : List Action) :
    written (.read i request :: actions) = written actions := rfl

@[simp] theorem written_append (actions more : List Action) :
    written (actions ++ more) = written actions ++ written more :=
  List.flatMap_append

def Action.chunk : Action → Option (Instant × ByteString)
  | .read i request => some (i, request)
  | .hangUp | .put _ | .fail => none

def chunks (actions : List Action) : List (Instant × ByteString) := actions.filterMap Action.chunk

def Action.isRead : Action → Bool
  | .read _ _ | .hangUp => true
  | .put _ | .fail => false

/-- The responses to the chunks, in order. -/
def responses (server : TcpServer) : List (Instant × ByteString) → List ByteString
  | [] => []
  | (i, request) :: reads =>
      let (response, server) := (processRequest i request).run server
      response :: responses server reads

structure WritesResponses (socket : ClientSocket) (server : TcpServer)
    (reads : List (Instant × ByteString)) : Prop where
  ends : ∀ writes response, (sendLoop socket writes response 0).1.length ≤ response.length
  chunks_prefix : chunks (session socket server 0 reads) <+: reads
  written_prefix : ∀ actions, actions <+: session socket server 0 reads →
    written actions <+: (responses server (chunks actions)).flatten
  complete : ∀ actions next, actions ++ [next] <+: session socket server 0 reads → next.isRead →
    written actions = (responses server (chunks actions)).flatten
  stops : ∀ actions, actions ++ [.fail] <+: session socket server 0 reads →
    session socket server 0 reads = actions ++ [.fail]
  handleClient_eq : (handleClient socket server {} reads).2.bytes =
    written (session socket server 0 reads)

/-! ## The protocol -/

/-- The calls that may follow when `pending` is left of the current response. -/
inductive Obeys : TcpServer → ByteString → List Action → Prop
  | stop (server : TcpServer) (pending : ByteString) : Obeys server pending []
  | hangUp (server : TcpServer) : Obeys server [] [.hangUp]
  | fail (server : TcpServer) (pending : ByteString) : Obeys server pending [.fail]
  | put (server : TcpServer) (bytes pending : ByteString) (actions : List Action)
      (rest : Obeys server pending actions) : Obeys server (bytes ++ pending) (.put bytes :: actions)
  | read (server : TcpServer) (i : Instant) (request : ByteString) (actions : List Action)
      (rest : Obeys ((processRequest i request).run server).2
        ((processRequest i request).run server).1 actions) :
      Obeys server [] (.read i request :: actions)

theorem Obeys.of_prefix {server : TcpServer} {pending : ByteString} {actions more : List Action}
    (h : Obeys server pending (actions ++ more)) : Obeys server pending actions := by
  generalize hall : actions ++ more = all at h
  induction h generalizing actions with
  | stop server pending =>
      obtain ⟨rfl, -⟩ := List.append_eq_nil_iff.mp hall
      exact .stop server pending
  | hangUp server =>
      rcases List.append_eq_singleton_iff.mp hall with ⟨rfl, -⟩ | ⟨rfl, -⟩
      · exact .stop server []
      · exact .hangUp server
  | fail server pending =>
      rcases List.append_eq_singleton_iff.mp hall with ⟨rfl, -⟩ | ⟨rfl, -⟩
      · exact .stop server pending
      · exact .fail server pending
  | put server bytes pending rest _ ih =>
      rcases List.append_eq_cons_iff.mp hall with ⟨rfl, -⟩ | ⟨actions', rfl, hrest⟩
      · exact .stop server _
      · exact .put server bytes pending actions' (ih hrest.symm)
  | read server i request rest _ ih =>
      rcases List.append_eq_cons_iff.mp hall with ⟨rfl, -⟩ | ⟨actions', rfl, hrest⟩
      · exact .stop server _
      · exact .read server i request actions' (ih hrest.symm)

theorem Obeys.written_prefix {server : TcpServer} {pending : ByteString} {actions : List Action}
    (h : Obeys server pending actions) :
    written actions <+: pending ++ (responses server (chunks actions)).flatten := by
  induction h with
  | stop server pending => exact List.nil_prefix
  | hangUp server => exact List.nil_prefix
  | fail server pending => exact List.nil_prefix
  | put server bytes pending actions _ ih =>
      rw [List.append_assoc]
      exact (List.prefix_append_right_inj bytes).mpr ih
  | read server i request actions _ ih => exact ih

theorem Obeys.complete {server : TcpServer} {pending : ByteString} {actions : List Action}
    {next : Action} (h : Obeys server pending (actions ++ [next])) (hnext : next.isRead) :
    written actions = pending ++ (responses server (chunks actions)).flatten := by
  generalize hall : actions ++ [next] = all at h
  induction h generalizing actions with
  | stop server pending => simp at hall
  | hangUp server =>
      rcases List.append_eq_cons_iff.mp hall with ⟨rfl, -⟩ | ⟨actions', -, hrest⟩
      · rfl
      · simp at hrest
  | fail server pending =>
      rcases List.append_eq_cons_iff.mp hall with ⟨-, hhead⟩ | ⟨actions', -, hrest⟩
      · cases hhead
        cases hnext
      · simp at hrest
  | put server bytes pending rest _ ih =>
      rcases List.append_eq_cons_iff.mp hall with ⟨-, hhead⟩ | ⟨actions', rfl, hrest⟩
      · cases hhead
        cases hnext
      · have hwritten := ih hrest.symm
        rw [List.append_assoc]
        exact congrArg (bytes ++ ·) hwritten
  | read server i request rest _ ih =>
      rcases List.append_eq_cons_iff.mp hall with ⟨rfl, -⟩ | ⟨actions', rfl, hrest⟩
      · rfl
      · exact ih hrest.symm

theorem Obeys.fail_last {server : TcpServer} {pending : ByteString} {actions more : List Action}
    (h : Obeys server pending (actions ++ .fail :: more)) : more = [] := by
  generalize hall : actions ++ .fail :: more = all at h
  induction h generalizing actions with
  | stop server pending => simp at hall
  | hangUp server => simp [List.append_eq_singleton_iff] at hall
  | fail server pending =>
      rcases List.append_eq_cons_iff.mp hall with ⟨-, hhead⟩ | ⟨actions', -, hrest⟩
      · cases hhead
        rfl
      · simp at hrest
  | put server bytes pending rest _ ih =>
      rcases List.append_eq_cons_iff.mp hall with ⟨-, hhead⟩ | ⟨actions', -, hrest⟩
      · cases hhead
      · exact ih hrest.symm
  | read server i request rest _ ih =>
      rcases List.append_eq_cons_iff.mp hall with ⟨-, hhead⟩ | ⟨actions', -, hrest⟩
      · cases hhead
      · exact ih hrest.symm

/-! ## The session obeys it -/

section

variable {socket : ClientSocket} {writes total : ℕ} {response : ByteString}

theorem sendLoop_done (h : ¬ total < response.length) :
    sendLoop socket writes response total = ([], writes, true) := by
  rw [sendLoop, dif_neg h]

theorem sendLoop_failed (h : total < response.length)
    (hsent : socket.write writes (response.length - total) ≤ 0) :
    sendLoop socket writes response total = ([.fail], writes + 1, false) := by
  rw [sendLoop, dif_pos h]
  exact dif_pos hsent

theorem sendLoop_moved (h : total < response.length) {sent : ℤ}
    (hsent : socket.write writes (response.length - total) = sent) (hpos : ¬ sent ≤ 0) :
    sendLoop socket writes response total =
      (.put ((response.drop total).take sent.toNat) ::
          (sendLoop socket (writes + 1) response (total + sent.toNat)).1,
        (sendLoop socket (writes + 1) response (total + sent.toNat)).2) := by
  subst hsent
  rw [sendLoop, dif_pos h]
  exact dif_neg hpos

theorem take_append_drop_add (response : ByteString) (total sent : ℕ) :
    (response.drop total).take sent ++ response.drop (total + sent) = response.drop total := by
  rw [← List.drop_drop, List.take_append_drop]

end

/-- Each call of `write` but the last moves the offset on. -/
theorem sendLoop_length_le (socket : ClientSocket) (writes : ℕ) (response : ByteString)
    (total : ℕ) :
    (sendLoop socket writes response total).1.length ≤ response.length - total := by
  induction writes, total using sendLoop.induct socket response with
  | case1 writes total hmore sent hfail =>
      rw [sendLoop_failed hmore hfail]
      exact Nat.sub_pos_of_lt hmore
  | case2 writes total hmore sent hmoved ih =>
      rw [sendLoop_moved hmore rfl hmoved, List.length_cons]
      have hsent : 1 ≤ sent.toNat := by omega
      exact (Nat.succ_le_succ ih).trans (by omega)
  | case3 writes total hdone =>
      rw [sendLoop_done hdone]
      exact Nat.zero_le _

theorem chunks_sendLoop (socket : ClientSocket) (writes : ℕ) (response : ByteString)
    (total : ℕ) : chunks (sendLoop socket writes response total).1 = [] := by
  induction writes, total using sendLoop.induct socket response with
  | case1 writes total hmore sent hfail =>
      rw [sendLoop_failed hmore hfail]
      rfl
  | case2 writes total hmore sent hmoved ih =>
      rw [sendLoop_moved hmore rfl hmoved]
      exact ih
  | case3 writes total hdone =>
      rw [sendLoop_done hdone]
      rfl

/-- A response that is sent to the end leaves nothing pending. -/
theorem obeys_sendLoop_append {socket : ClientSocket} {server : TcpServer} {rest : List Action}
    (hrest : Obeys server [] rest) (writes : ℕ) (response : ByteString) (total : ℕ)
    (hsent : (sendLoop socket writes response total).2.2 = true) :
    Obeys server (response.drop total) ((sendLoop socket writes response total).1 ++ rest) := by
  induction writes, total using sendLoop.induct socket response with
  | case1 writes total hmore sent hfail =>
      rw [sendLoop_failed hmore hfail] at hsent
      cases hsent
  | case2 writes total hmore sent hmoved ih =>
      rw [sendLoop_moved hmore rfl hmoved] at hsent ⊢
      have hput := Obeys.put server ((response.drop total).take sent.toNat) _ _ (ih hsent)
      rw [take_append_drop_add] at hput
      exact hput
  | case3 writes total hdone =>
      rw [sendLoop_done hdone, List.drop_eq_nil_of_le (not_lt.mp hdone)]
      exact hrest

theorem obeys_sendLoop (socket : ClientSocket) (server : TcpServer) (writes : ℕ)
    (response : ByteString) (total : ℕ) :
    Obeys server (response.drop total) (sendLoop socket writes response total).1 := by
  induction writes, total using sendLoop.induct socket response with
  | case1 writes total hmore sent hfail =>
      rw [sendLoop_failed hmore hfail]
      exact .fail server _
  | case2 writes total hmore sent hmoved ih =>
      rw [sendLoop_moved hmore rfl hmoved]
      have hput := Obeys.put server ((response.drop total).take sent.toNat) _ _ ih
      rw [take_append_drop_add] at hput
      exact hput
  | case3 writes total hdone =>
      rw [sendLoop_done hdone]
      exact .stop server _

/-- The loop by its offset is the loop by what is left to send. -/
theorem sendResponse_eq (socket : ClientSocket) (bytes : ByteString) (writes : ℕ)
    (response : ByteString) (total : ℕ) :
    sendResponse socket ⟨bytes, writes⟩ (response.drop total) =
      (⟨bytes ++ written (sendLoop socket writes response total).1,
        (sendLoop socket writes response total).2.1⟩,
        (sendLoop socket writes response total).2.2) := by
  induction writes, total using sendLoop.induct socket response generalizing bytes with
  | case1 writes total hmore sent hfail =>
      have hne : response.drop total ≠ [] := by simpa using hmore
      rw [sendLoop_failed hmore hfail, sendResponse, dif_neg hne]
      simp only [List.length_drop]
      rw [dif_pos hfail, written]
      simp [Action.bytes]
  | case2 writes total hmore sent hmoved ih =>
      have hne : response.drop total ≠ [] := by simpa using hmore
      rw [sendLoop_moved hmore rfl hmoved, sendResponse, dif_neg hne]
      simp only [List.length_drop]
      rw [dif_neg hmoved, List.drop_drop, ih]
      simp [written, Action.bytes, sent]
  | case3 writes total hdone =>
      rw [sendLoop_done hdone, List.drop_eq_nil_of_le (not_lt.mp hdone), sendResponse,
        dif_pos rfl]
      simp [written]

theorem session_cons {request : ByteString} (hrequest : request ≠ []) (socket : ClientSocket)
    (server : TcpServer) (writes : ℕ) (i : Instant) (reads : List (Instant × ByteString)) :
    session socket server writes ((i, request) :: reads) =
      .read i request ::
        ((sendLoop socket writes ((processRequest i request).run server).1 0).1 ++
          if (sendLoop socket writes ((processRequest i request).run server).1 0).2.2 then
            session socket ((processRequest i request).run server).2
              (sendLoop socket writes ((processRequest i request).run server).1 0).2.1 reads
          else []) := by
  rw [session, if_neg hrequest]
  rfl

theorem session_obeys (socket : ClientSocket) (server : TcpServer) (writes : ℕ)
    (reads : List (Instant × ByteString)) : Obeys server [] (session socket server writes reads) := by
  induction reads generalizing server writes with
  | nil => exact .stop server []
  | cons r reads ih =>
      obtain ⟨i, request⟩ := r
      by_cases hrequest : request = []
      · rw [session, if_pos hrequest]
        exact .hangUp server
      · rw [session_cons hrequest]
        apply Obeys.read
        split_ifs with hsent
        · exact obeys_sendLoop_append (ih _ _) _ _ 0 hsent
        · rw [List.append_nil]
          exact obeys_sendLoop _ _ _ _ 0

theorem chunks_session (socket : ClientSocket) (server : TcpServer) (writes : ℕ)
    (reads : List (Instant × ByteString)) : chunks (session socket server writes reads) <+: reads := by
  induction reads generalizing server writes with
  | nil => exact List.nil_prefix
  | cons r reads ih =>
      obtain ⟨i, request⟩ := r
      by_cases hrequest : request = []
      · rw [session, if_pos hrequest]
        exact List.nil_prefix
      · have hloop := chunks_sendLoop socket writes ((processRequest i request).run server).1 0
        rw [chunks] at hloop
        rw [session_cons hrequest, chunks, List.filterMap_cons, List.filterMap_append, hloop]
        apply (List.prefix_append_right_inj [(i, request)]).mpr
        split_ifs with hsent
        · exact ih _ _
        · exact List.nil_prefix

theorem handleClient_cons_bytes {socket : ClientSocket} {server : TcpServer} {out out' : Output}
    {i : Instant} {request : ByteString} {reads : List (Instant × ByteString)} {sent : Bool}
    (hrequest : request ≠ [])
    (hsend : sendResponse socket out ((processRequest i request).run server).1 = (out', sent)) :
    (handleClient socket server out ((i, request) :: reads)).2 =
      if sent then (handleClient socket ((processRequest i request).run server).2 out' reads).2
      else out' := by
  rw [handleClient, if_neg hrequest]
  rcases hrun : (processRequest i request).run server with ⟨response, server'⟩
  rw [hrun] at hsend
  simp only [hsend]
  cases sent with
  | true => rfl
  | false => rfl

theorem handleClient_eq (socket : ClientSocket) (server : TcpServer) (out : Output)
    (reads : List (Instant × ByteString)) :
    (handleClient socket server out reads).2.bytes =
      out.bytes ++ written (session socket server out.writes reads) := by
  induction reads generalizing server out with
  | nil => simp [handleClient, session, written]
  | cons r reads ih =>
      obtain ⟨i, request⟩ := r
      by_cases hrequest : request = []
      · simp [handleClient, session, written, hrequest, Action.bytes]
      · have hsend := sendResponse_eq socket out.bytes out.writes
          ((processRequest i request).run server).1 0
        rw [List.drop_zero] at hsend
        rw [handleClient_cons_bytes hrequest hsend, session_cons hrequest, written_read,
          written_append]
        split_ifs with hsent
        · rw [ih, List.append_assoc]
        · rw [written_nil, List.append_nil]

theorem obeys_of_prefix_session {socket : ClientSocket} {server : TcpServer}
    {reads : List (Instant × ByteString)} {actions : List Action}
    (h : actions <+: session socket server 0 reads) : Obeys server [] actions := by
  obtain ⟨more, hmore⟩ := h
  have hobeys := session_obeys socket server 0 reads
  rw [← hmore] at hobeys
  exact hobeys.of_prefix

/-- Whatever `write` returns, the bytes of a session are those of its responses
in order, up to the first failure. -/
theorem writesResponses (socket : ClientSocket) (server : TcpServer)
    (reads : List (Instant × ByteString)) : WritesResponses socket server reads where
  ends writes response := sendLoop_length_le socket writes response 0
  chunks_prefix := chunks_session socket server 0 reads
  written_prefix actions hactions := Obeys.written_prefix (obeys_of_prefix_session hactions)
  complete actions next hactions hnext := (obeys_of_prefix_session hactions).complete hnext
  stops actions hactions := by
    obtain ⟨more, hmore⟩ := hactions
    have hobeys := session_obeys socket server 0 reads
    rw [← hmore, List.append_assoc, List.singleton_append] at hobeys
    rw [← hmore, hobeys.fail_last, List.append_nil]
  handleClient_eq := by
    rw [TcpServer.handleClient_eq]
    rfl

end SmartSensorNetwork.TcpServer
