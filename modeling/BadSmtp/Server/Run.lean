import BadSmtp.Server.Loop

/-! Runs of a session against a client that waits for each reply, on a standard library that
parses dot-atom addresses as net/mail does; how a session ends, and the reader STARTTLS and
BDAT leave it reading through. -/
namespace BadSmtp.Server
open BadSmtp.Go BadSmtp.Smtp

def isAtext (c : Char) : Bool :=
  '!' ≤ c && c ≤ '~' &&
    !(c ∈ ['(', ')', '<', '>', '[', ']', ':', ';', '@', '\\', ',', '"', '.'])

def isDotAtom (s : List Char) : Bool :=
  s ≠ [] && s.all (fun c => isAtext c || c = '.') && s.head? ≠ some '.' &&
    s.getLast? ≠ some '.' && !contains s ['.', '.']

def isDotAtomAddrSpec (s : List Char) : Bool :=
  match lastIndex s '@' with
  | none => false
  | some i => isDotAtom (s.take i) && isDotAtom (s.drop (i + 1))

def dotAtomAddress (s : String) : Option String :=
  if isDotAtomAddrSpec s.data then some s
  else
    match s.data with
    | '<' :: rest =>
      if rest.getLast? = some '>' && isDotAtomAddrSpec rest.dropLast then some ⟨rest.dropLast⟩
      else none
    | _ => none

def asciiLib : Lib where
  parseAddress := dotAtomAddress
  isLetter r := (65 ≤ r && r ≤ 90) || (97 ≤ r && r ≤ 122)
  isNumber r := 48 ≤ r && r ≤ 57
  isMark _ := false

/-- A plain port with the DefaultAuthenticator and no drop behaviour. -/
def plainPort : Config where
  lib := asciiLib
  authenticate := defaultAuthenticate
  dropImmediate := false
  dropDelay := 0
  tlsHostname := ""

/-- Step the session until it blocks or returns, at most `n` times. -/
def run (cfg : Config) (o : Outcome) : Nat → Conf → Conf
  | 0, c => c
  | n + 1, c =>
    match step cfg o c with
    | some c' => run cfg o n c'
    | none => c

/-- The client sends each line with its CRLF once the session has blocked. -/
def lockstep (cfg : Config) (o : Outcome) : List String → Conf → Conf
  | [], c => c
  | l :: ls, c => lockstep cfg o ls (run cfg o 20 (c.env (.deliver (l ++ "\r\n").data)))

theorem Reach.run {cfg : Config} {c : Conf} (o : Outcome) (n : Nat) (h : Reach cfg c) :
    Reach cfg (BadSmtp.Server.run cfg o n c) := by
  induction n generalizing c with
  | zero => exact h
  | succ n ih =>
    unfold BadSmtp.Server.run
    split
    · exact ih (.step o h ‹_›)
    · exact h

theorem Reach.lockstep {cfg : Config} {c : Conf} (o : Outcome) (ls : List String)
    (h : Reach cfg c) : Reach cfg (BadSmtp.Server.lockstep cfg o ls c) := by
  induction ls generalizing c with
  | nil => exact h
  | cons l ls ih => exact ih (.run o 20 (.env _ h))

theorem Follows.run {cfg : Config} {c c' : Conf} (o : Outcome) (n : Nat)
    (h : Follows cfg c c') : Follows cfg c (BadSmtp.Server.run cfg o n c') := by
  induction n generalizing c' with
  | zero => exact h
  | succ n ih =>
    unfold BadSmtp.Server.run
    split
    · exact ih (.step o h ‹_›)
    · exact h

theorem Follows.lockstep {cfg : Config} {c c' : Conf} (o : Outcome) (ls : List String)
    (h : Follows cfg c c') : Follows cfg c (BadSmtp.Server.lockstep cfg o ls c') := by
  induction ls generalizing c' with
  | nil => exact h
  | cons l ls ih => exact ih (.run o 20 (.env _ h))

/-- A session on the plain port after the greeting and the client's `lines`. -/
def session (lines : List String) : Conf :=
  lockstep plainPort ⟨none, true, 0, 0⟩ lines (run plainPort ⟨none, true, 0, 0⟩ 2 (Conf.init false ""))

theorem reach_session (lines : List String) : Reach plainPort (session lines) :=
  .lockstep _ _ (.run _ _ (.init false ""))

/-- A DATA body over the size limit ends the session with no reply and no Store call. -/
theorem oversize_body_ends_session {cfg : Config} {o : Outcome} {c : Conf}
    {data buf sock : List Char} (hpc : c.pc = .dataBody)
    (hr : readDotBytes c.reader.buf c.sock c.eof c.broken = .ok data buf sock)
    (hbig : getMaxMessageSize c.s < data.length) :
    ∃ c' e, step cfg o c = some c' ∧ c'.pc = .exited (some e) ∧ c'.log = c.log ++ [.body data] := by
  have hbig' : getMaxMessageSize (c.withReader c.reader buf sock).s < data.length := hbig
  simp only [Conf.withReader] at hbig'
  simp only [step, hpc, hr, resume, finishData, done, GoM.bind_apply, attempt_apply, logEvent_apply,
    getS_apply, Conf.withReader, gt_iff_lt, hbig', if_true, throwErr_apply, afterHandler,
    flushAndReturn, flushResponses_eq]
  split_ifs <;> simp [Conf.settle, Conf.exit]

def oversizeDataConf : Conf :=
  { Conf.init false "" with
    pc := .dataBody, sock := "ab\r\n.\r\n".data,
    s := { (Conf.init false "").s with advertisedSize := 1 } }

theorem oversize_body_of_three_bytes :
    let c := oversizeDataConf
    c.pc = .dataBody ∧ readDotBytes c.reader.buf c.sock c.eof c.broken = .ok "ab\n".data [] [] ∧
      getMaxMessageSize c.s < "ab\n".data.length ∧
      ∃ c' e, step plainPort ⟨none, true, 0, 0⟩ c = some c' ∧ c'.pc = .exited (some e) ∧
        c'.log = c.log ++ [.body "ab\n".data] :=
  ⟨rfl, rfl, by decide, oversize_body_ends_session rfl rfl (by decide)⟩

set_option maxRecDepth 100000 in
/-- The connection is closed twice on the 421 path and once on QUIT. -/
theorem noop421_closes_twice :
    (session ["EHLO c", "MAIL FROM:<noop421@x>", "NOOP"]).pc = .exited none ∧
      (session ["EHLO c", "MAIL FROM:<noop421@x>", "NOOP"]).closes = 2 ∧
      (session ["EHLO c", "QUIT"]).pc = .exited none ∧ (session ["EHLO c", "QUIT"]).closes = 1 ∧
      let o : Outcome := ⟨none, true, 0, 0⟩
      let dropPort : Config := { plainPort with dropImmediate := true }
      let d := lockstep dropPort o ["QUIT"] (run dropPort o 2 (Conf.init false ""))
      d.pc = .loop ∧ d.closes = 0 ∧ d.out = ["503 Bad sequence - QUIT not allowed in GREETING state"] := by
  decide

/-- STARTTLS, on every path, leaves s.connReader as it was. -/
theorem handleStartTLS_keeps_connReader (o : Outcome) (c : Conf) :
    (handleStartTLS o c).2.s.connReader = c.s.connReader := by
  have hw : ∀ r, Guards (fun c' => c'.s.connReader = c.s.connReader)
      (fun _ c' => c'.s.connReader = c.s.connReader) (writeResponse r) := fun _ =>
    Guards.writeResponse_framed fun _ _ _ _ _ h => h
  refine Guards.snd (P := fun c' => c'.s.connReader = c.s.connReader) ?_ rfl
  unfold handleStartTLS; dsimp only
  refine Guards.bind Guards.getS fun _ => ?_
  split
  · exact hw _ -- the scheduled STARTTLS error
  split
  · exact hw _ -- 554 TLS already started
  refine Guards.bind (hw _) fun _ => ?_ -- 220, then the handshake
  split
  · exact Guards.bind (Guards.throwErr fun _ h => h) fun _ => Guards.modifyS fun _ h => h
  · exact Guards.bind (Guards.pure _) fun _ => Guards.modifyS fun _ h => h

set_option maxRecDepth 100000 in
theorem starttls_pipelined_noop_answered :
    let o : Outcome := ⟨none, true, 0, 0⟩
    let c := run plainPort o 20 ((session ["EHLO c"]).env (.deliver "STARTTLS\r\nNOOP\r\n".data))
    Reach plainPort c ∧ c.s.conn = .tls ∧ c.s.connReader.map (fun r => r.src) = some .plain ∧
      c.log.drop 3 =
        [.line "STARTTLS", .reply "220 Ready to start TLS", .line "NOOP", .reply "250 OK"] :=
  ⟨.run _ _ (.env _ (reach_session _)), by decide, by decide, by decide⟩

/-- handleBdat reads nothing itself: the socket and connReader are as they were. -/
theorem handleBdat_reads_nothing (cmd : Command) (c : Conf) :
    (handleBdat cmd c).2.sock = c.sock ∧ (handleBdat cmd c).2.s.connReader = c.s.connReader :=
  Guards.snd (P := fun c' => c'.sock = c.sock ∧ c'.s.connReader = c.s.connReader)
    (Hoare.handleBdat_of cmd (fun _ => Guards.bind (Guards.writeResponse_framed fun _ _ _ _ _ h => h)
      fun _ => Guards.pure _) fun _ _ _ h => h) ⟨rfl, rfl⟩

set_option maxRecDepth 100000 in
theorem bdat_chunk_read_as_command :
    let o : Outcome := ⟨none, true, 0, 0⟩
    let c := run plainPort o 20 ((session ["EHLO c", "MAIL FROM:<data550@x>", "RCPT TO:<b@y>"]).env
      (.deliver "BDAT 6 LAST\r\nNOOP\r\n".data))
    Reach plainPort c ∧
      c.log.drop 7 = [.line "BDAT 6 LAST", .reply "550 Requested action not taken: mailbox unavailable",
        .line "NOOP", .reply "250 OK"] :=
  ⟨.run _ _ (.env _ (reach_session _)), by decide⟩

end BadSmtp.Server
