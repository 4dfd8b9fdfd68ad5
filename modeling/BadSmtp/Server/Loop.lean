import BadSmtp.Server.Auth
import BadSmtp.Server.Guards

/-! Handle and runCommandLoop as a step function: a step runs the goroutine to its next
blocking read or to the end of Handle, and between steps the client delivers bytes, closes its
side, or the connection breaks. -/
namespace BadSmtp.Server
open BadSmtp.Go BadSmtp.Smtp

def serverGreeting : String := "BadSMTP - The Reliably Unreliable Mail Server https://badsmtp.com"

def breaksPipelining : Verb → Bool
  | .data | .bdat | .auth | .starttls | .quit => true
  | _ => false

/-- parseAndLogCommand: the verb and the command, or nothing after its reply. -/
def parseAndLogCommand (line : String) : GoM (Option (Verb × Command)) := do
  match parseCommand line with
  | none =>
    writeResponse "500 Command not recognised"
    return none
  | some cmd =>
    match Verb.ofName cmd.name with
    | none =>
      writeResponse "500 Command not recognised"
      return none
    | some v =>
      let s ← getS
      if !v.allowedIn s.state then
        writeResponse ("503 Bad sequence - " ++ cmd.name ++ " not allowed in " ++
          s.state.toString ++ " state")
        return none
      match validateArgs v cmd.args with
      | some e =>
        writeResponse e
        return none
      | none => return some (v, cmd)

/-- detectPipelining: Peek(1) on connReader under a 10 ms deadline. -/
def detectPipelining : GoM Bool := fun c =>
  match c.s.connReader with
  | none => (.ok false, c)
  | some r =>
    let (b, buf, sock) := peekByte r.buf c.sock c.broken
    (.ok b, { c with s := { c.s with connReader := some { r with buf := buf } }, sock := sock })

@[simp] theorem detectPipelining_log (c : Conf) : (detectPipelining c).2.log = c.log := by
  unfold detectPipelining
  split <;> rfl

def afterHandler (breaks : Bool) : Except GoErr Flow → GoM Flow
  | .ok .wait => pure .wait
  | .ok .done => if breaks then done (flushAndReturn none) else pure .done
  | .error e => done (flushAndReturn (some e))

section
variable (cfg : Config) (o : Outcome)

def dispatch : Verb → Command → GoM Flow
  | .helo, c | .ehlo, c => done (handleHelo c)
  | .auth, c => handleAuth cfg o c
  | .mail, c => done (handleMail cfg c)
  | .rcpt, c => done (handleRcpt cfg c)
  | .data, _ => handleData
  | .bdat, c => handleBdat c
  | .rset, _ => done handleRset
  | .noop, _ => done handleNoop
  | .starttls, _ => done (handleStartTLS o)
  | .quit, _ => done handleQuit
  | .vrfy, c => done (handleVrfy cfg c)

/-- handleCommand: a breaking command first flushes the queue and leaves pipelining mode. -/
def handleCommand (line : String) : GoM Flow := do
  match ← parseAndLogCommand line with
  | none => return .done
  | some (v, cmd) =>
    let breaks := breaksPipelining v
    if breaks then
      flushResponses
      modifyS fun s => { s with pipeliningMode := false }
    afterHandler breaks (← attempt (dispatch cfg o v cmd))

/-- One iteration of runCommandLoop after ReadLine returned `line`. -/
def runLine (line : List Char) : GoM Flow := do
  let line := trimSpace line
  if line = [] then return .done
  logEvent (.line ⟨line⟩)
  if line.length > maxCommandLength then
    writeResponse "500 Command too long"
    return .done
  let s ← getS
  if s.capabilities.pipelining && !s.pipeliningMode then
    if ← detectPipelining then modifyS fun s => { s with pipeliningMode := true }
  handleCommand cfg o ⟨line⟩

/-- setupSessionBehaviourAndGreet: the drop ports return before the banner. -/
def greet : GoM Unit := do
  if cfg.dropImmediate || 0 < cfg.dropDelay then return
  let s ← getS
  let identity :=
    if s.hostname ≠ "" then s.hostname
    else if cfg.tlsHostname ≠ "" then cfg.tlsHostname else "badsmtp.test"
  writeResponse ("220 " ++ identity ++ " ESMTP " ++ serverGreeting)
  modifyS fun s => { s with state := .helo }

def handleStart : GoM Flow := do
  greet cfg
  modifyS fun s => { s with connReader := some ⟨s.conn, []⟩ }
  return .done

end

section
variable {cfg : Config} {o : Outcome} {P M : Conf → Prop} {Q : Flow → Conf → Prop}
  {E : GoErr → Conf → Prop}

/-- runLine from its parts: a blank line, the 500, the probe and handleCommand. -/
theorem Hoare.runLine_of (line : List Char) (hblank : trimSpace line = [] → ∀ c, P c → Q .done c)
    (hlog : Hoare P (logEvent (.line ⟨trimSpace line⟩)) (fun _ => M) E)
    (hlong : (trimSpace line).length > maxCommandLength →
      Hoare M (writeResponse "500 Command too long") (fun _ => Q .done) E)
    (hprobe : Guards M E detectPipelining)
    (hon : Guards M E (modifyS fun s => { s with pipeliningMode := true }))
    (hcmd : ¬(trimSpace line).length > maxCommandLength →
      Hoare M (handleCommand cfg o ⟨trimSpace line⟩) Q E) :
    Hoare P (runLine cfg o line) Q E := by
  unfold runLine; dsimp only
  split
  · next h => exact Hoare.pure _ (hblank h)
  refine Hoare.bind (Guards.pure _) fun _ => Hoare.bind hlog fun _ => ?_
  split
  · next h => exact Hoare.bind (hlong h) fun _ => Hoare.pure _ fun _ h => h
  next h =>
  have hc := hcmd h
  refine Hoare.bind (Guards.pure _) fun _ => Hoare.bind Guards.getS fun _ => ?_
  split
  · refine Hoare.bind hprobe fun _ => ?_
    split
    · exact Hoare.bind hon fun _ => hc
    · exact Hoare.bind (Guards.pure _) fun _ => hc
  · exact Hoare.bind (Guards.pure _) fun _ => hc

end

def Conf.exit (c : Conf) (err : Option GoErr) : Conf :=
  { c with pc := .exited err, closes := c.closes + 1 }

/-- Where the goroutine is once the loop's body returned. -/
def Conf.settle : Except GoErr Flow × Conf → Conf
  | (.ok .done, c) => { c with pc := .loop }
  | (.ok .wait, c) => c
  | (.error .eof, c) => c.exit none
  | (.error e, c) => c.exit (some e)

def Conf.withReader (c : Conf) (r : Reader) (buf sock : List Char) : Conf :=
  { c with s := { c.s with connReader := some { r with buf := buf } }, sock := sock }

def Conf.reader (c : Conf) : Reader := c.s.connReader.getD ⟨c.s.conn, []⟩

section
variable (cfg : Config) (o : Outcome)

def resume (rest : GoM Flow) : GoM Flow := do
  afterHandler true (← attempt rest)

/-- One step of the session's goroutine: none when it is blocked in a read or has returned. -/
def step (c : Conf) : Option Conf :=
  match c.pc with
  | .start => some (Conf.settle (handleStart cfg c))
  | .loop =>
    match c.s.connReader with
    | none => none
    | some r =>
      match readLine r.buf c.sock c.eof c.broken with
      | .wait => none
      | .fail .eof => some (c.exit none)
      | .fail e => some (c.exit (some e))
      | .ok line buf sock => some (Conf.settle (runLine cfg o line (c.withReader r buf sock)))
  | .dataBody =>
    match readDotBytes c.reader.buf c.sock c.eof c.broken with
    | .wait => none
    | .fail e => some (Conf.settle (resume (throwErr e) c))
    | .ok data buf sock =>
      let c' := c.withReader c.reader buf sock
      some (Conf.settle (resume (do logEvent (.body data); done (finishData o data)) c'))
  | .bdatChunk n last =>
    match readFull n c.reader.buf c.sock c.eof c.broken with
    | .wait => none
    | .fail e => some (Conf.settle (resume (throwErr e) c))
    | .ok chunk buf sock =>
      let c' := c.withReader c.reader buf sock
      some { c' with pc := .bdatCrlf chunk last, log := c'.log ++ [.chunk chunk] }
  | .bdatCrlf chunk last =>
    match skipCrlf c.reader.buf c.sock c.eof c.broken with
    | .ok () buf sock =>
      some (Conf.settle (resume (done (finishBdat o chunk last)) (c.withReader c.reader buf sock)))
    | _ => none
  | .authLine w priv =>
    match readLine priv c.sock c.eof c.broken with
    | .wait => none
    | .fail e => some (Conf.settle (resume (authResume cfg w (.error e) []) c))
    | .ok line priv' sock =>
      let c' := { c with sock := sock, log := c.log ++ [.authLine line] }
      some (Conf.settle (resume (authResume cfg w (.ok line) priv') c'))
  | .exited _ | .crashed => none

end

/-- What happens between two steps: bytes arrive, the client closes, or the connection breaks. -/
inductive Env where
  | deliver (bytes : List Char)
  | hangup
  | reset

def Conf.env (c : Conf) : Env → Conf
  | .deliver b => if c.eof then c else { c with sock := c.sock ++ b }
  | .hangup => { c with eof := true }
  | .reset => { c with broken := true }

/-- The configurations a session reaches under every interleaving of steps and client actions. -/
inductive Reach (cfg : Config) : Conf → Prop where
  | init (implicitTls : Bool) (hostname : String) : Reach cfg (Conf.init implicitTls hostname)
  | step {c c' : Conf} (o : Outcome) : Reach cfg c → step cfg o c = some c' → Reach cfg c'
  | env {c : Conf} (e : Env) : Reach cfg c → Reach cfg (c.env e)

/-- The configurations a session reaches from `c` on. -/
inductive Follows (cfg : Config) (c : Conf) : Conf → Prop where
  | refl : Follows cfg c c
  | step {c' c'' : Conf} (o : Outcome) : Follows cfg c c' → step cfg o c' = some c'' →
      Follows cfg c c''
  | env {c' : Conf} (e : Env) : Follows cfg c c' → Follows cfg c (c'.env e)

end BadSmtp.Server
