import BadSmtp.Props.Submission

/-! Whole mail transactions, by DATA or by BDAT, from a client that waits for each answer: the
session answers each command, calls the Store once with the transaction, and is back at the
command loop in MAIL state. -/

namespace BadSmtp.Server
open BadSmtp.Go BadSmtp.Smtp

/-- How the client sends the message: DATA and the body, or BDAT chunks. -/
inductive Payload where
  | data (lines : List (List Char))
  | bdat (chunks : List (List Char)) (last : List Char)

def chunkLines (ch : List Char) : List String := [bdatLine ch.length false, ⟨ch⟩]

def Payload.lines : Payload → List String
  | .data lines => ["DATA", dotBody lines]
  | .bdat chunks last => chunks.flatMap chunkLines ++ [bdatLine last.length true, ⟨last⟩]

def Payload.content : Payload → List Char
  | .data lines => (lines.map (· ++ ['\n'])).flatten
  | .bdat chunks last => chunks.flatten ++ last

def chunkEvents (ch : List Char) : List Event :=
  [.line (bdatLine ch.length false), .chunk ch, .reply "250 OK"]

def Payload.events (msg : Message) : Payload → List Event
  | .data lines => [.line "DATA", .reply "354 End data with <CR><LF>.<CR><LF>",
      .body (lines.map (· ++ ['\n'])).flatten, .store msg true,
      .reply "250 OK Message accepted for delivery"]
  | .bdat chunks last => chunks.flatMap chunkEvents ++ [.line (bdatLine last.length true),
      .chunk last, .store msg true, .reply "250 OK Message accepted for delivery"]

def Payload.Ok (s₀ : Session) : Payload → Prop
  | .data lines => ∀ l ∈ lines, '\r' ∉ l ∧ '\n' ∉ l
  | .bdat chunks last => s₀.bdatBuffer = [] ∧ (∀ ch ∈ chunks, ch ≠ []) ∧ last ≠ [] ∧
      (chunks.flatten ++ last).length ≤ maxAlloc

instance Payload.decidableOk (s₀ : Session) : ∀ P : Payload, Decidable (P.Ok s₀)
  | .data lines => inferInstanceAs (Decidable (∀ l ∈ lines, '\r' ∉ l ∧ '\n' ∉ l))
  | .bdat chunks last => inferInstanceAs (Decidable (s₀.bdatBuffer = [] ∧ (∀ ch ∈ chunks, ch ≠ []) ∧
      last ≠ [] ∧ (chunks.flatten ++ last).length ≤ maxAlloc))

/-- One mail transaction as a client sends it. -/
structure Mail where
  sender : String
  recipients : List String
  payload : Payload

def Mail.lines (m : Mail) : List String :=
  ("MAIL FROM:<" ++ m.sender ++ ">") :: m.recipients.map (fun b => "RCPT TO:<" ++ b ++ ">") ++
    m.payload.lines

def Mail.message (s₀ : Session) (m : Mail) : Message :=
  ⟨normaliseMailbox m.sender, m.recipients.map normaliseMailbox, ⟨m.payload.content⟩, s₀.hostname,
    s₀.tlsState⟩

def rcptEvents (b : String) : List Event := [.line ("RCPT TO:<" ++ b ++ ">"), .reply "250 OK"]

def Mail.events (s₀ : Session) (m : Mail) : List Event :=
  [.line ("MAIL FROM:<" ++ m.sender ++ ">"), .reply "250 OK"] ++ m.recipients.flatMap rcptEvents ++
    m.payload.events (m.message s₀)

/-- A transaction the session takes to the Store, in a session like `s₀`. -/
structure Mail.Deliverable (lib : Lib) (s₀ : Session) (m : Mail) : Prop where
  sender : Sendable lib s₀.capabilities.smtputf8 m.sender
  mail_error : extractMailFromError (normaliseMailbox m.sender) = none
  data_error : extractDataError (normaliseMailbox m.sender) = none
  recipients : ∀ b ∈ m.recipients,
    Sendable lib s₀.capabilities.smtputf8 b ∧ extractRcptToError (normaliseMailbox b) = none
  payload : m.payload.Ok s₀
  size : (m.payload.content.length : Int) ≤ getMaxMessageSize s₀

section
variable (cfg : Config) (o : Outcome) {s₀ : Session} {L : List Event} {c : Conf} {a : String}
  {bs : List String}

theorem lockstep_command {p p' : Session → Prop} {line : String} {cmd : Command} {v : Verb}
    {R : List Event} (hl : CommandLine line cmd) (hp : Framed p)
    (hv : Verb.ofName cmd.name = some v)
    (hst : ∀ s, p s → v.allowedIn s.state = true) (ha : validateArgs v cmd.args = none)
    (hx : Hoare (Answering p (L ++ [.line line]))
      (attempt (dispatch cfg o v cmd) >>= afterHandler (breaksPipelining v))
      (fun f c => Answering p' (L ++ [.line line] ++ R) c ∧ f = .done) (fun _ _ => False))
    (hc : Answering p L c) (hpc : c.pc = .loop) :
    ∃ c', (Answering p' (L ++ .line line :: R) c' ∧ c'.pc = .loop) ∧
      ∀ ls, lockstep cfg o (line :: ls) c = lockstep cfg o ls c' := by
  simpa only [List.append_assoc, List.singleton_append] using
    lockstep_done cfg o (step_loop_deliver cfg o hp hc hpc hl.newline)
      (answering_command_runLine cfg o hl hp hv hst ha hx)

theorem lockstep_mail (h : Sendable cfg.lib s₀.capabilities.smtputf8 a)
    (he : extractMailFromError (normaliseMailbox a) = none)
    (hd : extractDataError (normaliseMailbox a) = none) (hc : Answering (Between s₀) L c)
    (hpc : c.pc = .loop) :
    ∃ c', (Answering (Open s₀ .rcpt (normaliseMailbox a) [] s₀.bdatBuffer)
        (L ++ [.line ("MAIL FROM:<" ++ a ++ ">"), .reply "250 OK"]) c' ∧ c'.pc = .loop) ∧
      ∀ ls, lockstep cfg o (("MAIL FROM:<" ++ a ++ ">") :: ls) c = lockstep cfg o ls c' :=
  lockstep_command cfg o (commandLine_mail h) framed_between rfl
    (fun _ hs => by simp [Verb.allowedIn, hs.state]) (by simp [validateArgs, isPrefixOf_from a])
    (hoare_after_done (answering_handleMail cfg h he hd)) hc hpc

theorem lockstep_rcpt {b : String} (h : Sendable cfg.lib s₀.capabilities.smtputf8 b)
    (he : extractRcptToError (normaliseMailbox b) = none)
    (hc : Answering (Open s₀ .rcpt a bs s₀.bdatBuffer) L c)
    (hpc : c.pc = .loop) :
    ∃ c', (Answering (Open s₀ .rcpt a (bs ++ [normaliseMailbox b]) s₀.bdatBuffer)
        (L ++ rcptEvents b) c' ∧ c'.pc = .loop) ∧
      ∀ ls, lockstep cfg o (("RCPT TO:<" ++ b ++ ">") :: ls) c = lockstep cfg o ls c' :=
  lockstep_command cfg o (commandLine_rcpt h) framed_open rfl
    (fun _ hs => by simp [Verb.allowedIn, hs.state]) (by simp [validateArgs, (isPrefixOf_to b).1])
    (hoare_after_done (answering_handleRcpt cfg h he)) hc hpc

theorem lockstep_rcpts : ∀ {bs B : List String} {L : List Event} {c : Conf},
    (∀ b ∈ bs, Sendable cfg.lib s₀.capabilities.smtputf8 b ∧
      extractRcptToError (normaliseMailbox b) = none) →
    Answering (Open s₀ .rcpt a B s₀.bdatBuffer) L c → c.pc = .loop →
    ∃ c', (Answering (Open s₀ .rcpt a (B ++ bs.map normaliseMailbox) s₀.bdatBuffer)
        (L ++ bs.flatMap rcptEvents) c' ∧ c'.pc = .loop) ∧
      ∀ ls, lockstep cfg o (bs.map (fun b => "RCPT TO:<" ++ b ++ ">") ++ ls) c =
        lockstep cfg o ls c'
  | [], _, _, c, _, hc, hpc => ⟨c, by simpa using And.intro hc hpc, fun _ => rfl⟩
  | b :: bs, _, _, _, hb, hc, hpc => by
    obtain ⟨hb₁, hbs⟩ := List.forall_mem_cons.1 hb
    obtain ⟨c₁, h₁, e₁⟩ := lockstep_rcpt cfg o hb₁.1 hb₁.2 hc hpc
    obtain ⟨c₂, h₂, e₂⟩ := lockstep_rcpts hbs h₁.1 h₁.2
    refine ⟨c₂, by simpa only [List.map_cons, List.flatMap_cons, List.append_assoc,
      List.singleton_append] using h₂, fun ls => ?_⟩
    rw [List.map_cons, List.cons_append, e₁, e₂]

theorem lockstep_data (hc : Answering (Open s₀ .rcpt a bs s₀.bdatBuffer) L c) (hpc : c.pc = .loop) :
    ∃ c', (Answering (Open s₀ .data a bs s₀.bdatBuffer)
        (L ++ [.line "DATA", .reply "354 End data with <CR><LF>.<CR><LF>"]) c' ∧
        c'.pc = .dataBody) ∧
      ∀ ls, lockstep cfg o ("DATA" :: ls) c = lockstep cfg o ls c' := by
  have hl : CommandLine "DATA" ⟨toUpper "DATA", []⟩ :=
    ⟨by decide, by decide, by decide, by decide, by decide⟩
  simpa only [List.append_assoc, List.singleton_append] using
    lockstep_wait cfg o (.inl rfl) (step_loop_deliver cfg o framed_open hc hpc hl.newline)
      (answering_command_runLine cfg o hl framed_open (v := .data) rfl
        (fun _ hs => by simp [Verb.allowedIn, hs.state]) rfl
        (answering_resume_wait answering_handleData))

theorem lockstep_body (hst : o.store = none) {lines : List (List Char)}
    (hl : ∀ l ∈ lines, '\r' ∉ l ∧ '\n' ∉ l)
    (hs : (((lines.map (· ++ ['\n'])).flatten).length : Int) ≤ getMaxMessageSize s₀)
    (hc : Answering (Open s₀ .data a bs s₀.bdatBuffer) L c) (hpc : c.pc = .dataBody) :
    ∃ c', (Answering (Between s₀) (L ++ [.body (lines.map (· ++ ['\n'])).flatten,
        .store ⟨a, bs, ⟨(lines.map (· ++ ['\n'])).flatten⟩, s₀.hostname, s₀.tlsState⟩ true,
        .reply "250 OK Message accepted for delivery"]) c' ∧ c'.pc = .loop) ∧
      ∀ ls, lockstep cfg o (dotBody lines :: ls) c = lockstep cfg o ls c' := by
  simpa only [List.append_assoc, List.singleton_append] using
    lockstep_done cfg o (step_body_deliver cfg o framed_open hc hpc hl)
      (answering_resume_done framed_between (Hoare.bind (answering_logEvent _) fun _ =>
        hoare_done (answering_finishData o hst hs)))

theorem lockstep_bdat {st : State} (hst : st = .rcpt ∨ st = .bdat) {buf ch : List Char}
    (hne : ch ≠ []) {last : Bool} (hsize : buf.length + ch.length ≤ maxAlloc)
    (hmax : ((buf.length + ch.length : Nat) : Int) ≤ getMaxMessageSize s₀)
    {p' : Session → Prop} {L' : List Event} (hp' : Framed p')
    (hx : Hoare (Answering (Open s₀ st a bs buf) (L ++ [.line (bdatLine ch.length last), .chunk ch]))
      (finishBdat o ch last) (fun _ => Answering p' L') (fun _ _ => False))
    (hc : Answering (Open s₀ st a bs buf) L c) (hpc : c.pc = .loop) :
    ∃ c', (Answering p' L' c' ∧ c'.pc = .loop) ∧
      ∀ ls, lockstep cfg o (bdatLine ch.length last :: ⟨ch⟩ :: ls) c = lockstep cfg o ls c' := by
  have hq : Pc.bdatChunk ch.length last = .bdatChunk (ch.length - 1 + 1) last := by
    rw [Nat.sub_add_cancel (List.length_pos.2 hne)]
  have hl := commandLine_bdat (n := ch.length) (by omega) last
  obtain ⟨c₁, ⟨h₁, hpc₁⟩, e₁⟩ := lockstep_wait cfg o (.inr (.inl ⟨_, last, hq⟩))
    (step_loop_deliver cfg o framed_open hc hpc hl.newline)
    (answering_command_runLine cfg o hl framed_open (v := .bdat) rfl
      (fun _ hs => by rcases hst with h | h <;> simp [Verb.allowedIn, hs.state, h])
      (by cases last <;> rfl) (answering_resume_wait (answering_handleBdat hst last hsize hmax)))
  obtain ⟨c₂, h₂, e₂⟩ := step_chunk_deliver cfg o framed_open h₁ hne hpc₁
  have h := settle_done (answering_resume_done hp' (hoare_done
    (by simpa only [List.append_assoc, List.singleton_append] using hx)) c₂ h₂)
  exact ⟨_, h, fun ls => by
    rw [e₁, lockstep, e₂]
    exact congrArg _ (run_stopped cfg o (step_listening cfg o h.1.2 (.inl h.2)) 18)⟩

theorem lockstep_chunks {n : Nat} (hn : n ≤ maxAlloc) (hm : (n : Int) ≤ getMaxMessageSize s₀) :
    ∀ {chunks : List (List Char)} {st : State} {buf : List Char} {L : List Event} {c : Conf},
    (st = .rcpt ∨ st = .bdat) → (∀ ch ∈ chunks, ch ≠ []) → buf.length + chunks.flatten.length ≤ n →
    Answering (Open s₀ st a bs buf) L c → c.pc = .loop →
    ∃ st' c', (st' = .rcpt ∨ st' = .bdat) ∧
      (Answering (Open s₀ st' a bs (buf ++ chunks.flatten)) (L ++ chunks.flatMap chunkEvents) c' ∧
        c'.pc = .loop) ∧
      ∀ ls, lockstep cfg o (chunks.flatMap chunkLines ++ ls) c = lockstep cfg o ls c'
  | [], st, _, _, c, hst, _, _, hc, hpc =>
    ⟨st, c, hst, by simpa using And.intro hc hpc, fun _ => rfl⟩
  | ch :: chunks, _, buf, _, _, hst, hne, hb, hc, hpc => by
    obtain ⟨hch, hne⟩ := List.forall_mem_cons.1 hne
    simp only [List.flatten_cons, List.length_append] at hb
    obtain ⟨c₁, h₁, e₁⟩ := lockstep_bdat cfg o hst hch (by omega) (by push_cast; omega) framed_open
      (answering_finishBdat_more o ch) hc hpc
    obtain ⟨st', c₂, hst', h₂, e₂⟩ := lockstep_chunks hn hm (.inr rfl) hne
      (by rw [List.length_append]; omega) h₁.1 h₁.2
    refine ⟨st', c₂, hst', by simpa only [List.flatten_cons, List.flatMap_cons, List.append_assoc,
      chunkEvents, List.cons_append, List.nil_append] using h₂, fun ls => ?_⟩
    rw [List.flatMap_cons, List.append_assoc, chunkLines, List.cons_append, List.cons_append,
      List.nil_append, e₁, e₂]

theorem lockstep_last (hst : o.store = none) (h0 : s₀.bdatBuffer = []) {st : State}
    (hs : st = .rcpt ∨ st = .bdat) {buf ch : List Char} (hne : ch ≠ [])
    (hsize : buf.length + ch.length ≤ maxAlloc)
    (hmax : ((buf.length + ch.length : Nat) : Int) ≤ getMaxMessageSize s₀)
    (hc : Answering (Open s₀ st a bs buf) L c) (hpc : c.pc = .loop) :
    ∃ c', (Answering (Between s₀) (L ++ [.line (bdatLine ch.length true), .chunk ch,
        .store ⟨a, bs, ⟨buf ++ ch⟩, s₀.hostname, s₀.tlsState⟩ true,
        .reply "250 OK Message accepted for delivery"]) c' ∧ c'.pc = .loop) ∧
      ∀ ls, lockstep cfg o (bdatLine ch.length true :: ⟨ch⟩ :: ls) c = lockstep cfg o ls c' :=
  lockstep_bdat cfg o hs hne hsize hmax framed_between
    ((answering_finishBdat_last o hst h0 ch).mono (fun _ _ h => by simpa using h) fun _ _ h => h)
    hc hpc

theorem lockstep_payload (hst : o.store = none) {P : Payload} (hP : P.Ok s₀)
    (hs : (P.content.length : Int) ≤ getMaxMessageSize s₀)
    (hc : Answering (Open s₀ .rcpt a bs s₀.bdatBuffer) L c) (hpc : c.pc = .loop) :
    ∃ c', (Answering (Between s₀) (L ++ P.events ⟨a, bs, ⟨P.content⟩, s₀.hostname, s₀.tlsState⟩)
        c' ∧ c'.pc = .loop) ∧
      ∀ ls, lockstep cfg o (P.lines ++ ls) c = lockstep cfg o ls c' := by
  cases P with
  | data lines =>
    obtain ⟨c₁, h₁, e₁⟩ := lockstep_data cfg o hc hpc
    obtain ⟨c₂, h₂, e₂⟩ := lockstep_body cfg o hst hP hs h₁.1 h₁.2
    refine ⟨c₂, by simpa only [Payload.events, Payload.content, List.append_assoc,
      List.cons_append, List.nil_append] using h₂, fun ls => ?_⟩
    simp only [Payload.lines, List.cons_append, List.nil_append, e₁, e₂]
  | bdat chunks last =>
    obtain ⟨h0, hne, hlast, hA⟩ := hP
    simp only [Payload.content, List.length_append] at hA hs
    rw [h0] at hc
    obtain ⟨st, c₁, hst₁, h₁, e₁⟩ := lockstep_chunks cfg o hA (by push_cast at hs ⊢; omega)
      (.inl rfl) hne (by simp) hc hpc
    obtain ⟨c₂, h₂, e₂⟩ := lockstep_last cfg o hst h0 hst₁ hlast (by simpa only [List.nil_append] using hA)
      (by push_cast at hs ⊢; simp only [List.length_nil, List.nil_append]; omega) h₁.1 h₁.2
    refine ⟨c₂, by simpa only [Payload.events, Payload.content, List.nil_append,
      List.append_assoc, List.cons_append] using h₂, fun ls => ?_⟩
    simp only [Payload.lines, List.append_assoc, List.cons_append, List.nil_append, e₁, e₂]

theorem lockstep_transaction (hst : o.store = none) {m : Mail} (hm : m.Deliverable cfg.lib s₀)
    (hc : Answering (Between s₀) L c) (hpc : c.pc = .loop) :
    ∃ c', (Answering (Between s₀) (L ++ m.events s₀) c' ∧ c'.pc = .loop) ∧
      ∀ ls, lockstep cfg o (m.lines ++ ls) c = lockstep cfg o ls c' := by
  obtain ⟨c₁, h₁, e₁⟩ := lockstep_mail cfg o hm.sender hm.mail_error hm.data_error hc hpc
  obtain ⟨c₂, h₂, e₂⟩ := lockstep_rcpts cfg o hm.recipients h₁.1 h₁.2
  obtain ⟨c₃, h₃, e₃⟩ := lockstep_payload cfg o hst hm.payload hm.size h₂.1 h₂.2
  refine ⟨c₃, by simpa only [Mail.events, Mail.message, List.append_assoc, List.cons_append,
    List.nil_append] using h₃, fun ls => ?_⟩
  simp only [Mail.lines, List.cons_append, List.append_assoc, e₁, e₂, e₃, List.nil_append]

theorem lockstep_transactions (hst : o.store = none) :
    ∀ {ms : List Mail} {L : List Event} {c : Conf},
    (∀ m ∈ ms, m.Deliverable cfg.lib s₀) → Answering (Between s₀) L c → c.pc = .loop →
    ∃ c', (Answering (Between s₀) (L ++ ms.flatMap (Mail.events s₀)) c' ∧ c'.pc = .loop) ∧
      ∀ ls, lockstep cfg o (ms.flatMap Mail.lines ++ ls) c = lockstep cfg o ls c'
  | [], _, c, _, hc, hpc => ⟨c, by simpa using And.intro hc hpc, fun _ => rfl⟩
  | m :: ms, _, _, hm, hc, hpc => by
    obtain ⟨hm₁, hms⟩ := List.forall_mem_cons.1 hm
    obtain ⟨c₁, h₁, e₁⟩ := lockstep_transaction cfg o hst hm₁ hc hpc
    obtain ⟨c₂, h₂, e₂⟩ := lockstep_transactions hst hms h₁.1 h₁.2
    refine ⟨c₂, by simpa only [List.flatMap_cons, List.append_assoc] using h₂, fun ls => ?_⟩
    rw [List.flatMap_cons, List.append_assoc, e₁, e₂]

end

/-- Each deliverable transaction is stored once and answered 250, in order. -/
theorem transactions_delivered (cfg : Config) (o : Outcome) (hst : o.store = none) {c : Conf}
    (hl : Listening c) (hpc : c.pc = .loop) (hs : c.s.state = .mail) (hr : c.s.rcptTo = [])
    {ms : List Mail} (hm : ∀ m ∈ ms, m.Deliverable cfg.lib c.s) :
    (lockstep cfg o (ms.flatMap Mail.lines) c).log = c.log ++ ms.flatMap (Mail.events c.s) ∧
      Between c.s (lockstep cfg o (ms.flatMap Mail.lines) c).s ∧
      (lockstep cfg o (ms.flatMap Mail.lines) c).pc = .loop ∧
      Listening (lockstep cfg o (ms.flatMap Mail.lines) c) := by
  obtain ⟨c', ⟨⟨⟨hlog, hidle⟩, hl'⟩, hpc'⟩, e⟩ :=
    lockstep_transactions cfg o hst hm ⟨⟨rfl, hs, hr, rfl, ⟨rfl, rfl, rfl, rfl⟩, .inr rfl⟩, hl⟩ hpc
  rw [← List.append_nil (ms.flatMap Mail.lines), e [], lockstep]
  exact ⟨hlog, hidle, hpc', hl'⟩

set_option maxRecDepth 100000 in
theorem ehlo_mail_delivered :
    let c := session ["EHLO c"]
    let ms : List Mail := [⟨"a@b.c", ["d@e.f"], .data ["hi".data, ".x".data]⟩,
      ⟨"a@b.c", [], .bdat ["hi".data] "!".data⟩]
    (Listening c ∧ c.pc = .loop ∧ c.s.state = .mail ∧ c.s.rcptTo = [] ∧
      ∀ m ∈ ms, m.Deliverable plainPort.lib c.s) ∧
      (lockstep plainPort ⟨none, true, 0, 0⟩ (ms.flatMap Mail.lines) c).log =
          c.log ++ ms.flatMap (Mail.events c.s) ∧
        Between c.s (lockstep plainPort ⟨none, true, 0, 0⟩ (ms.flatMap Mail.lines) c).s ∧
        (lockstep plainPort ⟨none, true, 0, 0⟩ (ms.flatMap Mail.lines) c).pc = .loop ∧
        Listening (lockstep plainPort ⟨none, true, 0, 0⟩ (ms.flatMap Mail.lines) c) :=
  have hl : Listening (session ["EHLO c"]) :=
    ⟨by decide, by decide, by decide, by decide, .plain, by decide⟩
  have hsa : Sendable plainPort.lib (session ["EHLO c"]).s.capabilities.smtputf8 "a@b.c" :=
    ⟨by decide, by decide, by decide, by decide, by decide⟩
  have hm : ∀ m ∈ [(⟨"a@b.c", ["d@e.f"], .data ["hi".data, ".x".data]⟩ : Mail),
      ⟨"a@b.c", [], .bdat ["hi".data] "!".data⟩],
      m.Deliverable plainPort.lib (session ["EHLO c"]).s := by
    simp only [List.mem_cons, List.mem_singleton, forall_eq_or_imp, forall_eq, List.not_mem_nil,
      false_imp_iff, implies_true, and_true]
    refine ⟨⟨hsa, by decide, by decide, ?_, by decide, by decide⟩,
      ⟨hsa, by decide, by decide, by simp, ⟨by decide, by decide, by decide, by decide⟩, by decide⟩⟩
    simp only [List.mem_singleton, forall_eq]
    exact ⟨⟨by decide, by decide, by decide, by decide, by decide⟩, by decide⟩
  ⟨⟨hl, by decide, by decide, by decide, hm⟩,
    transactions_delivered plainPort ⟨none, true, 0, 0⟩ rfl hl (by decide) (by decide) (by decide)
      hm⟩

end BadSmtp.Server
