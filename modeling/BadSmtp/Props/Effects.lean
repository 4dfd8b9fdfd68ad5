import BadSmtp.Props.Invariant

/-! What a command does against what it answers: each handler either makes its effect and
answers its success reply, or makes none of it and answers a refusal, whose code a client-chosen
pattern may set to anything, 2xx included. -/
namespace BadSmtp.Server
open BadSmtp.Go BadSmtp.Smtp

def At (L : List Event) (s₀ : Session) (c : Conf) : Prop := c.log = L ∧ c.s = s₀

/-- A handler that answers once: its success reply with its effect, or a refusal without. -/
def Settled (c : Conf) (ok err : String → Prop) (eff keep : Session → Prop) (c' : Conf) :
    Prop :=
  ∃ r, c'.log = c.log ++ [.reply r] ∧ (ok r ∧ eff c'.s ∨ err r ∧ keep c'.s)

section
variable {c : Conf} {ok err : String → Prop} {eff keep : Session → Prop} {L : List Event}
  {s₀ : Session} {E : GoErr → Conf → Prop}

theorem hoare_at_getS_bind {β : Type} {Q : β → Conf → Prop} {f : Session → GoM β}
    (h : Hoare (At L s₀) (f s₀) Q E) : Hoare (At L s₀) (getS >>= f) Q E :=
  Hoare.getS_bind (R := (· = s₀)) (fun _ h => h.2) fun _ hs => hs ▸ h

theorem hoare_at_modifyS (f : Session → Session) :
    Hoare (At L s₀) (modifyS f) (fun _ => At L (f s₀)) E :=
  fun _ h => ⟨h.1, congrArg f h.2⟩

theorem hoare_at_updateS_bind {α β : Type} {Q : β → Conf → Prop} {f : Session → Session × α}
    {g : α → GoM β} (h : Hoare (At L (f s₀).1) (g (f s₀).2) Q E) :
    Hoare (At L s₀) (updateS f >>= g) Q E := fun _ ⟨hl, hs⟩ => by
  subst hs
  exact h _ ⟨hl, rfl⟩

theorem hoare_at_logEvent (ev : Event) :
    Hoare (At L s₀) (logEvent ev) (fun _ => At (L ++ [ev]) s₀) E :=
  fun _ h => ⟨congrArg (· ++ [ev]) h.1, h.2⟩

def RepliedOnce (L : List Event) (c : Conf) : Prop := c.log = L ∨ ∃ r, c.log = L ++ [.reply r]

theorem hoare_at_replied {r : String} :
    Hoare (At L s₀) (writeResponse r) (fun _ c => ∃ r, c.log = L ++ [.reply r])
      (fun _ c => ∃ r, c.log = L ++ [.reply r]) :=
  Hoare.writeResponse_framed fun _ _ _ _ _ ⟨hl, _⟩ => ⟨r, hl ▸ rfl⟩

theorem hoare_at_repliedOnce {r : String} :
    Hoare (At L s₀) (writeResponse r) (fun _ => RepliedOnce L) (fun _ => RepliedOnce L) :=
  Hoare.writeResponse_framed fun _ _ _ _ _ ⟨hl, _⟩ => .inr ⟨r, hl ▸ rfl⟩

theorem hoare_suspend {P : Conf → Prop} {p : Pc} (h : ∀ c, P c → P { c with pc := p }) :
    Hoare P (suspend p) (fun _ => P) E :=
  Hoare.bind (R := fun _ => P) h fun _ => Hoare.pure _ fun _ h => h

theorem hoare_settled_reply {r : String}
    (h : ok r ∧ (∀ q, eff { s₀ with responseQueue := q }) ∨
      err r ∧ (∀ q, keep { s₀ with responseQueue := q })) :
    Hoare (At c.log s₀) (writeResponse r) (fun _ => Settled c ok err eff keep)
      (fun _ => Settled c ok err eff keep) :=
  Hoare.writeResponse_framed fun _ q _ _ _ ⟨hl, hs⟩ =>
    ⟨r, hl ▸ rfl, hs ▸ h.imp (fun h => ⟨h.1, h.2 q⟩) fun h => ⟨h.1, h.2 q⟩⟩

end

section
variable (cfg : Config)

@[reducible] def argMailbox (cmd : Command) : String :=
  normaliseMailbox (extractMailboxFromArg cfg.lib (cmd.args.headD ""))

def rejectsEhlo (hostname : String) : Bool :=
  let parts := parseCapabilityLabel (toLower hostname)
  hasCapability parts "reject" || hasCapability parts "noehl"

theorem settled_handleHelo (cmd : Command) (c : Conf)
    (hr : cmd.name = Verb.ehlo.name → rejectsEhlo (cmd.args.headD "") = false) :
    Settled c
      (fun r => r = "250 badsmtp.test" ∨ ∃ l, r = joinCrlf (["250-badsmtp.test"] ++ l ++ ["250 OK"]))
      (fun r => r = "503 Bad sequence of commands" ∨
        ∃ e, extractHeloError (cmd.args.headD "") = some e ∧ r = formatErrorResult c.s.capabilities e)
      (fun s => s.state = .mail) (fun s => s.state = c.s.state) (handleHelo cmd c).2 := by
  refine Hoare.snd (P := At c.log c.s) ?_ ⟨rfl, rfl⟩
  unfold handleHelo; dsimp only
  refine hoare_at_getS_bind ?_
  split
  · exact hoare_settled_reply (.inr ⟨.inl rfl, fun _ => rfl⟩) -- 503 outside HELO
  refine Hoare.bind (hoare_at_modifyS _) fun _ => ?_
  split
  · with_reducible exact hoare_settled_reply (.inr ⟨.inr ⟨_, ‹_›, rfl⟩, fun _ => rfl⟩) -- helo<NNN>
  refine Hoare.bind (hoare_at_modifyS _) fun _ => ?_
  split
  · unfold handleEhlo; dsimp only
    split
    · simp_all [rejectsEhlo] -- 502 for a reject or noehl label, which `hr` excludes
    · with_reducible apply hoare_at_updateS_bind
      with_reducible exact (hoare_settled_reply
        (.inl ⟨.inr ⟨_, rfl⟩, fun _ => addStandardCapabilities_state _ _⟩))
  · with_reducible exact hoare_settled_reply (.inl ⟨.inl rfl, fun _ => rfl⟩) -- HELO

theorem settled_handleMail (cmd : Command) (c : Conf) :
    Settled c (· = "250 OK")
      (fun r => r = "503 Bad sequence of commands" ∨ r = "501 Syntax error in parameters" ∨
        ∃ e, extractMailFromError (argMailbox cfg cmd) = some e ∧
          r = formatErrorResult c.s.capabilities e)
      (fun s => s.state = .rcpt ∧ s.mailFrom = argMailbox cfg cmd)
      (fun s => s.state = c.s.state ∧ s.mailFrom = c.s.mailFrom) (handleMail cfg cmd c).2 := by
  refine Hoare.snd (P := At c.log c.s) ?_ ⟨rfl, rfl⟩
  unfold handleMail; dsimp only
  refine hoare_at_getS_bind ?_
  split
  · exact hoare_settled_reply (.inr ⟨.inl rfl, fun _ => ⟨rfl, rfl⟩⟩) -- 503 outside MAIL
  split
  · exact hoare_settled_reply (.inr ⟨.inr (.inl rfl), fun _ => ⟨rfl, rfl⟩⟩) -- 501: no address
  split
  · exact hoare_settled_reply (.inr ⟨.inr (.inl rfl), fun _ => ⟨rfl, rfl⟩⟩) -- 501: not valid
  split
  · exact hoare_settled_reply (.inr ⟨.inr (.inr ⟨_, ‹_›, rfl⟩), fun _ => ⟨rfl, rfl⟩⟩) -- mail<NNN>
  · refine Hoare.bind (hoare_at_modifyS _) fun _ => ?_
    with_reducible exact hoare_settled_reply (.inl ⟨rfl, fun _ => ⟨rfl, rfl⟩⟩)

set_option maxRecDepth 100000 in
/-- The code of a mail<NNN> or helo<NNN> pattern is any three digits. -/
theorem mail099_answered_code_99 :
    (runLine plainPort ⟨none, true, 0, 0⟩ "MAIL FROM:<mail099@x>".data (session ["EHLO c"])).2.log =
        (session ["EHLO c"]).log ++ [.line "MAIL FROM:<mail099@x>", .reply "99 Unknown error"] ∧
      extractMailFromError "mail099@x" = some ⟨99, ""⟩ ∧
      (runLine plainPort ⟨none, true, 0, 0⟩ "EHLO helo000.x".data (session [])).2.log.getLast? =
        some (.reply "0 Unknown error") := by
  decide

theorem settled_handleRcpt (cmd : Command) (c : Conf) :
    Settled c (· = "250 OK")
      (fun r => r = "503 Bad sequence of commands" ∨ r = "501 Syntax error in parameters" ∨
        ∃ e, extractRcptToError (argMailbox cfg cmd) = some e ∧
          r = formatErrorResult c.s.capabilities e)
      (fun s => s.rcptTo = c.s.rcptTo ++ [argMailbox cfg cmd]) (fun s => s.rcptTo = c.s.rcptTo)
      (handleRcpt cfg cmd c).2 := by
  refine Hoare.snd (P := At c.log c.s) ?_ ⟨rfl, rfl⟩
  unfold handleRcpt; dsimp only
  refine hoare_at_getS_bind ?_
  split
  · exact hoare_settled_reply (.inr ⟨.inl rfl, fun _ => rfl⟩) -- 503 outside RCPT
  split
  · exact hoare_settled_reply (.inr ⟨.inr (.inl rfl), fun _ => rfl⟩) -- 501: no address
  split
  · exact hoare_settled_reply (.inr ⟨.inr (.inl rfl), fun _ => rfl⟩) -- 501: not valid
  split
  · exact hoare_settled_reply (.inr ⟨.inr (.inr ⟨_, ‹_›, rfl⟩), fun _ => rfl⟩) -- rcpt<NNN>
  · refine Hoare.bind (hoare_at_modifyS _) fun _ => ?_
    with_reducible exact hoare_settled_reply (.inl ⟨rfl, fun _ => rfl⟩)

end

theorem settled_handleRset (c : Conf) :
    Settled c (· = "250 OK")
      (fun r => ∃ e, c.s.rsetErrorResult = some e ∧ r = formatErrorResult c.s.capabilities e)
      (fun s => s.state = .mail ∧ s.mailFrom = "" ∧ s.rcptTo = [])
      (fun s => s.state = c.s.state ∧ s.mailFrom = c.s.mailFrom ∧ s.rcptTo = c.s.rcptTo)
      (handleRset c).2 := by
  refine Hoare.snd (P := At c.log c.s) ?_ ⟨rfl, rfl⟩
  unfold handleRset
  refine hoare_at_getS_bind ?_
  split
  · exact hoare_settled_reply (.inr ⟨⟨_, ‹_›, rfl⟩, fun _ => ⟨rfl, rfl, rfl⟩⟩)
  · exact Hoare.bind (hoare_at_modifyS _) fun _ =>
      hoare_settled_reply (.inl ⟨rfl, fun _ => ⟨rfl, rfl, rfl⟩⟩)

theorem settled_authFinish (cfg : Config) (res : Except GoErr String) (c : Conf) :
    Settled c (· = "235 Authentication successful")
      (fun r => r = "535 Authentication failed" ∨ r = "535 Authentication failed: account inactive")
      (fun s => s.authenticated = true ∧ s.state = .mail)
      (fun s => s.authenticated = c.s.authenticated) (authFinish cfg res c).2 := by
  refine Hoare.snd (P := At c.log c.s) ?_ ⟨rfl, rfl⟩
  unfold authFinish
  rcases res with _ | user <;> dsimp only
  · exact hoare_settled_reply (.inr ⟨.inl rfl, fun _ => rfl⟩)
  rcases cfg.authenticate user with _ | _ | _ <;> dsimp only
  · exact hoare_settled_reply (.inr ⟨.inl rfl, fun _ => rfl⟩)
  · exact hoare_settled_reply (.inr ⟨.inr rfl, fun _ => rfl⟩)
  · exact Hoare.bind (hoare_at_modifyS _) fun _ => hoare_settled_reply (.inl ⟨rfl, fun _ => ⟨rfl, rfl⟩⟩)

/-- handleAuth refuses with no effect (503, the scheduled error, 504) or starts the mechanism. -/
theorem settled_handleAuth (cfg : Config) (o : Outcome) (cmd : Command) (c : Conf) :
    Settled c (fun _ => False)
        (fun r => r = "503 Bad sequence of commands" ∨
          (∃ e, c.s.authErrorResult = some e ∧ r = formatErrorResult c.s.capabilities e) ∨
          r = "504 Authentication mechanism not supported")
        (fun _ => False) (fun s => s.authenticated = c.s.authenticated ∧ s.state = c.s.state)
        (handleAuth cfg o cmd c).2 ∨
      ∃ m, (c.s.state = .mail ∨ c.s.state = .auth) ∧ c.s.authErrorResult = none ∧
        newHandler (cmd.args.headD "") = some m ∧
        handleAuth cfg o cmd c = authStart cfg o m (cmd.name :: cmd.args) c := by
  have hrefuse : ∀ {err : String → Prop} r, err r → Settled c (fun _ => False) err (fun _ => False)
      (fun s => s.authenticated = c.s.authenticated ∧ s.state = c.s.state) (done (writeResponse r) c).2 :=
    fun _ hr => Hoare.snd (P := At c.log c.s) (Hoare.bind
      (hoare_settled_reply (.inr ⟨hr, fun _ => ⟨rfl, rfl⟩⟩)) fun _ => Hoare.pure _ fun _ h => h) ⟨rfl, rfl⟩
  unfold handleAuth
  simp only [GoM.bind_apply, getS_apply]
  split
  · exact .inl (hrefuse _ (.inl rfl))
  next hs =>
  cases he : c.s.authErrorResult with
  | some e => exact .inl (hrefuse _ (.inr (.inl ⟨e, rfl, rfl⟩)))
  | none =>
    cases hm : newHandler (cmd.args.headD "") with
    | none => exact .inl (hrefuse _ (.inr (.inr rfl)))
    | some m => exact .inr ⟨m, or_iff_not_imp_left.mpr (by simpa using hs), rfl, rfl, rfl⟩

def messageOf (s : Session) (content : List Char) : Message :=
  { fromAddr := s.mailFrom, toAddrs := s.rcptTo, content := ⟨content⟩, hostname := s.hostname,
    tlsUsed := s.tlsState }

@[simp] theorem messageOf_bdatBuffer (s : Session) (b content : List Char) :
    messageOf { s with bdatBuffer := b } content = messageOf s content := rfl

def storageRefusal (r : String) : Prop :=
  r = "550 Requested action not taken: mailbox unavailable" ∨
    r = "452 Requested action not taken: insufficient system storage" ∨
    r = "450 Requested action not taken: mailbox temporarily unavailable"

/-- The Store call with `m` and its reply: 250 on success, handleStorageError's otherwise. -/
def StoreOutcome (o : Outcome) (L : List Event) (m : Message) (c : Conf) : Prop :=
  o.store = none ∧ c.log = L ++ [.store m true, .reply "250 OK Message accepted for delivery"] ∨
    o.store ≠ none ∧ ∃ r, storageRefusal r ∧ c.log = L ++ [.store m false, .reply r]

def DataOutcome (o : Outcome) (c : Conf) (data : List Char) (c' : Conf) : Prop :=
  getMaxMessageSize c.s < data.length ∧ c'.log = c.log ∨
    data.length ≤ getMaxMessageSize c.s ∧ StoreOutcome o c.log (messageOf c.s data) c'

section
variable (o : Outcome)

theorem hoare_at_handleStorageError {L : List Event} {s₀ : Session} {R : Conf → Prop}
    (err : String) (h : ∀ r c, storageRefusal r → c.log = L ++ [.reply r] → R c) :
    Hoare (At L s₀) (handleStorageError err) (fun _ => R) (fun _ => R) := by
  unfold handleStorageError
  split_ifs
  exacts [Hoare.writeResponse_framed fun _ _ _ _ _ hc => h _ _ (.inl rfl) (hc.1 ▸ rfl),
    Hoare.writeResponse_framed fun _ _ _ _ _ hc => h _ _ (.inr (.inl rfl)) (hc.1 ▸ rfl),
    Hoare.writeResponse_framed fun _ _ _ _ _ hc => h _ _ (.inr (.inr rfl)) (hc.1 ▸ rfl)]

theorem hoare_at_storeMessage {L : List Event} {s₀ : Session} {E : GoErr → Conf → Prop}
    (content : String) :
    Hoare (At L s₀) (storeMessage o content)
      (fun r c => At (L ++ [.store (messageOf s₀ content.data) o.store.isNone]) s₀ c ∧ r = o.store)
      E := by
  unfold storeMessage
  exact hoare_at_getS_bind (Hoare.bind (hoare_at_logEvent _) fun _ => Hoare.pure _ fun _ h => ⟨h, rfl⟩)

theorem finishData_outcome (data : List Char) (c : Conf) :
    DataOutcome o c data (finishData o data c).2 := by
  refine Hoare.snd (P := At c.log c.s) ?_ ⟨rfl, rfl⟩
  unfold finishData; dsimp only
  refine hoare_at_getS_bind ?_
  split
  · refine Hoare.bind (R := fun _ _ => False) (Hoare.throwErr fun _ h => ?_) fun _ _ h => h.elim
    exact .inl ⟨‹_›, h.1⟩
  refine Hoare.bind (Guards.pure _) fun _ => Hoare.bind (hoare_at_storeMessage o _) fun r =>
    Hoare.pull fun hr => ?_
  subst hr
  have hle : (data.length : Int) ≤ getMaxMessageSize c.s := by omega
  split
  · exact hoare_at_handleStorageError _ fun r _ hr hl =>
      .inr ⟨hle, .inr ⟨by simp [*], r, hr, by simp [hl, *]⟩⟩
  · exact Hoare.bind (hoare_at_modifyS _) fun _ =>
      Hoare.writeResponse_framed fun _ _ _ _ _ hc => .inr ⟨hle, .inl ⟨‹_›, by simp [hc.1, *]⟩⟩

theorem finishBdat_last_outcome (chunk : List Char) (c : Conf) :
    StoreOutcome o c.log (messageOf c.s (c.s.bdatBuffer ++ chunk)) (finishBdat o chunk true c).2 := by
  refine Hoare.snd (P := At c.log c.s) ?_ ⟨rfl, rfl⟩
  unfold finishBdat
  refine Hoare.bind (hoare_at_modifyS _) fun _ => ?_
  rw [if_pos rfl]
  refine hoare_at_getS_bind (Hoare.bind (hoare_at_storeMessage o _) fun r => Hoare.pull fun hr => ?_)
  subst hr
  split
  · exact hoare_at_handleStorageError _ fun r _ hr hl => .inr ⟨by simp [*], r, hr, by simp [hl, *]⟩
  · exact Hoare.bind (hoare_at_modifyS _) fun _ =>
      Hoare.writeResponse_framed fun _ _ _ _ _ hc => .inl ⟨‹_›, by simp [hc.1, *]⟩

theorem handleData_replies_once (c : Conf) : ∃ r, (handleData c).2.log = c.log ++ [.reply r] := by
  refine Hoare.snd (P := At c.log c.s) (R := fun c' => ∃ r, c'.log = c.log ++ [.reply r]) ?_
    ⟨rfl, rfl⟩
  unfold handleData; dsimp only
  refine hoare_at_getS_bind ?_
  split
  · exact Hoare.bind hoare_at_replied fun _ => Hoare.pure _ fun _ h => h -- 503 outside RCPT
  refine Hoare.bind (Guards.pure _) fun _ => ?_
  split
  · exact Hoare.bind hoare_at_replied fun _ => Hoare.pure _ fun _ h => h -- the DATA error
  · exact Hoare.bind (hoare_at_modifyS _) fun _ => -- 354, then the read of the body
      Hoare.bind hoare_at_replied fun _ => hoare_suspend fun _ h => h

end

theorem handleBdat_replies_at_most_once (cmd : Command) (c : Conf) :
    RepliedOnce c.log (handleBdat cmd c).2 :=
  Hoare.snd (P := At c.log c.s) (Hoare.handleBdat_of cmd
    (fun _ => Hoare.bind hoare_at_repliedOnce fun _ => Hoare.pure _ fun _ h => h)
    fun _ _ => Hoare.pre (fun _ h => .inl h.1) (hoare_suspend fun _ h => h)) ⟨rfl, rfl⟩

set_option maxRecDepth 100000 in
/-- handleBdat's size check wraps in 64-bit int, and make then panics. -/
theorem bdat_count_wraps_past_size_check :
    (session ["EHLO c", "MAIL FROM:<a@x>", "RCPT TO:<b@y>", "BDAT 1", "x"]).s.bdatBuffer.length = 1 ∧
      (session ["EHLO c", "MAIL FROM:<a@x>", "RCPT TO:<b@y>", "BDAT 1", "x"]).pc = .loop ∧
      getMaxMessageSize (session ["EHLO c", "MAIL FROM:<a@x>", "RCPT TO:<b@y>", "BDAT 1", "x"]).s <
        1 + (2 ^ 63 - 1 : Int) ∧
      wrapInt64 (1 + (2 ^ 63 - 1 : Int)) ≤
        getMaxMessageSize (session ["EHLO c", "MAIL FROM:<a@x>", "RCPT TO:<b@y>", "BDAT 1", "x"]).s ∧
      (session ["EHLO c", "MAIL FROM:<a@x>", "RCPT TO:<b@y>", "BDAT 1", "x",
        "BDAT 9223372036854775807"]).pc = .crashed := by
  decide

/-- Each command makes its effect exactly when it answers its success reply. -/
theorem effect_iff_success_reply (cfg : Config) (o : Outcome) :
    (∀ cmd c, (cmd.name = Verb.ehlo.name → rejectsEhlo (cmd.args.headD "") = false) →
      Settled c
        (fun r => r = "250 badsmtp.test" ∨ ∃ l, r = joinCrlf (["250-badsmtp.test"] ++ l ++ ["250 OK"]))
        (fun r => r = "503 Bad sequence of commands" ∨
          ∃ e, extractHeloError (cmd.args.headD "") = some e ∧ r = formatErrorResult c.s.capabilities e)
        (fun s => s.state = .mail) (fun s => s.state = c.s.state) (handleHelo cmd c).2) ∧
    (∀ cmd c, Settled c (· = "250 OK")
      (fun r => r = "503 Bad sequence of commands" ∨ r = "501 Syntax error in parameters" ∨
        ∃ e, extractMailFromError (argMailbox cfg cmd) = some e ∧
          r = formatErrorResult c.s.capabilities e)
      (fun s => s.state = .rcpt ∧ s.mailFrom = argMailbox cfg cmd)
      (fun s => s.state = c.s.state ∧ s.mailFrom = c.s.mailFrom) (handleMail cfg cmd c).2) ∧
    (∀ cmd c, Settled c (· = "250 OK")
      (fun r => r = "503 Bad sequence of commands" ∨ r = "501 Syntax error in parameters" ∨
        ∃ e, extractRcptToError (argMailbox cfg cmd) = some e ∧
          r = formatErrorResult c.s.capabilities e)
      (fun s => s.rcptTo = c.s.rcptTo ++ [argMailbox cfg cmd]) (fun s => s.rcptTo = c.s.rcptTo)
      (handleRcpt cfg cmd c).2) ∧
    (∀ c, Settled c (· = "250 OK")
      (fun r => ∃ e, c.s.rsetErrorResult = some e ∧ r = formatErrorResult c.s.capabilities e)
      (fun s => s.state = .mail ∧ s.mailFrom = "" ∧ s.rcptTo = [])
      (fun s => s.state = c.s.state ∧ s.mailFrom = c.s.mailFrom ∧ s.rcptTo = c.s.rcptTo)
      (handleRset c).2) ∧
    (∀ res c, Settled c (· = "235 Authentication successful")
      (fun r => r = "535 Authentication failed" ∨ r = "535 Authentication failed: account inactive")
      (fun s => s.authenticated = true ∧ s.state = .mail)
      (fun s => s.authenticated = c.s.authenticated) (authFinish cfg res c).2) ∧
    (∀ cmd c, Settled c (fun _ => False)
        (fun r => r = "503 Bad sequence of commands" ∨
          (∃ e, c.s.authErrorResult = some e ∧ r = formatErrorResult c.s.capabilities e) ∨
          r = "504 Authentication mechanism not supported")
        (fun _ => False) (fun s => s.authenticated = c.s.authenticated ∧ s.state = c.s.state)
        (handleAuth cfg o cmd c).2 ∨
      ∃ m, (c.s.state = .mail ∨ c.s.state = .auth) ∧ c.s.authErrorResult = none ∧
        newHandler (cmd.args.headD "") = some m ∧
        handleAuth cfg o cmd c = authStart cfg o m (cmd.name :: cmd.args) c) ∧
    (∀ c, ∃ r, (handleData c).2.log = c.log ++ [.reply r]) ∧
    (∀ data c, DataOutcome o c data (finishData o data c).2) ∧
    (∀ cmd c, RepliedOnce c.log (handleBdat cmd c).2) ∧
    (∀ chunk c, StoreOutcome o c.log (messageOf c.s (c.s.bdatBuffer ++ chunk))
      (finishBdat o chunk true c).2) :=
  ⟨settled_handleHelo, settled_handleMail cfg, settled_handleRcpt cfg, settled_handleRset,
    settled_authFinish cfg, settled_handleAuth cfg o, handleData_replies_once, finishData_outcome o, handleBdat_replies_at_most_once,
    finishBdat_last_outcome o⟩

set_option maxRecDepth 100000 in
theorem ehlo_after_greeting_settled :
    let c := session []
    c.s.state = .helo ∧
      Settled c
        (fun r => r = "250 badsmtp.test" ∨ ∃ l, r = joinCrlf (["250-badsmtp.test"] ++ l ++ ["250 OK"]))
        (fun r => r = "503 Bad sequence of commands" ∨
          ∃ e, extractHeloError "c" = some e ∧ r = formatErrorResult c.s.capabilities e)
        (fun s => s.state = .mail) (fun s => s.state = c.s.state) (handleHelo ⟨"EHLO", ["c"]⟩ c).2 :=
  ⟨by decide, (effect_iff_success_reply plainPort ⟨none, true, 0, 0⟩).1 ⟨"EHLO", ["c"]⟩ _
    fun _ => by decide⟩

set_option maxRecDepth 100000 in
theorem rcpt250_answered_2xx_without_recipient :
    let c := session ["EHLO c", "MAIL FROM:<a@x>"]
    let c' := (runLine plainPort ⟨none, true, 0, 0⟩ "RCPT TO:<rcpt250@y>".data c).2
    c'.log = c.log ++ [.line "RCPT TO:<rcpt250@y>", .reply "250 Unknown error"] ∧
      c'.s.rcptTo = c.s.rcptTo := by
  decide

end BadSmtp.Server
