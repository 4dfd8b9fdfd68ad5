import BadSmtp.Props.Invariant

/-! The errors an accepted MAIL FROM schedules: DATA, RSET, NOOP and QUIT fire on their next
command line in RCPT state; STARTTLS and AUTH are refused in every state of the transaction,
and BDAT's pattern is never scheduled. -/
namespace BadSmtp.Server
open BadSmtp.Go BadSmtp.Smtp

/-- The error result a session holds for a verb's command. -/
def scheduledError : Verb → Session → Option ErrorResult
  | .data, s => s.dataErrorResult
  | .rset, s => s.rsetErrorResult
  | .noop, s => s.noopErrorResult
  | .quit, s => s.quitErrorResult
  | .starttls, s => s.startTLSErrorResult
  | .auth, s => s.authErrorResult
  | _, _ => none

def scheduleFor : Verb → String → Option ErrorResult
  | .data => extractDataError
  | .rset => extractRsetError
  | .noop => extractNoopError
  | .quit => extractQuitError
  | .starttls => extractStartTLSError
  | .auth => extractAuthError
  | _ => fun _ => none

def firesInRcpt (v : Verb) : Prop := v = .data ∨ v = .rset ∨ v = .noop ∨ v = .quit

/-- In RCPT state, each verb's scheduled error is what its extractor finds in the sender. -/
def SchedulesSender (s : Session) : Prop :=
  s.state = .rcpt → ∀ v, scheduledError v s = scheduleFor v s.mailFrom

theorem framed_schedulesSender : Framed SchedulesSender :=
  ⟨fun _ _ h hr v => by have := h hr v; cases v <;> exact this,
    fun _ _ h hr v => by have := h hr v; cases v <;> exact this,
    fun _ _ h hr v => by have := h hr v; cases v <;> exact this⟩

theorem schedulesSender_recorded (s : Session) (a : String) :
    SchedulesSender { s with dataErrorResult := extractDataError a,
                             rsetErrorResult := extractRsetError a,
                             quitErrorResult := extractQuitError a,
                             startTLSErrorResult := extractStartTLSError a,
                             noopErrorResult := extractNoopError a,
                             authErrorResult := extractAuthError a,
                             mailFrom := a, state := .rcpt } :=
  fun _ v => by cases v <;> rfl

theorem handleMail_schedules (cfg : Config) (cmd : Command) (c : Conf) (hs : c.s.state = .mail) :
    SchedulesSender (handleMail cfg cmd c).2.s := by
  refine Guards.snd (P := fun c' => SchedulesSender c'.s) ?_ (fun h => by simp [hs] at h)
  unfold handleMail; dsimp only
  repeat' first
    | split
    | exact framed_schedulesSender.guards_reply _
    | (with_reducible apply Guards.bind Guards.getS); intro _
    | (with_reducible apply Guards.bind (Guards.modifyS fun c _ => schedulesSender_recorded c.s _))
      intro _

def PendingS (v : Verb) (e : ErrorResult) (caps : Capabilities) (s : Session) : Prop :=
  s.state = .rcpt ∧ scheduledError v s = some e ∧ s.capabilities = caps

theorem framed_pendingS (v : Verb) (e : ErrorResult) (caps : Capabilities) :
    Framed (PendingS v e caps) :=
  ⟨fun _ _ h => by cases v <;> exact h, fun _ _ h => by cases v <;> exact h,
    fun _ _ h => by cases v <;> exact h⟩

def Pending (v : Verb) (e : ErrorResult) (caps : Capabilities) (L : List Event) (c : Conf) :
    Prop :=
  Logged (PendingS v e caps) L c ∧ c.writable = true

def Fired (v : Verb) (L : List Event) (r : String) : Conf → Prop :=
  Logged (fun s => v = .quit ∨ s.state = .rcpt) (L ++ [.reply r])

theorem verb_bare_line (v : Verb) :
    trimSpace v.name.data = v.name.data ∧ v.name.data ≠ [] ∧
      ¬v.name.data.length > maxCommandLength ∧ parseCommand ⟨v.name.data⟩ = some ⟨v.name, []⟩ := by
  cases v <;> decide

theorem firesInRcpt.allowed {v : Verb} (hv : firesInRcpt v) :
    v.allowedIn .rcpt = true ∧ validateArgs v [] = none := by
  rcases hv with rfl | rfl | rfl | rfl <;> decide

section
variable (cfg : Config) (o : Outcome)
variable {v : Verb} {e : ErrorResult} {caps : Capabilities} {L : List Event} {r : String}
  {E : GoErr → Conf → Prop}

theorem guards_pending_flushResponses : Guards (Pending v e caps L) E flushResponses := by
  intro c h
  rw [flushResponses_eq]
  split_ifs with hq hw
  · exact h
  · exact ⟨⟨h.1.1, (framed_pendingS v e caps).queue _ _ h.1.2⟩, h.2⟩
  · exact absurd h.2 hw

theorem guards_pending_switch (b : Bool) :
    Guards (Pending v e caps L) E (modifyS fun s => { s with pipeliningMode := b }) :=
  Guards.modifyS fun c h => ⟨⟨h.1.1, (framed_pendingS v e caps).pipelining c.s b h.1.2⟩, h.2⟩

theorem guards_pending_detectPipelining : Guards (Pending v e caps L) E detectPipelining := by
  intro c h
  unfold detectPipelining
  split
  · exact h
  · exact ⟨⟨h.1.1, (framed_pendingS v e caps).reader _ _ h.1.2⟩, h.2⟩

theorem hoare_pending_logEvent (ev : Event) :
    Hoare (Pending v e caps L) (logEvent ev) (fun _ => Pending v e caps (L ++ [ev])) E :=
  fun c h => ⟨logged_logEvent (E := E) ev c h.1, h.2⟩

theorem hoare_fired_afterHandler (brk : Bool) (res : Except GoErr Flow) :
    Guards (Fired v L r) (fun _ => Fired v L r) (afterHandler brk res) :=
  Guards.afterHandler (Framed.logged_flush ⟨fun _ _ h => h, fun _ _ h => h, fun _ _ h => h⟩) brk res

theorem hoare_fired_dispatch (hv : firesInRcpt v) (cmd : Command) :
    Hoare (Pending v e caps L) (dispatch cfg o v cmd) (fun _ => Fired v L (formatErrorResult caps e))
      (fun _ => Fired v L (formatErrorResult caps e)) := by
  have hw : Hoare (Pending v e caps L) (writeResponse (formatErrorResult caps e))
      (fun _ => Fired v L (formatErrorResult caps e)) (fun _ => Fired v L (formatErrorResult caps e)) :=
    Hoare.writeResponse_framed fun c _ _ _ _ h => ⟨congrArg (· ++ _) h.1.1, Or.inr h.1.2.1⟩
  have hdone : ∀ {x : GoM Unit}, Hoare (Pending v e caps L) x
      (fun _ => Fired v L (formatErrorResult caps e)) (fun _ => Fired v L (formatErrorResult caps e)) →
      Hoare (Pending v e caps L) (done x)
      (fun _ => Fired v L (formatErrorResult caps e)) (fun _ => Fired v L (formatErrorResult caps e)) :=
    fun h => Hoare.bind h fun _ => Hoare.pure _ fun _ h => h
  rcases hv with rfl | rfl | rfl | rfl
  · -- DATA
    refine Hoare.getS_bind (R := PendingS .data e caps) (fun _ h => h.1.2) fun s ⟨hs, he, hc⟩ => ?_
    simp only [scheduledError] at he
    simp only [hs, he, hc, ne_eq, not_true_eq_false, if_false]
    exact Hoare.bind (Guards.pure _) fun _ => Hoare.bind hw fun _ => Hoare.pure _ fun _ h => h
  · -- RSET
    refine hdone (Hoare.getS_bind (R := PendingS .rset e caps) (fun _ h => h.1.2) fun s ⟨_, he, hc⟩ => ?_)
    simp only [scheduledError] at he
    simp only [he, hc]
    exact hw
  · -- NOOP
    refine hdone (Hoare.getS_bind (R := PendingS .noop e caps) (fun _ h => h.1.2) fun s ⟨_, he, hc⟩ => ?_)
    simp only [scheduledError] at he
    simp only [he, hc]
    exact hw
  · -- QUIT
    refine hdone (Hoare.getS_bind (R := PendingS .quit e caps) (fun _ h => h.1.2) fun s ⟨_, he, hc⟩ => ?_)
    simp only [scheduledError] at he
    simp only [he, hc]
    exact Hoare.bind hw fun _ => Hoare.bind (Guards.modifyS fun c h => ⟨h.1, Or.inl rfl⟩) fun _ =>
      Hoare.throwErr fun _ h => h

theorem hoare_pending_parse (hv : firesInRcpt v) :
    Hoare (Pending v e caps L) (parseAndLogCommand ⟨v.name.data⟩)
      (fun r c => Pending v e caps L c ∧ r = some (v, ⟨v.name, []⟩)) E := by
  obtain ⟨-, -, -, hp⟩ := verb_bare_line v
  obtain ⟨ha, hval⟩ := hv.allowed
  unfold parseAndLogCommand
  simp only [hp, Verb.ofName_name]
  refine Hoare.getS_bind (R := fun s => s.state = .rcpt) (fun _ h => h.1.2.1) fun s hs => ?_
  simp only [hs, ha, hval, Bool.not_true, Bool.false_eq_true, if_false]
  exact Hoare.pure _ fun _ h => ⟨h, rfl⟩

theorem hoare_fired_handleCommand (hv : firesInRcpt v) :
    Hoare (Pending v e caps L) (handleCommand cfg o ⟨v.name.data⟩)
      (fun _ => Fired v L (formatErrorResult caps e))
      (fun _ => Fired v L (formatErrorResult caps e)) := by
  have hd := Hoare.bind (Hoare.attempt (Q := fun _ => Fired v L (formatErrorResult caps e))
    (hoare_fired_dispatch cfg o hv ⟨v.name, []⟩)) (hoare_fired_afterHandler (breaksPipelining v))
  unfold handleCommand
  refine Hoare.bind (hoare_pending_parse hv) fun r => Hoare.pull fun hr => ?_
  subst hr
  dsimp only
  split
  · exact Hoare.bind guards_pending_flushResponses fun _ =>
      Hoare.bind (guards_pending_switch false) fun _ => hd
  · exact Hoare.bind (Guards.pure _) fun _ => hd

theorem hoare_fired_runLine (hv : firesInRcpt v) :
    Hoare (Pending v e caps L) (runLine cfg o v.name.data)
      (fun _ => Fired v (L ++ [.line v.name]) (formatErrorResult caps e))
      (fun _ => Fired v (L ++ [.line v.name]) (formatErrorResult caps e)) := by
  obtain ⟨ht, hne, hlen, -⟩ := verb_bare_line v
  rw [← ht] at hne hlen
  refine Hoare.runLine_of _ (absurd · hne) (hoare_pending_logEvent _) (absurd · hlen)
    guards_pending_detectPipelining (guards_pending_switch _) fun _ => ?_
  rw [ht]
  exact hoare_fired_handleCommand cfg o hv

end

/-- The states of a mail transaction. -/
def InTransaction (st : State) : Prop := st = .rcpt ∨ st = .data ∨ st = .bdat

instance : DecidablePred InTransaction := fun _ => inferInstanceAs (Decidable (_ ∨ _))

theorem inTransaction_refuses {st : State} (h : InTransaction st) :
    Verb.starttls.allowedIn st = false ∧ Verb.auth.allowedIn st = false := by
  rcases h with rfl | rfl | rfl <;> decide

/-- Which scheduled errors fire within their transaction, and which are refused. -/
theorem scheduled_errors_answer_in_transaction (cfg : Config) (o : Outcome) :
    (∀ cmd c, c.s.state = .mail → SchedulesSender (handleMail cfg cmd c).2.s) ∧
    (∀ v e c, firesInRcpt v → c.s.state = .rcpt → scheduledError v c.s = some e →
      c.writable = true →
      (runLine cfg o v.name.data c).2.log =
          c.log ++ [.line v.name, .reply (formatErrorResult c.s.capabilities e)] ∧
        (v = .quit ∨ (runLine cfg o v.name.data c).2.s.state = .rcpt)) ∧
    (∀ line cmd c, trimSpace line ≠ [] → ¬(trimSpace line).length > maxCommandLength →
      parseCommand ⟨trimSpace line⟩ = some cmd → (cmd.name = "STARTTLS" ∨ cmd.name = "AUTH") →
      InTransaction c.s.state →
      (runLine cfg o line c).2.log =
        c.log ++ [.line ⟨trimSpace line⟩, .reply (refusal cmd c.s.state)]) := by
  refine ⟨handleMail_schedules cfg, fun v e c hv hs he hw => ?_,
    fun line cmd c hne hlen hp hn ht => ?_⟩
  · have h := Hoare.snd (hoare_fired_runLine cfg o hv) (c := c) ⟨⟨rfl, hs, he, rfl⟩, hw⟩
    exact ⟨h.1.trans (List.append_assoc _ _ _), h.2⟩
  · obtain ⟨v, hv, hst⟩ : ∃ v, Verb.ofName cmd.name = some v ∧ v.allowedIn c.s.state = false := by
      rcases hn with hn | hn <;> rw [hn]
      exacts [⟨.starttls, rfl, (inTransaction_refuses ht).1⟩, ⟨.auth, rfl, (inTransaction_refuses ht).2⟩]
    exact (Hoare.snd (hoare_refused_runLine cfg o hne hlen hp hv hst) (c := c) ⟨rfl, rfl⟩).1

set_option maxRecDepth 100000 in
theorem noop550_sender_answered_on_noop :
    let o : Outcome := ⟨none, true, 0, 0⟩
    let c₀ := session ["EHLO c"]
    let c := session ["EHLO c", "MAIL FROM:<noop550@x>", "RCPT TO:<b@y>"]
    SchedulesSender (handleMail plainPort ⟨"MAIL", ["FROM:<noop550@x>"]⟩ c₀).2.s ∧
    ((runLine plainPort o "NOOP".data c).2.log =
        c.log ++ [.line "NOOP", .reply (formatErrorResult c.s.capabilities ⟨550, ""⟩)] ∧
      (Verb.noop = .quit ∨ (runLine plainPort o "NOOP".data c).2.s.state = .rcpt)) ∧
    (runLine plainPort o "AUTH PLAIN".data c).2.log =
      c.log ++ [.line "AUTH PLAIN", .reply (refusal ⟨"AUTH", ["PLAIN"]⟩ c.s.state)] :=
  have h := scheduled_errors_answer_in_transaction plainPort ⟨none, true, 0, 0⟩
  ⟨h.1 _ _ (by decide),
    h.2.1 .noop _ _ (Or.inr (Or.inr (Or.inl rfl))) (by decide) (by decide) (by decide),
    h.2.2 "AUTH PLAIN".data _ _ (by decide) (by decide) (by decide) (Or.inr rfl) (by decide)⟩

set_option maxRecDepth 100000 in
theorem starttls454_and_bdat550_not_answered :
    let c := session ["EHLO c", "MAIL FROM:<starttls454@example.com>"]
    let d := session ["EHLO c", "MAIL FROM:<bdat550@x>", "RCPT TO:<b@y>", "BDAT 1 LAST\r\nx"]
    c.s.state = .rcpt ∧ c.s.startTLSErrorResult = some ⟨454, ""⟩ ∧
    (∀ (cfg : Config) (o : Outcome) (c' : Conf), InTransaction c'.s.state →
      (runLine cfg o "STARTTLS".data c').2.log =
          c'.log ++ [.line "STARTTLS", .reply (refusal ⟨"STARTTLS", []⟩ c'.s.state)] ∧
        refusal ⟨"STARTTLS", []⟩ c'.s.state ≠ formatErrorResult c.s.capabilities ⟨454, ""⟩) ∧
    extractBdatError "bdat550@x" = some ⟨550, ""⟩ ∧
    d.log.drop 7 = [.line "BDAT 1 LAST", .chunk "x".data,
      .store ⟨"bdat550@x", ["b@y"], "x", "", false⟩ true,
      .reply "250 OK Message accepted for delivery"] := by
  refine ⟨by decide, by decide, fun cfg o c' ht => ⟨?_, ?_⟩, by decide, by decide⟩
  · have hp : parseCommand ⟨trimSpace "STARTTLS".data⟩ = some ⟨"STARTTLS", []⟩ := by decide
    exact (Hoare.snd (hoare_refused_runLine cfg o (by decide) (by decide) hp rfl
      (inTransaction_refuses ht).1) (c := c') ⟨rfl, rfl⟩).1
  · rcases ht with h | h | h <;> rw [h] <;> decide

end BadSmtp.Server
