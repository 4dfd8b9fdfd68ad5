import BadSmtp.Props.Invariant

/-! The end of a mail transaction: RSET keeps the errors MAIL FROM scheduled and the BDAT
buffer, and a transaction whose sender scheduled a DATA error and that took a BDAT chunk never
returns to MAIL. -/
namespace BadSmtp.Server
open BadSmtp.Go BadSmtp.Smtp

/-- RSET answered 250 keeps the BDAT buffer and every scheduled error. -/
theorem handleRset_keeps_scheduled_errors (c : Conf) (h : c.s.rsetErrorResult = none) :
    (handleRset c).2.s =
      { c.s with state := .mail, mailFrom := "", rcptTo := [],
                 responseQueue := (handleRset c).2.s.responseQueue } := by
  refine Hoare.snd (P := (· = c))
    (R := fun c' => c'.s =
      { c.s with state := .mail, mailFrom := "", rcptTo := [], responseQueue := c'.s.responseQueue })
    ?_ rfl
  refine Hoare.getS_bind (R := (· = c.s)) (fun _ h => congrArg _ h) fun s hs => ?_
  subst hs
  split
  · simp_all
  refine Hoare.bind (fun c' hc => by subst hc; rfl) fun _ =>
    Guards.writeResponse_framed fun _ _ _ _ _ h => by rw [h]

set_option maxRecDepth 100000 in
theorem rset_after_noop550_sender :
    let c := session ["EHLO c", "MAIL FROM:<noop550@x>", "RCPT TO:<b@y>"]
    c.s.rsetErrorResult = none ∧
      (handleRset c).2.s =
        { c.s with state := .mail, mailFrom := "", rcptTo := [],
                   responseQueue := (handleRset c).2.s.responseQueue } :=
  ⟨by decide, handleRset_keeps_scheduled_errors _ (by decide)⟩

set_option maxRecDepth 100000 in
theorem noop_after_rset_answers_scheduled_error :
    let c := session ["EHLO c", "MAIL FROM:<noop550@x>", "RCPT TO:<b@y>", "RSET"]
    c.s.state = .mail ∧ c.s.mailFrom = "" ∧ c.s.noopErrorResult.isSome ∧
      (session ["EHLO c", "MAIL FROM:<noop550@x>", "RCPT TO:<b@y>", "RSET", "NOOP"]).out.getLast? =
        some "550 Requested action not taken: mailbox unavailable" := by
  decide

/-- In BDAT state with a DATA error scheduled. -/
def stuckBdat (s : Session) : Bool := s.state == .bdat && s.dataErrorResult.isSome

/-- A configuration of a stuck transaction. -/
def trapped (c : Conf) : Bool :=
  match c.pc with
  | .loop => stuckBdat c.s
  | .bdatChunk _ last | .bdatCrlf _ last => stuckBdat c.s && !last
  | .exited _ | .crashed => c.s.state != .mail
  | .start | .dataBody | .authLine _ _ => false

def Stuck (c : Conf) : Prop := stuckBdat c.s = true

def StuckAfter : Flow → Conf → Prop := Kept Stuck fun c => trapped c = true

def NotMail : GoErr → Conf → Prop := fun _ c => c.s.state ≠ .mail

theorem framed_stuck : LoopFramed Stuck :=
  Framed.loop (p := fun s => stuckBdat s = true) ⟨fun _ _ h => h, fun _ _ h => h, fun _ _ h => h⟩

theorem framed_notMail : LoopFramed fun c => c.s.state ≠ .mail :=
  Framed.loop (p := fun s => s.state ≠ .mail) ⟨fun _ _ h => h, fun _ _ h => h, fun _ _ h => h⟩

theorem stuckBdat_state {s : Session} (h : stuckBdat s = true) : s.state = .bdat := by
  simp only [stuckBdat, Bool.and_eq_true, beq_iff_eq] at h
  exact h.1

theorem stuckBdat_notMail {s : Session} (h : stuckBdat s = true) : s.state ≠ .mail := by
  simp [stuckBdat_state h]

theorem Stuck.notMail {c : Conf} (h : Stuck c) (e : GoErr) : NotMail e c :=
  stuckBdat_notMail h

theorem trapped_notMail {c : Conf} (h : trapped c = true) : c.s.state ≠ .mail := by
  unfold trapped at h
  split at h <;> simp_all [stuckBdat]

section
variable {α : Type}

theorem guards_stuck_writeResponse (r : String) : Guards Stuck NotMail (writeResponse r) :=
  (Guards.writeResponse_framed fun _ _ _ _ _ h => h).mono (fun _ _ h => h) fun _ _ h => h.notMail _

theorem guards_stuck_modifyS {f : Session → Session}
    (h : ∀ s, stuckBdat s = true → stuckBdat (f s) = true) : Guards Stuck NotMail (modifyS f) :=
  Guards.modifyS fun c hc => h c.s hc

theorem hoare_stuck_suspend {p : Pc} (hp : ∀ c, Stuck c → trapped { c with pc := p } = true) :
    Hoare Stuck (suspend p) StuckAfter NotMail :=
  fun c hc => hp c hc

theorem hoare_stuck_done {x : GoM Unit} (hx : Guards Stuck NotMail x) :
    Hoare Stuck (done x) StuckAfter NotMail :=
  Hoare.bind hx fun _ => Hoare.pure _ fun _ h => h

end

section
variable (cfg : Config) (o : Outcome)

theorem hoare_stuck_handleBdat (cmd : Command) : Hoare Stuck (handleBdat cmd) StuckAfter NotMail := by
  unfold handleBdat; dsimp only
  refine Hoare.getS_bind (R := fun s => stuckBdat s = true) (fun _ h => h) fun s hs => ?_
  simp only [stuckBdat, Bool.and_eq_true, beq_iff_eq] at hs
  repeat' first
    | (with_reducible apply Hoare.pure); exact fun _ h => h
    | exact hoare_stuck_suspend fun c hc => by simp_all [trapped, Stuck, stuckBdat]
    | (with_reducible apply Hoare.bind (Guards.pure _)); intro _
    | (with_reducible apply Hoare.bind (guards_stuck_writeResponse _)); intro _
    | split

theorem guards_stuck_finishBdat (chunk : List Char) : Guards Stuck NotMail (finishBdat o chunk false) := by
  unfold finishBdat
  refine Guards.bind (guards_stuck_modifyS fun _ h => h) fun _ => ?_
  exact Guards.bind (guards_stuck_modifyS fun _ h => by simp_all [stuckBdat])
    fun _ => guards_stuck_writeResponse _

theorem guards_stuck_handleNoop : Guards Stuck NotMail handleNoop :=
  Guards.bind Guards.getS fun _ => by
    split <;> exact guards_stuck_writeResponse _

theorem guards_stuck_handleVrfy (cmd : Command) : Guards Stuck NotMail (handleVrfy cfg cmd) := by
  unfold handleVrfy; dsimp only
  refine Guards.bind Guards.getS fun _ => ?_
  split_ifs <;> exact guards_stuck_writeResponse _

theorem hoare_stuck_handleQuit : Hoare Stuck handleQuit (fun _ _ => False) NotMail := by
  unfold handleQuit; dsimp only
  refine Hoare.bind Guards.getS fun _ => ?_
  split <;> exact Hoare.bind (guards_stuck_writeResponse _) fun _ =>
    Hoare.bind (R := fun _ c => c.s.state = .quit) (fun _ _ => rfl) fun _ =>
      Hoare.throwErr fun _ h => by simp [NotMail, h]

theorem hoare_stuck_dispatch (v : Verb) (cmd : Command) :
    Hoare (fun c => Stuck c ∧ v.allowedIn c.s.state = true) (dispatch cfg o v cmd) StuckAfter
      NotMail := by
  rintro c ⟨hs, hv⟩
  rw [stuckBdat_state hs] at hv
  cases v <;> simp [Verb.allowedIn] at hv
  case bdat => exact hoare_stuck_handleBdat cmd c hs
  case noop => exact hoare_stuck_done guards_stuck_handleNoop c hs
  case quit => exact Hoare.bind hoare_stuck_handleQuit (fun _ _ h => h.elim) c hs
  case vrfy => exact hoare_stuck_done (guards_stuck_handleVrfy cfg cmd) c hs

theorem hoare_stuck_runLine (line : List Char) :
    Hoare Stuck (runLine cfg o line) StuckAfter NotMail :=
  hoare_kept_runLine cfg o framed_stuck framed_stuck framed_notMail (fun _ h => h)
    (fun _ h => stuckBdat_notMail h)
    (fun _ v cmd _ _ => (hoare_stuck_dispatch cfg o v cmd).pre fun _ h => ⟨h.1, h.2.2⟩) line

end

theorem trapped_settle {r : Except GoErr Flow × Conf} (h : Lands StuckAfter NotMail r) :
    trapped (Conf.settle r) = true := by
  rcases r with ⟨e | fl, c⟩
  · cases e <;> simpa [Conf.settle, Conf.exit, trapped] using h
  · cases fl
    · exact h
    · exact h

section
variable (cfg : Config) (o : Outcome)

theorem trapped_resume {x : GoM Flow} (hx : Hoare Stuck x StuckAfter NotMail) {c : Conf}
    (h : Stuck c) : trapped (Conf.settle (resume x c)) = true :=
  trapped_settle (hoare_kept_resume framed_stuck framed_notMail
    (fun _ h => stuckBdat_notMail h) true hx c h)

theorem trapped_step {c c' : Conf} (h : trapped c = true) (hs : step cfg o c = some c') :
    trapped c' = true := by
  unfold step at hs
  unfold trapped at h
  split at hs <;> rename_i hpc <;> simp only [hpc] at h
  · cases h
  · split at hs
    · cases hs
    · split at hs <;> cases hs
      · simpa [Conf.exit, trapped] using Stuck.notMail h .eof
      · simpa [Conf.exit, trapped] using Stuck.notMail h .eof
      · exact trapped_settle (hoare_stuck_runLine cfg o _ _ h)
  · cases h
  · simp only [Bool.and_eq_true, Bool.not_eq_true'] at h
    split at hs <;> cases hs
    · exact trapped_resume (Hoare.throwErr fun _ h => h.notMail _) h.1
    · simpa [trapped, Conf.withReader] using h
  · simp only [Bool.and_eq_true, Bool.not_eq_true'] at h
    obtain ⟨hst, rfl⟩ := h
    split at hs <;> cases hs
    exact trapped_resume (hoare_stuck_done (guards_stuck_finishBdat o _)) hst
  · cases h
  all_goals cases hs

end

theorem trapped_env {c : Conf} (h : trapped c = true) (e : Env) : trapped (c.env e) = true := by
  cases e <;> simp only [Conf.env] <;> try split_ifs
  all_goals exact h

/-- A stuck transaction never returns to MAIL, whatever the client sends. -/
theorem stuck_bdat_never_returns_to_mail {cfg : Config} {c c' : Conf} (h : trapped c = true)
    (hf : Follows cfg c c') : c'.s.state ≠ .mail := by
  refine trapped_notMail ?_
  induction hf with
  | refl => exact h
  | step o _ hs ih => exact trapped_step _ o ih hs
  | env e _ ih => exact trapped_env ih e

set_option maxRecDepth 100000 in
theorem bdat_chunk_after_data550_is_stuck :
    let o : Outcome := ⟨none, true, 0, 0⟩
    let c := session ["EHLO c", "MAIL FROM:<data550@x>", "RCPT TO:<b@y>", "BDAT 1", "x"]
    trapped c = true ∧
      (lockstep plainPort o ["RSET", "BDAT 0 LAST", "MAIL FROM:<a@x>", "NOOP"] c).s.state ≠ .mail :=
  ⟨by decide, stuck_bdat_never_returns_to_mail (by decide) (.lockstep _ _ .refl)⟩

end BadSmtp.Server
