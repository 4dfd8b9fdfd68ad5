import BadSmtp.Props.Invariant

/-! A client that waits for the session's answer before it sends its next line: the loop's
own work then logs the line and nothing else, and each line is taken by exactly one step. -/
namespace BadSmtp.Server
open BadSmtp.Go BadSmtp.Smtp

/-- The client waits: nothing arrived or buffered, and the connection open both ways. -/
structure Listening (c : Conf) : Prop where
  sock : c.sock = []
  eof : c.eof = false
  broken : c.broken = false
  closes : c.closes = 0
  reader : ∃ src, c.s.connReader = some ⟨src, []⟩

theorem Listening.writable {c : Conf} (h : Listening c) : c.writable = true := by
  simp [Conf.writable, h.broken, h.closes]

/-- The log is `L`, the session in `p`, and the client waits. -/
def Answering (p : Session → Prop) (L : List Event) (c : Conf) : Prop :=
  Logged p L c ∧ Listening c

section
variable {p : Session → Prop} {L : List Event} {E : GoErr → Conf → Prop}

theorem answering_logEvent (ev : Event) :
    Hoare (Answering p L) (logEvent ev) (fun _ => Answering p (L ++ [ev])) E :=
  fun _ ⟨⟨hl, hs⟩, h⟩ => ⟨⟨congrArg (· ++ [ev]) hl, hs⟩, h.1, h.2, h.3, h.4, h.5⟩

theorem answering_detect (hp : Framed p) : Guards (Answering p L) E detectPipelining := by
  intro c ⟨⟨hl, hs⟩, h⟩
  obtain ⟨src, hr⟩ := h.reader
  unfold detectPipelining
  simp only [hr, h.sock, h.broken]
  exact ⟨⟨hl, hp.reader _ _ hs⟩, rfl, h.eof, rfl, h.closes, src, rfl⟩

theorem answering_pipelining (hp : Framed p) (b : Bool) :
    Guards (Answering p L) E (modifyS fun s => { s with pipeliningMode := b }) :=
  Guards.modifyS fun _ ⟨⟨hl, hs⟩, h⟩ => ⟨⟨hl, hp.pipelining _ b hs⟩, h.1, h.2, h.3, h.4, h.5⟩

theorem answering_flush (hp : Framed p) : Guards (Answering p L) E flushResponses := by
  intro c ⟨⟨hl, hs⟩, h⟩
  rw [flushResponses_eq]
  simp only [h.writable, if_true]
  split_ifs
  · exact ⟨⟨hl, hs⟩, h⟩
  · exact ⟨⟨hl, hp.queue _ _ hs⟩, h.1, h.2, h.3, h.4, h.5⟩

theorem answering_reply (hp : Framed p) {r : String} (hr : isResponse421 r = false) :
    Hoare (Answering p L) (writeResponse r) (fun _ => Answering p (L ++ [.reply r])) E := by
  intro c ⟨⟨hl, hs⟩, h⟩
  rw [writeResponse_eq]
  simp only [h.writable, hr, hl, if_true, Bool.false_eq_true, if_false, and_true]
  split_ifs
  · exact ⟨⟨rfl, hp.queue _ _ hs⟩, h.1, h.2, h.3, h.4, h.5⟩
  · exact ⟨⟨rfl, hp.queue _ _ hs⟩, h.1, h.2, h.3, h.4, h.5⟩

theorem answering_challenge (r : String) :
    Hoare (Answering p L) (writeChallenge r) (fun _ => Answering p (L ++ [.reply r])) E := by
  intro c hc
  obtain ⟨⟨hl, hs⟩, h⟩ := hc
  simp only [writeChallenge, GoM.bind_apply, logEvent_apply, connWrite_apply, Conf.writable_log,
    h.writable, if_true]
  exact ⟨⟨congrArg (· ++ _) hl, hs⟩, h.1, h.2, h.3, h.4, h.5⟩

theorem answering_setPc (q : Pc) :
    Hoare (Answering p L) (setPc q) (fun _ c => Answering p L c ∧ c.pc = q) E :=
  fun _ ⟨⟨hl, hs⟩, h⟩ => ⟨⟨⟨hl, hs⟩, h.1, h.2, h.3, h.4, h.5⟩, rfl⟩

end

section
variable (cfg : Config) (o : Outcome) {p : Session → Prop} {L : List Event}
  {E : GoErr → Conf → Prop} {cmd : Command} {v : Verb}

theorem answering_parse {line : String} (hpc : parseCommand line = some cmd)
    (hv : Verb.ofName cmd.name = some v) (hst : ∀ s, p s → v.allowedIn s.state = true)
    (ha : validateArgs v cmd.args = none) :
    Hoare (Answering p L) (parseAndLogCommand line)
      (fun r c => Answering p L c ∧ r = some (v, cmd)) E := by
  unfold parseAndLogCommand
  simp only [hpc, hv]
  refine Hoare.getS_bind (R := p) (fun _ h => h.1.2) fun s hs => ?_
  simp only [hst s hs, Bool.not_true, Bool.false_eq_true, if_false, ha]
  exact Hoare.pure _ fun _ h => ⟨h, rfl⟩

variable (hp : Framed p)
include hp

theorem answering_runLine {line : List Char} {Q : Flow → Conf → Prop}
    (hne : trimSpace line ≠ []) (hlen : ¬(trimSpace line).length > maxCommandLength)
    (hpc : parseCommand ⟨trimSpace line⟩ = some cmd) (hv : Verb.ofName cmd.name = some v)
    (hst : ∀ s, p s → v.allowedIn s.state = true) (ha : validateArgs v cmd.args = none)
    (h : Hoare (Answering p (L ++ [.line ⟨trimSpace line⟩]))
      (attempt (dispatch cfg o v cmd) >>= afterHandler (breaksPipelining v)) Q E) :
    Hoare (Answering p L) (runLine cfg o line) Q E := by
  have hc : Hoare (Answering p (L ++ [.line ⟨trimSpace line⟩])) (handleCommand cfg o ⟨trimSpace line⟩)
      Q E := by
    unfold handleCommand
    refine Hoare.bind (answering_parse hpc hv hst ha) fun r => Hoare.pull fun hr => ?_
    subst hr
    dsimp only
    split
    · exact Hoare.bind (answering_flush hp) fun _ =>
        Hoare.bind (answering_pipelining hp false) fun _ => h
    · exact Hoare.bind (Guards.pure _) fun _ => h
  exact Hoare.runLine_of line (absurd · hne) (answering_logEvent _) (absurd · hlen)
    (answering_detect hp) (answering_pipelining hp _) fun _ => hc

end

section
variable {p : Session → Prop} {L : List Event} {E : GoErr → Conf → Prop}

theorem hoare_done {P R : Conf → Prop} {x : GoM Unit} (h : Hoare P x (fun _ => R) E) :
    Hoare P (done x) (fun f c => R c ∧ f = .done) E :=
  Hoare.bind h fun _ => Hoare.pure _ fun _ h => ⟨h, rfl⟩

theorem answering_resume_done {p' : Session → Prop} (hp : Framed p') {L' : List Event}
    {x : GoM Flow}
    (hx : Hoare (Answering p L) x (fun f c => Answering p' L' c ∧ f = .done) (fun _ _ => False)) :
    Hoare (Answering p L) (attempt x >>= afterHandler true)
      (fun f c => Answering p' L' c ∧ f = .done) (fun _ _ => False) := by
  refine Hoare.bind (Hoare.attempt (Q := fun r c => Answering p' L' c ∧ r = .ok .done)
    (hx.mono (fun _ _ h => ⟨h.1, h.2 ▸ rfl⟩) fun _ _ h => h.elim)) fun r => Hoare.pull fun hr => ?_
  subst hr
  exact Hoare.bind (Hoare.bind (answering_flush hp) fun _ => Hoare.pure _ fun _ h => h) fun _ =>
    Hoare.pure _ fun _ h => ⟨h, rfl⟩

theorem answering_resume_wait {R : Conf → Prop} {P : Conf → Prop} {x : GoM Flow}
    (hx : Hoare P x (fun f c => R c ∧ f = .wait) (fun _ _ => False)) :
    Hoare P (attempt x >>= afterHandler true) (fun f c => R c ∧ f = .wait) (fun _ _ => False) := by
  refine Hoare.bind (Hoare.attempt (Q := fun r c => R c ∧ r = .ok .wait)
    (hx.mono (fun _ _ h => ⟨h.1, h.2 ▸ rfl⟩) fun _ _ h => h.elim)) fun r => Hoare.pull fun hr => ?_
  subst hr
  exact Hoare.pure _ fun _ h => ⟨h, rfl⟩

end

section
variable (cfg : Config) (o : Outcome) {p : Session → Prop} {L : List Event} {c : Conf}
  {l : List Char}

theorem Answering.pc {q : Pc} (h : Answering p L c) : Answering p L { c with pc := q } :=
  ⟨h.1, h.2.1, h.2.2, h.2.3, h.2.4, h.2.5⟩

/-- A session waiting for the client in a read does not move. -/
theorem step_listening (h : Listening c)
    (hpc : c.pc = .loop ∨ c.pc = .dataBody ∨ (∃ n last, c.pc = .bdatChunk (n + 1) last) ∨
      ∃ w, c.pc = .authLine w []) :
    step cfg o c = none := by
  obtain ⟨src, hr⟩ := h.reader
  rcases hpc with hpc | hpc | ⟨n, last, hpc⟩ | ⟨w, hpc⟩ <;>
    simp [step, hpc, hr, h.sock, h.eof, h.broken, readLine_nil, Conf.reader, readDotBytes, bufRead,
      dotDecode, readFull, takeExact]

theorem step_loop_deliver (hp : Framed p) (h : Answering p L c) (hpc : c.pc = .loop)
    (hn : '\n' ∉ l) : ∃ c₁, Answering p L c₁ ∧
      step cfg o (c.env (.deliver (l ++ ['\r', '\n']))) = some (Conf.settle (runLine cfg o l c₁)) := by
  obtain ⟨⟨hl, hs⟩, hL⟩ := h
  obtain ⟨src, hr⟩ := hL.reader
  refine ⟨{ c with s := { c.s with connReader := some ⟨src, []⟩ } }, ⟨⟨hl, hp.reader _ _ hs⟩,
    hL.1, hL.2, hL.3, hL.4, src, rfl⟩, ?_⟩
  simp [step, Conf.env, hL.eof, hL.sock, hL.broken, hpc, hr, readLine_crlf hn, Conf.withReader]

theorem run_of_step {c' : Conf} (h1 : step cfg o c = some c') (h2 : step cfg o c' = none) (n : Nat) :
    run cfg o (n + 1) c = c' := by
  cases n <;> simp [run, h1, h2]

theorem settle_wait {R : Conf → Prop} {r : Except GoErr Flow × Conf}
    (h : Lands (fun f c => R c ∧ f = .wait) (fun _ _ => False) r) : R (Conf.settle r) := by
  rcases r with ⟨_ | f, c⟩
  · exact h.elim
  · obtain ⟨h, rfl⟩ := h
    exact h

theorem settle_done {r : Except GoErr Flow × Conf}
    (h : Lands (fun f c => Answering p L c ∧ f = .done) (fun _ _ => False) r) :
    Answering p L (Conf.settle r) ∧ (Conf.settle r).pc = .loop := by
  rcases r with ⟨_ | f, c⟩
  · exact h.elim
  · obtain ⟨h, rfl⟩ := h
    exact ⟨h.pc, rfl⟩

end

section
variable (cfg : Config) (o : Outcome) {p p' : Session → Prop} {L L' : List Event} {c : Conf}
  {l : String} {x : GoM Flow}

theorem lockstep_wait {q : Pc}
    (hq : q = .dataBody ∨ (∃ n last, q = .bdatChunk (n + 1) last) ∨ ∃ w, q = .authLine w [])
    (hs : ∃ c₁, Answering p L c₁ ∧
      step cfg o (c.env (.deliver (l ++ "\r\n").data)) = some (Conf.settle (x c₁)))
    (hx : Hoare (Answering p L) x (fun f c => (Answering p' L' c ∧ c.pc = q) ∧ f = .wait)
      (fun _ _ => False)) :
    ∃ c', (Answering p' L' c' ∧ c'.pc = q) ∧
      ∀ ls, lockstep cfg o (l :: ls) c = lockstep cfg o ls c' := by
  obtain ⟨c₁, h₁, hs⟩ := hs
  have h := settle_wait (hx c₁ h₁)
  exact ⟨_, h, fun ls => by
    rw [lockstep, run_of_step cfg o hs (step_listening cfg o h.1.2 (.inr (h.2 ▸ hq))) 19]⟩

/-- A client line on which the session answers and goes back to the command loop. -/
theorem lockstep_done
    (hs : ∃ c₁, Answering p L c₁ ∧
      step cfg o (c.env (.deliver (l ++ "\r\n").data)) = some (Conf.settle (x c₁)))
    (hx : Hoare (Answering p L) x (fun f c => Answering p' L' c ∧ f = .done) (fun _ _ => False)) :
    ∃ c', (Answering p' L' c' ∧ c'.pc = .loop) ∧
      ∀ ls, lockstep cfg o (l :: ls) c = lockstep cfg o ls c' := by
  obtain ⟨c₁, h₁, hs⟩ := hs
  have h := settle_done (hx c₁ h₁)
  exact ⟨_, h, fun ls => by
    rw [lockstep, run_of_step cfg o hs (step_listening cfg o h.1.2 (.inl h.2)) 19]⟩

end

end BadSmtp.Server
