import BadSmtp.Server.Run
import BadSmtp.Server.Guards

/-! Properties of a configuration through one iteration of the command loop: what the loop's
own work (the logged line, 5xx refusals, flushes, pipelining) leaves alone holds after a command
line whenever the handler of every verb the state accepts keeps it. -/
namespace BadSmtp.Server
open BadSmtp.Go BadSmtp.Smtp

/-- A property of the session that no reply, flush or pipelining switch changes. -/
structure Framed (p : Session → Prop) : Prop where
  queue : ∀ s l, p s → p { s with responseQueue := l }
  pipelining : ∀ s b, p s → p { s with pipeliningMode := b }
  reader : ∀ s r, p s → p { s with connReader := r }

theorem Framed.state (st : State) : Framed (fun s => s.state = st) :=
  ⟨fun _ _ h => h, fun _ _ h => h, fun _ _ h => h⟩

theorem Framed.and {p q : Session → Prop} (hp : Framed p) (hq : Framed q) :
    Framed (fun s => p s ∧ q s) :=
  ⟨fun s l h => ⟨hp.queue s l h.1, hq.queue s l h.2⟩,
    fun s b h => ⟨hp.pipelining s b h.1, hq.pipelining s b h.2⟩,
    fun s r h => ⟨hp.reader s r h.1, hq.reader s r h.2⟩⟩

/-- A property of the configuration that the command loop's own work leaves alone. -/
structure LoopFramed (P : Conf → Prop) : Prop where
  reply : ∀ c q o w n r, r.data.head? = some '5' → P c →
    P { c with s := { c.s with responseQueue := q }, out := o, writeFailed := w, closes := n,
               log := c.log ++ [.reply r] }
  flush : ∀ c q o w, P c →
    P { c with s := { c.s with responseQueue := q }, out := o, writeFailed := w }
  line : ∀ c l, P c → P { c with log := c.log ++ [.line l] }
  detect : ∀ c, P c → P (detectPipelining c).2
  switch : ∀ c b, P c → P { c with s := { c.s with pipeliningMode := b } }

theorem Framed.loop {p : Session → Prop} (hp : Framed p) : LoopFramed fun c => p c.s := by
  refine ⟨fun c q _ _ _ _ _ h => hp.queue c.s q h, fun c q _ _ h => hp.queue c.s q h,
    fun _ _ h => h, fun c h => ?_, fun c b h => hp.pipelining c.s b h⟩
  unfold detectPipelining
  split
  · exact h
  · exact hp.reader _ _ h

theorem LoopFramed.and {P Q : Conf → Prop} (hP : LoopFramed P) (hQ : LoopFramed Q) :
    LoopFramed fun c => P c ∧ Q c :=
  ⟨fun c q o w n r hr h => ⟨hP.reply c q o w n r hr h.1, hQ.reply c q o w n r hr h.2⟩,
    fun c q o w h => ⟨hP.flush c q o w h.1, hQ.flush c q o w h.2⟩,
    fun c l h => ⟨hP.line c l h.1, hQ.line c l h.2⟩, fun c h => ⟨hP.detect c h.1, hQ.detect c h.2⟩,
    fun c b h => ⟨hP.switch c b h.1, hQ.switch c b h.2⟩⟩

/-- Where a handler leaves the configuration: returned, in `P`; blocked, in `W`. -/
def Kept (P W : Conf → Prop) : Flow → Conf → Prop
  | .done => P
  | .wait => W

def Accepted (P R : Conf → Prop) (line : String) : Option (Verb × Command) → Conf → Prop
  | none => P
  | some (v, cmd) => fun c => (P c ∧ R c ∧ v.allowedIn c.s.state = true) ∧
      parseCommand line = some cmd ∧ Verb.ofName cmd.name = some v

section
variable {P : Conf → Prop} {E : GoErr → Conf → Prop}

theorem LoopFramed.guards_reply (hP : LoopFramed P) {r : String} (hr : r.data.head? = some '5') :
    Guards P (fun _ => P) (writeResponse r) :=
  Guards.writeResponse_framed fun c q o w n h => hP.reply c q o w n r hr h

theorem Framed.guards_reply {p : Session → Prop} (hp : Framed p) (r : String) :
    Guards (fun c => p c.s) (fun _ c => p c.s) (writeResponse r) :=
  Guards.writeResponse_framed fun c q _ _ _ h => hp.queue c.s q h

theorem LoopFramed.guards_flush (hP : LoopFramed P) : Guards P (fun _ => P) flushResponses :=
  Guards.flushResponses_framed fun c q o w h => hP.flush c q o w h

theorem LoopFramed.guards_switch (hP : LoopFramed P) (b : Bool) :
    Guards P E (modifyS fun s => { s with pipeliningMode := b }) :=
  Guards.modifyS fun c h => hP.switch c b h

theorem Guards.detectPipelining_framed (h : ∀ c, P c → P (detectPipelining c).2) :
    Guards P E detectPipelining := by
  intro c hc
  have := h c hc
  revert this
  unfold detectPipelining
  split <;> exact id

theorem LoopFramed.guards_detect (hP : LoopFramed P) : Guards P E detectPipelining :=
  Guards.detectPipelining_framed hP.detect

theorem LoopFramed.guards_line (hP : LoopFramed P) (l : String) : Guards P E (logEvent (.line l)) :=
  Guards.logEvent fun c h => hP.line c l h

theorem LoopFramed.parse (hP : LoopFramed P) (line : String) {R : Conf → Prop} :
    Hoare (fun c => P c ∧ R c) (parseAndLogCommand line) (Accepted P R line) (fun _ => P) := by
  refine Hoare.fix (fun c => c.s.state) fun st => ?_
  have hw : ∀ {r : String}, r.data.head? = some '5' →
      Hoare (fun c => (P c ∧ R c) ∧ c.s.state = st) (writeResponse r) (fun _ => P) fun _ => P :=
    fun hr => (hP.guards_reply hr).pre fun _ h => h.1.1
  have hn := fun {α : Type} (x : α) => Hoare.pure (P := P) (E := fun _ => P) (Q := Accepted P R line)
    none fun _ h => h
  unfold parseAndLogCommand
  split
  · exact Hoare.bind (hw rfl) fun _ => hn ()
  split
  · exact Hoare.bind (hw rfl) fun _ => hn ()
  refine Hoare.getS_bind (R := fun s => s.state = st) (fun _ h => h.2) fun s hs => ?_
  subst hs
  dsimp only
  split
  · exact Hoare.bind (hw (by simp)) fun _ => hn ()
  refine Hoare.bind (Guards.pure _) fun _ => ?_
  split
  next e he => exact Hoare.bind (hw (by rw [validateArgs_eq_some he]; rfl)) fun _ => hn ()
  · exact Hoare.pure _ fun c h => ⟨⟨h.1.1, h.1.2, by simp_all⟩, by simp_all⟩

end

section
variable {p : Session → Prop}

def Logged (p : Session → Prop) (L : List Event) (c : Conf) : Prop := c.log = L ∧ p c.s

section
variable {L : List Event} {E : GoErr → Conf → Prop}

theorem Framed.logged_reply (hp : Framed p) (r : String) :
    Hoare (Logged p L) (writeResponse r) (fun _ => Logged p (L ++ [.reply r]))
      (fun _ => Logged p (L ++ [.reply r])) :=
  Hoare.writeResponse_framed fun c l _ _ _ h => ⟨congrArg (· ++ [.reply r]) h.1, hp.queue c.s l h.2⟩

theorem Framed.logged_flush (hp : Framed p) :
    Guards (Logged p L) (fun _ => Logged p L) flushResponses :=
  Guards.flushResponses_framed fun c l _ _ h => ⟨h.1, hp.queue c.s l h.2⟩

theorem Framed.logged_switch (hp : Framed p) (b : Bool) :
    Guards (Logged p L) E (modifyS fun s => { s with pipeliningMode := b }) :=
  Guards.modifyS fun c h => ⟨h.1, hp.pipelining c.s b h.2⟩

theorem Framed.logged_detect (hp : Framed p) : Guards (Logged p L) E detectPipelining := by
  intro c h
  unfold detectPipelining
  split
  · exact h
  · exact ⟨h.1, hp.reader _ _ h.2⟩

theorem logged_logEvent (ev : Event) :
    Hoare (Logged p L) (logEvent ev) (fun _ => Logged p (L ++ [ev])) E :=
  fun _ h => ⟨congrArg (· ++ [ev]) h.1, h.2⟩

theorem Guards.afterHandler {P : Conf → Prop} (hf : Guards P (fun _ => P) flushResponses)
    (brk : Bool) (res : Except GoErr Flow) : Guards P (fun _ => P) (afterHandler brk res) := by
  rcases res with _ | _ | _
  · exact Hoare.bind (R := fun _ _ => False) (Hoare.bind hf fun _ => Hoare.throwErr fun _ h => h)
      fun _ _ h => h.elim
  · cases brk
    · exact Guards.pure _
    · exact Guards.bind (Guards.bind hf fun _ => Guards.pure _) fun _ => Guards.pure _
  · exact Guards.pure _

end

end

section
variable (cfg : Config) (o : Outcome)
variable {P P' Q W : Conf → Prop}

def Caught (P' W Q : Conf → Prop) : Except GoErr Flow → Conf → Prop
  | .ok f => Kept P' W f
  | .error _ => Q

theorem hoare_kept_afterHandler (hP' : LoopFramed P') (hQ : LoopFramed Q) (hP'Q : ∀ c, P' c → Q c)
    (brk : Bool) (r : Except GoErr Flow) :
    Hoare (Caught P' W Q r) (afterHandler brk r) (Kept P' W) (fun _ => Q) := by
  rcases r with e | _ | _
  · refine Hoare.bind (R := fun _ _ => False) ?_ fun _ _ h => h.elim
    exact Hoare.bind hQ.guards_flush fun _ => Hoare.throwErr fun _ h => h
  · cases brk
    · exact Hoare.pure _ fun _ h => h
    · exact Hoare.bind ((Guards.bind hP'.guards_flush fun _ => Guards.pure _).mono
        (fun _ _ h => h) fun _ c h => hP'Q c h) fun _ => Hoare.pure _ fun _ h => h
  · exact Hoare.pure _ fun _ h => h

theorem hoare_kept_resume {R : Conf → Prop} {x : GoM Flow} (hP' : LoopFramed P')
    (hQ : LoopFramed Q) (hP'Q : ∀ c, P' c → Q c) (brk : Bool)
    (hx : Hoare R x (Kept P' W) (fun _ => Q)) :
    Hoare R (attempt x >>= afterHandler brk) (Kept P' W) (fun _ => Q) :=
  Hoare.bind (Hoare.attempt (Q := Caught P' W Q) hx) (hoare_kept_afterHandler hP' hQ hP'Q brk)

variable (hP : LoopFramed P) (hP' : LoopFramed P') (hQ : LoopFramed Q) (hPP' : ∀ c, P c → P' c)
  (hP'Q : ∀ c, P' c → Q c)
  (hd : ∀ line v cmd, parseCommand line = some cmd → Verb.ofName cmd.name = some v →
    Hoare (fun c => P c ∧ c.log.getLast? = some (.line line) ∧ v.allowedIn c.s.state = true)
      (dispatch cfg o v cmd) (Kept P' W) (fun _ => Q))
include hP hP' hQ hPP' hP'Q hd

theorem hoare_kept_handleCommand (line : String) :
    Hoare (fun c => P c ∧ c.log.getLast? = some (.line line)) (handleCommand cfg o line)
      (Kept P' W) (fun _ => Q) := by
  have hPQ : ∀ c, P c → Q c := fun c h => hP'Q c (hPP' c h)
  unfold handleCommand
  refine Hoare.bind ((hP.parse line).mono (fun _ _ h => h) fun _ c h => hPQ c h) fun r => ?_
  rcases r with _ | ⟨v, cmd⟩
  · exact Hoare.pure _ fun c h => hPP' c h
  · refine Hoare.fix (fun c => c.s.state) fun st => ?_
    refine Hoare.pre (S := fun c => ((P c ∧ c.log.getLast? = some (.line line)) ∧ c.s.state = st) ∧
        (v.allowedIn st = true ∧ parseCommand line = some cmd ∧ Verb.ofName cmd.name = some v))
      (fun c h => ⟨⟨⟨h.1.1.1, h.1.1.2.1⟩, h.2⟩, h.2 ▸ h.1.1.2.2, h.1.2⟩) (Hoare.pull fun hv => ?_)
    have hd' := hoare_kept_resume hP' hQ hP'Q (breaksPipelining v)
      ((hd line v cmd hv.2.1 hv.2.2).pre
        (P := fun c => (P c ∧ c.log.getLast? = some (.line line)) ∧ c.s.state = st)
        fun c h => ⟨h.1.1, h.1.2, h.2 ▸ hv.1⟩)
    dsimp only
    split
    · have hf : Guards (fun c => (P c ∧ c.log.getLast? = some (.line line)) ∧ c.s.state = st)
          (fun _ => Q) flushResponses :=
        (Guards.flushResponses_framed fun c q o w h => ⟨⟨hP.flush c q o w h.1.1, h.1.2⟩, h.2⟩).mono
          (fun _ _ h => h) fun _ c h => hPQ c h.1.1
      have hsw : Guards (fun c => (P c ∧ c.log.getLast? = some (.line line)) ∧ c.s.state = st)
          (fun _ => Q) (modifyS fun s => { s with pipeliningMode := false }) :=
        Guards.modifyS fun c h => ⟨⟨hP.switch c false h.1.1, h.1.2⟩, h.2⟩
      exact Hoare.bind hf fun _ => Hoare.bind hsw fun _ => hd'
    · exact Hoare.bind (Guards.pure _) fun _ => hd'

/-- An iteration of the loop keeps what every handler the state accepts keeps. -/
theorem hoare_kept_runLine (line : List Char) :
    Hoare P (runLine cfg o line) (Kept P' W) (fun _ => Q) :=
  Hoare.runLine_of (M := fun c => P c ∧ c.log.getLast? = some (.line ⟨trimSpace line⟩)) line
    (fun _ c h => hPP' c h) (fun c h => ⟨hP.line c _ h, by simp⟩)
    (fun _ => ((hP.guards_reply (r := "500 Command too long") rfl).pre fun _ h => h.1).mono
      (fun _ c h => hPP' c h) fun _ c h => hP'Q c (hPP' c h))
    (Guards.detectPipelining_framed fun c h => ⟨hP.detect c h.1, (detectPipelining_log c).symm ▸ h.2⟩)
    (Guards.modifyS fun c h => ⟨hP.switch c true h.1, h.2⟩)
    fun _ => hoare_kept_handleCommand cfg o hP hP' hQ hPP' hP'Q hd _

end

section
variable (cfg : Config) (o : Outcome)
variable {line : String} {cmd : Command} {v : Verb} {st : State} {L : List Event}

/-- The reply of parseAndLogCommand to a known command the state does not accept. -/
def refusal (cmd : Command) (st : State) : String :=
  "503 Bad sequence - " ++ cmd.name ++ " not allowed in " ++ st.toString ++ " state"

variable (hp : parseCommand line = some cmd) (hv : Verb.ofName cmd.name = some v)
  (hst : v.allowedIn st = false)
include hp hv hst

theorem hoare_refused_handleCommand :
    Hoare (Logged (fun s => s.state = st) L) (handleCommand cfg o line)
      (fun _ => Logged (fun s => s.state = st) (L ++ [.reply (refusal cmd st)]))
      (fun _ => Logged (fun s => s.state = st) (L ++ [.reply (refusal cmd st)])) := by
  unfold handleCommand
  refine Hoare.bind (R := fun r c => Logged (fun s => s.state = st)
    (L ++ [.reply (refusal cmd st)]) c ∧ r = none) ?_ fun r => Hoare.pull fun hr => ?_
  · unfold parseAndLogCommand
    simp only [hp, hv]
    refine Hoare.getS_bind (R := fun s => s.state = st) (fun _ h => h.2) fun s hs => ?_
    simp only [hs, hst, Bool.not_false, if_true]
    exact Hoare.bind ((Framed.state st).logged_reply _) fun _ => Hoare.pure _ fun _ h => ⟨h, rfl⟩
  · subst hr
    exact Hoare.pure _ fun _ h => h

end

/-- A command the state refuses: its line and the 503 are all that is logged. -/
theorem hoare_refused_runLine (cfg : Config) (o : Outcome) {line : List Char} {cmd : Command}
    {v : Verb} {st : State} {L : List Event} (hne : trimSpace line ≠ [])
    (hlen : ¬(trimSpace line).length > maxCommandLength)
    (hp : parseCommand ⟨trimSpace line⟩ = some cmd) (hv : Verb.ofName cmd.name = some v)
    (hst : v.allowedIn st = false) :
    Hoare (Logged (fun s => s.state = st) L) (runLine cfg o line)
      (fun _ => Logged (fun s => s.state = st) (L ++ [.line ⟨trimSpace line⟩, .reply (refusal cmd st)]))
      (fun _ => Logged (fun s => s.state = st) (L ++ [.line ⟨trimSpace line⟩, .reply (refusal cmd st)])) := by
  have hc := hoare_refused_handleCommand cfg o (L := L ++ [.line ⟨trimSpace line⟩]) hp hv hst
  simp only [List.append_assoc, List.singleton_append] at hc
  exact Hoare.runLine_of line (absurd · hne) (logged_logEvent _) (absurd · hlen)
    (Framed.state st).logged_detect ((Framed.state st).logged_switch _) fun _ => hc

end BadSmtp.Server
