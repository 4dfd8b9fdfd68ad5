import BadSmtp.Props.Invariant

/-! The session's SMTP state as a state machine (`State.moves`): every step of a reachable
session stays in its state or makes one move, no move enters AUTH, and state.go's
CanTransitionTo, which the session never consults, admits all moves but four. -/
namespace BadSmtp.Smtp

/-- The moves of the session's state: a step makes at most one. -/
def State.moves : State → State → Bool
  | .greeting, .helo => true
  | .helo, .mail | .helo, .quit => true
  | .mail, .helo | .mail, .rcpt | .mail, .quit => true
  | .rcpt, .mail | .rcpt, .data | .rcpt, .bdat | .rcpt, .quit => true
  | .data, .mail | .data, .quit => true
  | .bdat, .mail | .bdat, .quit => true
  | _, _ => false

end BadSmtp.Smtp

namespace BadSmtp.Server
open BadSmtp.Go BadSmtp.Smtp

def Moved (st t : State) : Bool := t == st || st.moves t

def pcAdmits : Pc → State → Bool
  | .start, st => st == .greeting
  | .dataBody, st => st == .data
  | .bdatChunk _ _, st | .bdatCrlf _ _, st => st == .rcpt || st == .bdat
  | .authLine _ _, st => st == .mail || st == .auth
  | .loop, _ | .exited _, _ | .crashed, _ => true

/-- The state of a reachable configuration: never AUTH, and one its place admits. -/
def StateOk (c : Conf) : Prop := c.s.state ≠ .auth ∧ pcAdmits c.pc c.s.state = true

def Waits (p : State → Prop) (c : Conf) : Prop := p c.s.state ∧ pcAdmits c.pc c.s.state = true

@[simp] theorem moved_self (st : State) : Moved st st = true := by simp [Moved]

theorem moved_ne_auth {st t : State} (hst : st ≠ .auth) (h : Moved st t = true) : t ≠ .auth := by
  rintro rfl
  revert h hst
  cases st <;> decide

section
variable {p : State → Prop} {E : GoErr → Conf → Prop}

theorem framed_inState (p : State → Prop) : Framed fun s => p s.state :=
  ⟨fun _ _ h => h, fun _ _ h => h, fun _ _ h => h⟩

theorem guards_inState_reply (r : String) :
    Guards (fun c => p c.s.state) (fun _ c => p c.s.state) (writeResponse r) :=
  (framed_inState p).guards_reply r

theorem guards_inState_writeChallenge (r : String) :
    Guards (fun c => p c.s.state) (fun _ c => p c.s.state) (writeChallenge r) :=
  Guards.bind (Guards.logEvent fun _ h => h) fun _ c h => by
    rw [connWrite_apply]; split <;> exact h

theorem guards_inState_handleStorageError (err : String) :
    Guards (fun c => p c.s.state) (fun _ c => p c.s.state) (handleStorageError err) := by
  unfold handleStorageError; split_ifs <;> exact guards_inState_reply _

theorem guards_inState_handleEhlo (hostname : String) :
    Guards (fun c => p c.s.state) (fun _ c => p c.s.state) (handleEhlo hostname) := by
  unfold handleEhlo; dsimp only
  split
  · exact guards_inState_reply _
  · exact Guards.bind (Guards.updateS fun c h => by simpa using h) fun _ => guards_inState_reply _

theorem Guards.kept_done {P W : Conf → Prop} {x : GoM Unit} (hx : Guards P E x) :
    Hoare P (done x) (Kept P W) E :=
  Hoare.bind hx fun _ => Hoare.pure _ fun _ h => h

theorem hoare_kept_suspend {P P' W : Conf → Prop} {q : Pc} (h : ∀ c, P c → W { c with pc := q }) :
    Hoare P (suspend q) (Kept P' W) E :=
  Hoare.bind (R := fun _ => W) h fun _ => Hoare.pure _ fun _ h => h

end

section
variable (cfg : Config) (o : Outcome) {p : State → Prop}

theorem guards_inState_handleHelo (cmd : Command) (hp : p .mail) :
    Guards (fun c => p c.s.state) (fun _ c => p c.s.state) (handleHelo cmd) := by
  unfold handleHelo; dsimp only
  refine Guards.bind Guards.getS fun _ => ?_
  split
  · exact guards_inState_reply _
  refine Guards.bind (Guards.modifyS fun _ h => h) fun _ => ?_
  split
  · exact guards_inState_reply _
  refine Guards.bind (Guards.modifyS fun _ _ => hp) fun _ => ?_
  split
  · exact guards_inState_handleEhlo _
  · exact guards_inState_reply _

theorem guards_inState_handleMail (cmd : Command) (hp : p .rcpt) :
    Guards (fun c => p c.s.state) (fun _ c => p c.s.state) (handleMail cfg cmd) := by
  unfold handleMail; dsimp only
  refine Guards.bind Guards.getS fun _ => ?_
  split
  · exact guards_inState_reply _
  split
  · exact guards_inState_reply _
  split
  · exact guards_inState_reply _
  split
  · exact guards_inState_reply _
  · exact Guards.bind (Guards.modifyS fun _ _ => hp) fun _ => guards_inState_reply _

theorem guards_inState_handleRcpt (cmd : Command) :
    Guards (fun c => p c.s.state) (fun _ c => p c.s.state) (handleRcpt cfg cmd) := by
  unfold handleRcpt; dsimp only
  refine Guards.bind Guards.getS fun _ => ?_
  split
  · exact guards_inState_reply _
  split
  · exact guards_inState_reply _
  split
  · exact guards_inState_reply _
  split
  · exact guards_inState_reply _
  · exact Guards.bind (Guards.modifyS fun _ h => h) fun _ => guards_inState_reply _

theorem guards_inState_handleVrfy (cmd : Command) :
    Guards (fun c => p c.s.state) (fun _ c => p c.s.state) (handleVrfy cfg cmd) := by
  unfold handleVrfy; dsimp only
  refine Guards.bind Guards.getS fun _ => ?_
  split_ifs <;> exact guards_inState_reply _

theorem guards_inState_handleRset (hp : p .mail) :
    Guards (fun c => p c.s.state) (fun _ c => p c.s.state) handleRset := by
  unfold handleRset
  refine Guards.bind Guards.getS fun _ => ?_
  split
  · exact guards_inState_reply _
  · exact Guards.bind (Guards.modifyS fun _ _ => hp) fun _ => guards_inState_reply _

theorem guards_inState_handleNoop :
    Guards (fun c => p c.s.state) (fun _ c => p c.s.state) handleNoop := by
  unfold handleNoop
  exact Guards.bind Guards.getS fun _ => by split <;> exact guards_inState_reply _

theorem hoare_inState_handleQuit (hp : p .quit) :
    Hoare (fun c => p c.s.state) handleQuit (fun _ _ => False) fun _ c => p c.s.state := by
  unfold handleQuit
  refine Hoare.bind Guards.getS fun _ => ?_
  split <;> exact Hoare.bind (guards_inState_reply _) fun _ =>
    Hoare.bind (Guards.modifyS fun _ _ => hp) fun _ => Hoare.throwErr fun _ h => h

theorem guards_inState_handleStartTLS (hp : p .helo) :
    Guards (fun c => p c.s.state) (fun _ c => p c.s.state) (handleStartTLS o) := by
  unfold handleStartTLS; dsimp only
  refine Guards.bind Guards.getS fun _ => ?_
  split
  · exact guards_inState_reply _
  split
  · exact guards_inState_reply _
  refine Guards.bind (guards_inState_reply _) fun _ => ?_
  split
  · exact Guards.bind (Guards.throwErr fun _ h => h) fun _ => Guards.modifyS fun _ _ => hp
  · exact Guards.bind (Guards.pure _) fun _ => Guards.modifyS fun _ _ => hp

theorem guards_inState_authFinish (r : Except GoErr String) (hp : p .mail) :
    Guards (fun c => p c.s.state) (fun _ c => p c.s.state) (authFinish cfg r) := by
  unfold authFinish
  split
  · exact guards_inState_reply _
  split
  · exact guards_inState_reply _
  · exact guards_inState_reply _
  · exact Guards.bind (Guards.modifyS fun _ _ => hp) fun _ => guards_inState_reply _

variable (hp : p .mail) (hadm : ∀ t, p t → t = .mail ∨ t = .auth)
include hp hadm

theorem hoare_inState_authStart (m : Mech) (parts : List String) :
    Hoare (fun c => p c.s.state) (authStart cfg o m parts)
      (Kept (fun c => p c.s.state) (Waits p)) fun _ c => p c.s.state := by
  have hs : ∀ {w priv}, Hoare (fun c => p c.s.state) (suspend (.authLine w priv))
      (Kept (fun c => p c.s.state) (Waits p)) fun _ c => p c.s.state :=
    hoare_kept_suspend fun _ h => ⟨h, by rcases hadm _ h with h' | h' <;> simp [pcAdmits, h']⟩
  unfold authStart
  repeat' first
    | exact hs
    | exact (guards_inState_authFinish cfg _ hp).kept_done
    | (with_reducible apply Hoare.bind (Guards.attempt (guards_inState_writeChallenge _))); intro _
    | split

theorem hoare_inState_authResume (w : AuthWait) (line : Except GoErr (List Char))
    (priv : List Char) :
    Hoare (fun c => p c.s.state) (authResume cfg w line priv)
      (Kept (fun c => p c.s.state) (Waits p)) fun _ c => p c.s.state := by
  have hs : ∀ {w priv}, Hoare (fun c => p c.s.state) (suspend (.authLine w priv))
      (Kept (fun c => p c.s.state) (Waits p)) fun _ c => p c.s.state :=
    hoare_kept_suspend fun _ h => ⟨h, by rcases hadm _ h with h' | h' <;> simp [pcAdmits, h']⟩
  unfold authResume
  repeat' first
    | exact hs
    | exact (guards_inState_authFinish cfg _ hp).kept_done
    | (with_reducible apply Hoare.bind (Guards.attempt (guards_inState_writeChallenge _))); intro _
    | split

theorem hoare_inState_handleAuth (cmd : Command) :
    Hoare (fun c => p c.s.state) (handleAuth cfg o cmd)
      (Kept (fun c => p c.s.state) (Waits p)) fun _ c => p c.s.state := by
  unfold handleAuth
  refine Hoare.bind Guards.getS fun _ => ?_
  split
  · exact (guards_inState_reply _).kept_done
  split
  · exact (guards_inState_reply _).kept_done
  split
  · exact (guards_inState_reply _).kept_done
  · exact hoare_inState_authStart cfg o hp hadm _ _

end

section
variable (cfg : Config) (o : Outcome) {p : State → Prop}

theorem hoare_inState_handleData (hp : p .data) :
    Hoare (fun c => p c.s.state) handleData (Kept (fun c => p c.s.state) (Waits p))
      fun _ c => p c.s.state := by
  unfold handleData; dsimp only
  refine Hoare.bind Guards.getS fun _ => ?_
  split
  · exact Hoare.bind (guards_inState_reply _) fun _ => Hoare.pure _ fun _ h => h
  refine Hoare.bind (Guards.pure _) fun _ => ?_
  split
  · exact Hoare.bind (guards_inState_reply _) fun _ => Hoare.pure _ fun _ h => h
  refine Hoare.bind (R := fun _ c => p c.s.state ∧ c.s.state = .data) (fun _ _ => ⟨hp, rfl⟩)
    fun _ => ?_
  refine Hoare.bind ((guards_inState_reply (p := fun t => p t ∧ t = .data) _).mono
    (fun _ _ h => h) fun _ _ h => h.1) fun _ => ?_
  exact hoare_kept_suspend fun _ h => ⟨h.1, by simp [pcAdmits, h.2]⟩

theorem hoare_inState_handleBdat (cmd : Command) (hadm : ∀ t, p t → t = .rcpt ∨ t = .bdat) :
    Hoare (fun c => p c.s.state) (handleBdat cmd) (Kept (fun c => p c.s.state) (Waits p))
      fun _ c => p c.s.state :=
  Hoare.handleBdat_of cmd
    (fun _ => Hoare.bind (guards_inState_reply _) fun _ => Hoare.pure _ fun _ h => h)
    fun _ hq => hoare_kept_suspend fun _ h => ⟨h, by
      rcases hq with rfl | ⟨_, _, rfl⟩
      · rfl
      · rcases hadm _ h with h' | h' <;> simp [pcAdmits, h']⟩

theorem guards_inState_storeMessage (content : String) {E : GoErr → Conf → Prop} :
    Guards (fun c => p c.s.state) E (storeMessage o content) :=
  Guards.bind Guards.getS fun _ => Guards.bind (Guards.logEvent fun _ h => h) fun _ => Guards.pure _

theorem guards_inState_finishData (data : List Char) (hp : p .mail) :
    Guards (fun c => p c.s.state) (fun _ c => p c.s.state) (finishData o data) := by
  unfold finishData; dsimp only
  repeat' first
    | with_reducible exact Guards.pure _
    | with_reducible exact Guards.throwErr fun _ h => h
    | with_reducible exact guards_inState_reply _
    | with_reducible exact guards_inState_handleStorageError _
    | (with_reducible apply Guards.bind Guards.getS); intro _
    | (with_reducible apply Guards.bind (guards_inState_storeMessage o _)); intro _
    | (with_reducible apply Guards.bind (Guards.modifyS fun _ _ => hp)); intro _
    | with_reducible refine Guards.bind ?_ fun _ => ?_
    | split

theorem guards_inState_finishBdat (chunk : List Char) (last : Bool) (hb : p .bdat) (hp : p .mail) :
    Guards (fun c => p c.s.state) (fun _ c => p c.s.state) (finishBdat o chunk last) := by
  unfold finishBdat
  repeat' first
    | with_reducible exact Guards.pure _
    | with_reducible exact guards_inState_reply _
    | with_reducible exact guards_inState_handleStorageError _
    | (with_reducible apply Guards.bind Guards.getS); intro _
    | (with_reducible apply Guards.bind (guards_inState_storeMessage o _)); intro _
    | (with_reducible apply Guards.bind (Guards.modifyS fun _ h => h)); intro _
    | (with_reducible apply Guards.bind (Guards.modifyS fun _ _ => hb)); intro _
    | (with_reducible apply Guards.bind (Guards.modifyS fun _ _ => hp)); intro _
    | with_reducible refine Guards.bind ?_ fun _ => ?_
    | split

theorem hoare_inState_handleStart {W : Conf → Prop} (hp : p .helo) :
    Hoare (fun c => p c.s.state) (handleStart cfg) (Kept (fun c => p c.s.state) W)
      fun _ c => p c.s.state := by
  unfold handleStart greet; dsimp only
  refine Hoare.bind (R := fun _ c => p c.s.state) ?_ fun _ =>
    Hoare.bind (Guards.modifyS fun _ h => h) fun _ => Hoare.pure _ fun _ h => h
  split
  · exact Guards.pure _
  · exact Guards.bind (Guards.pure _) fun _ => Guards.bind Guards.getS fun _ =>
      Guards.bind (guards_inState_reply _) fun _ => Guards.modifyS fun _ _ => hp

end

section
variable (cfg : Config) (o : Outcome)

theorem hoare_moved_dispatch (v : Verb) (cmd : Command) {st : State} (hst : st ≠ .auth)
    (hv : v.allowedIn st = true) :
    Hoare (fun c => c.s.state = st) (dispatch cfg o v cmd)
      (Kept (fun c => Moved st c.s.state = true) (Waits (Moved st · = true)))
      fun _ c => Moved st c.s.state = true := by
  have hpre : ∀ c : Conf, c.s.state = st → Moved st c.s.state = true := fun _ h => by simp [h]
  cases v <;> simp only [dispatch]
  case helo | ehlo =>
    exact ((guards_inState_handleHelo (p := fun t => Moved st t = true) cmd (by revert hv hst; cases st <;> decide)).kept_done).pre hpre
  case auth =>
    have hm : st = .mail := by revert hv hst; cases st <;> decide
    subst hm
    exact ((hoare_inState_handleAuth cfg o (p := fun t => Moved .mail t = true ∧
      (t = .mail ∨ t = .auth)) ⟨rfl, .inl rfl⟩ (fun _ h => h.2) cmd).pre fun _ h => ⟨hpre _ h,
      .inl h⟩).mono (fun f _ h => by cases f <;> first | exact h.1 | exact ⟨h.1.1, h.2⟩)
      fun _ _ h => h.1
  case mail => exact ((guards_inState_handleMail cfg (p := fun t => Moved st t = true) cmd (by revert hv hst; cases st <;> decide)).kept_done).pre hpre
  case rcpt => exact ((guards_inState_handleRcpt cfg (p := fun t => Moved st t = true) cmd).kept_done).pre hpre
  case data => exact (hoare_inState_handleData (p := fun t => Moved st t = true) (by revert hv hst; cases st <;> decide)).pre hpre
  case bdat =>
    exact ((hoare_inState_handleBdat (p := (· = st)) cmd fun _ h => by
      rw [h]; revert hv; cases st <;> decide).pre fun _ h => h).mono
      (fun f _ h => by cases f <;> first | exact hpre _ h | exact ⟨hpre _ h.1, h.2⟩)
      fun _ _ h => hpre _ h
  case rset => exact ((guards_inState_handleRset (p := fun t => Moved st t = true) (by revert hv hst; cases st <;> decide)).kept_done).pre hpre
  case noop => exact ((guards_inState_handleNoop (p := fun t => Moved st t = true)).kept_done).pre hpre
  case starttls =>
    exact ((guards_inState_handleStartTLS o (p := fun t => Moved st t = true) (by revert hv hst; cases st <;> decide)).kept_done).pre hpre
  case quit =>
    exact Hoare.bind ((hoare_inState_handleQuit (p := fun t => Moved st t = true) (by revert hv hst; cases st <;> decide)).pre hpre) fun _ _ h => h.elim
  case vrfy => exact ((guards_inState_handleVrfy cfg (p := fun t => Moved st t = true) cmd).kept_done).pre hpre

theorem hoare_moved_runLine {st : State} (hst : st ≠ .auth) (line : List Char) :
    Hoare (fun c => c.s.state = st) (runLine cfg o line)
      (Kept (fun c => Moved st c.s.state = true) (Waits (Moved st · = true)))
      fun _ c => Moved st c.s.state = true :=
  hoare_kept_runLine cfg o (Framed.state st).loop (framed_inState fun t => Moved st t = true).loop (framed_inState fun t => Moved st t = true).loop
    (fun _ h => by simp [h]) (fun _ h => h) (fun _ v cmd _ _ =>
      Hoare.pre (S := fun c => c.s.state = st ∧ v.allowedIn st = true)
        (fun _ h => ⟨h.1, h.1 ▸ h.2.2⟩) (Hoare.pull fun hv => hoare_moved_dispatch cfg o v cmd hst hv))
    line

end

theorem stateOk_settle {st : State} (hst : st ≠ .auth) {r : Except GoErr Flow × Conf}
    (h : Lands (Kept (fun c => Moved st c.s.state = true) (Waits (Moved st · = true)))
      (fun _ c => Moved st c.s.state = true) r) :
    StateOk (Conf.settle r) ∧ Moved st (Conf.settle r).s.state = true := by
  rcases r with ⟨e | fl, c⟩
  · cases e <;> exact ⟨⟨moved_ne_auth hst h, rfl⟩, h⟩
  · cases fl
    · exact ⟨⟨moved_ne_auth hst h, rfl⟩, h⟩
    · exact ⟨⟨moved_ne_auth hst h.1, h.2⟩, h.1⟩

theorem stateOk_resume {st : State} (hst : st ≠ .auth) {P : Conf → Prop} {x : GoM Flow}
    (hx : Hoare P x (Kept (fun c => Moved st c.s.state = true) (Waits (Moved st · = true)))
      fun _ c => Moved st c.s.state = true) {c : Conf} (h : P c) :
    StateOk (Conf.settle (resume x c)) ∧ Moved st (Conf.settle (resume x c)).s.state = true :=
  stateOk_settle hst (hoare_kept_resume (framed_inState fun t => Moved st t = true).loop (framed_inState fun t => Moved st t = true).loop
    (fun _ h => h) true hx c h)

theorem stateOk_step (cfg : Config) (o : Outcome) {c c' : Conf} (h : StateOk c)
    (hs : step cfg o c = some c') : StateOk c' ∧ Moved c.s.state c'.s.state = true := by
  obtain ⟨hst, hpc⟩ := h
  have hself : Moved c.s.state c.s.state = true := moved_self _
  have hthrow : ∀ {e : GoErr}, Hoare (fun c' => c'.s.state = c.s.state) (throwErr e : GoM Flow)
      (Kept (fun c' => Moved c.s.state c'.s.state = true) (Waits (Moved c.s.state · = true)))
      fun _ c' => Moved c.s.state c'.s.state = true :=
    Hoare.throwErr fun _ h => by simp [h]
  unfold step at hs
  split at hs <;> rename_i hq <;> simp only [hq] at hpc
  case h_1 =>
    cases hs
    have hg : c.s.state = .greeting := by simpa [pcAdmits] using hpc
    exact stateOk_settle hst (hoare_inState_handleStart cfg
      (p := fun t => Moved c.s.state t = true) (by rw [hg]; rfl) c hself)
  case h_2 =>
    split at hs
    · cases hs
    · split at hs <;> cases hs
      · exact ⟨⟨hst, rfl⟩, hself⟩
      · exact ⟨⟨hst, rfl⟩, hself⟩
      · exact stateOk_settle hst (hoare_moved_runLine cfg o hst _ _ rfl)
  case h_3 =>
    have hd : c.s.state = .data := by simpa [pcAdmits] using hpc
    split at hs <;> cases hs
    · exact stateOk_resume hst hthrow rfl
    · exact stateOk_resume hst (P := fun c' => Moved c.s.state c'.s.state = true)
        (Hoare.bind (Guards.logEvent fun _ h => h) fun _ => (guards_inState_finishData o
          (p := fun t => Moved c.s.state t = true) _ (by rw [hd]; rfl)).kept_done) hself
  case h_4 =>
    split at hs <;> cases hs
    · exact stateOk_resume hst hthrow rfl
    · exact ⟨⟨hst, hpc⟩, hself⟩
  case h_5 =>
    have hrb : c.s.state = .rcpt ∨ c.s.state = .bdat := by simpa [pcAdmits] using hpc
    split at hs <;> cases hs
    exact stateOk_resume hst (P := fun c' => Moved c.s.state c'.s.state = true)
      (guards_inState_finishBdat o (p := fun t => Moved c.s.state t = true) _ _
        (by rcases hrb with h | h <;> rw [h] <;> rfl)
        (by rcases hrb with h | h <;> rw [h] <;> rfl)).kept_done hself
  case h_6 =>
    have hm : c.s.state = .mail := by
      revert hst hpc; cases c.s.state <;> simp [pcAdmits]
    have hr : ∀ {w l priv}, Hoare (fun c' => Moved c.s.state c'.s.state = true ∧
        (c'.s.state = .mail ∨ c'.s.state = .auth)) (authResume cfg w l priv)
        (Kept (fun c' => Moved c.s.state c'.s.state = true) (Waits (Moved c.s.state · = true)))
        fun _ c' => Moved c.s.state c'.s.state = true := fun {w l priv} =>
      (hoare_inState_authResume cfg (p := fun t => Moved c.s.state t = true ∧
        (t = .mail ∨ t = .auth)) ⟨by rw [hm]; rfl, .inl rfl⟩ (fun _ h => h.2) w l priv).mono
        (fun f _ h => by cases f <;> first | exact h.1 | exact ⟨h.1.1, h.2⟩) fun _ _ h => h.1
    split at hs <;> cases hs
    · exact stateOk_resume hst hr ⟨hself, .inl hm⟩
    · exact stateOk_resume hst hr ⟨hself, .inl hm⟩
  all_goals cases hs

theorem stateOk_env {c : Conf} (h : StateOk c) (e : Env) : StateOk (c.env e) := by
  cases e <;> simp only [Conf.env] <;> (try split_ifs) <;> exact h

theorem reach_stateOk {cfg : Config} {c : Conf} (h : Reach cfg c) : StateOk c := by
  induction h with
  | init t n => exact ⟨nofun, rfl⟩
  | step o _ hs ih => exact (stateOk_step _ o ih hs).1
  | env e _ ih => exact stateOk_env ih e

/-- Every step of a reachable session stays in its state or makes one move. -/
theorem state_step_moves {cfg : Config} {o : Outcome} {c c' : Conf} (h : Reach cfg c)
    (hs : step cfg o c = some c') :
    c'.s.state = c.s.state ∨ c.s.state.moves c'.s.state = true := by
  simpa [Moved] using (stateOk_step cfg o (reach_stateOk h) hs).2

set_option maxRecDepth 100000 in
theorem mail_from_step_moves :
    let o : Outcome := ⟨none, true, 0, 0⟩
    let c := (session ["EHLO c"]).env (.deliver "MAIL FROM:<a@x>\r\n".data)
    (Reach plainPort c ∧ step plainPort o c = some (run plainPort o 1 c)) ∧
      ((run plainPort o 1 c).s.state = c.s.state ∨
        c.s.state.moves (run plainPort o 1 c).s.state = true) :=
  ⟨⟨.env _ (reach_session _), by decide⟩, state_step_moves (o := ⟨none, true, 0, 0⟩) (.env _ (reach_session _)) (by decide)⟩

/-- Every reachable configuration is out of AUTH, in a state its place admits. -/
theorem reach_state_admitted {cfg : Config} {c : Conf} (h : Reach cfg c) :
    c.s.state ≠ .auth ∧ pcAdmits c.pc c.s.state = true :=
  reach_stateOk h

set_option maxRecDepth 100000 in
theorem bdat_chunk_read_admitted :
    let o : Outcome := ⟨none, true, 0, 0⟩
    let c := lockstep plainPort o ["BDAT 5"] (session ["EHLO c", "MAIL FROM:<a@x>", "RCPT TO:<b@y>"])
    Reach plainPort c ∧ c.pc = .bdatChunk 5 false ∧ c.s.state ≠ .auth ∧ pcAdmits c.pc c.s.state = true :=
  ⟨.lockstep _ _ (reach_session _), by decide, reach_state_admitted (.lockstep _ _ (reach_session _))⟩

/-- CanTransitionTo admits every state change of a reachable session but four. -/
theorem state_change_canTransitionTo {cfg : Config} {o : Outcome} {c c' : Conf}
    (h : Reach cfg c) (hs : step cfg o c = some c') (hne : c'.s.state ≠ c.s.state) :
    c.s.state.canTransitionTo c'.s.state = true ∨ (c.s.state = .mail ∧ c'.s.state = .helo) ∨
      (c.s.state = .rcpt ∧ c'.s.state = .mail) ∨
      ((c.s.state = .helo ∨ c.s.state = .rcpt) ∧ c'.s.state = .quit) := by
  have hm := (stateOk_step cfg o (reach_stateOk h) hs).2
  revert hm hne
  generalize c.s.state = a
  generalize c'.s.state = b
  cases a <;> cases b <;> decide

set_option maxRecDepth 100000 in
theorem starttls_step_leaves_table :
    let o : Outcome := ⟨none, true, 0, 0⟩
    let c := (session ["EHLO c"]).env (.deliver "STARTTLS\r\n".data)
    (Reach plainPort c ∧ step plainPort o c = some (run plainPort o 1 c) ∧
      (run plainPort o 1 c).s.state ≠ c.s.state) ∧
      (c.s.state.canTransitionTo (run plainPort o 1 c).s.state = true ∨
        (c.s.state = .mail ∧ (run plainPort o 1 c).s.state = .helo) ∨
        (c.s.state = .rcpt ∧ (run plainPort o 1 c).s.state = .mail) ∨
        ((c.s.state = .helo ∨ c.s.state = .rcpt) ∧ (run plainPort o 1 c).s.state = .quit)) :=
  ⟨⟨.env _ (reach_session _), by decide, by decide⟩,
    state_change_canTransitionTo (o := ⟨none, true, 0, 0⟩) (.env _ (reach_session _)) (by decide)
      (by decide)⟩

def inDataLoop (c : Conf) : Bool :=
  match c.pc with
  | .loop => c.s.state == .data
  | .exited _ | .crashed => c.s.state == .data || c.s.state == .quit
  | _ => false

section
variable (cfg : Config) (o : Outcome)

theorem hoare_data_dispatch (v : Verb) (cmd : Command) (hv : v.allowedIn .data = true) :
    Hoare (fun c => c.s.state = .data) (dispatch cfg o v cmd)
      (Kept (fun c => c.s.state = .data) fun _ => False)
      fun _ c => c.s.state = .data ∨ c.s.state = .quit := by
  cases v <;> simp [Verb.allowedIn] at hv <;> simp only [dispatch]
  case noop =>
    exact ((guards_inState_handleNoop (p := (· = .data))).kept_done).mono (fun _ _ h => h)
      fun _ _ h => .inl h
  case quit =>
    exact Hoare.bind ((hoare_inState_handleQuit (p := fun t => t = .data ∨ t = .quit)
      (.inr rfl)).pre fun _ h => .inl h) fun _ _ h => h.elim
  case vrfy =>
    exact ((guards_inState_handleVrfy cfg (p := (· = .data)) cmd).kept_done).mono
      (fun _ _ h => h) fun _ _ h => .inl h

theorem inDataLoop_settle {r : Except GoErr Flow × Conf}
    (h : Lands (Kept (fun c => c.s.state = .data) fun _ => False)
      (fun _ c => c.s.state = .data ∨ c.s.state = .quit) r) :
    inDataLoop (Conf.settle r) = true := by
  rcases r with ⟨e | fl, c⟩
  · cases e <;> simpa [Conf.settle, Conf.exit, inDataLoop] using h
  · cases fl
    · simpa [Conf.settle, inDataLoop] using h
    · exact h.elim

theorem inDataLoop_step {c c' : Conf} (h : inDataLoop c = true) (hs : step cfg o c = some c') :
    inDataLoop c' = true := by
  unfold step at hs
  unfold inDataLoop at h
  split at hs <;> rename_i hq <;> simp only [hq, reduceCtorEq] at h
  case h_2 =>
    have hd : c.s.state = .data := by simpa using h
    split at hs
    · cases hs
    · split at hs <;> cases hs
      · simp [Conf.exit, inDataLoop, hd]
      · simp [Conf.exit, inDataLoop, hd]
      · exact inDataLoop_settle (hoare_kept_runLine cfg o (Framed.state .data).loop
          (Framed.state .data).loop (framed_inState fun t => t = .data ∨ t = .quit).loop
          (fun _ h => h) (fun _ h => .inl h) (fun _ v cmd _ _ =>
            Hoare.pre (S := fun c => c.s.state = .data ∧ v.allowedIn .data = true)
              (fun _ h => ⟨h.1, h.1 ▸ h.2.2⟩)
              (Hoare.pull fun hv => hoare_data_dispatch cfg o v cmd hv)) _ _ hd)
  all_goals cases hs

end

theorem inDataLoop_env {c : Conf} (h : inDataLoop c = true) (e : Env) :
    inDataLoop (c.env e) = true := by
  cases e <;> simp only [Conf.env] <;> (try split_ifs) <;> exact h

section
variable (cfg : Config) {o : Outcome} {err : String} (he : o.store = some err)
include he

theorem hoare_finishData_store_failed {st : State} {L : List Event} {data : List Char} :
    Hoare (fun c => c.s.state = st ∧ c.log = L ∧ ¬(data.length : Int) > getMaxMessageSize c.s)
      (finishData o data) (fun _ c => c.s.state = st ∧ ∃ m r, c.log = L ++ [.store m false, .reply r])
      (fun _ c => (c.s.state = st ∧ ∃ m r, c.log = L ++ [.store m false, .reply r]) ∧
        c.writeFailed = true) := by
  unfold finishData
  refine Hoare.getS_bind (R := fun s => ¬(data.length : Int) > getMaxMessageSize s)
    (fun _ h => h.2.2) fun s hs => ?_
  simp only [hs, if_false]
  refine Hoare.bind (Guards.pure _) fun _ => ?_
  refine Hoare.bind (R := fun r c => (c.s.state = st ∧ ∃ m, c.log = L ++ [.store m false]) ∧
    r = some err) (fun c h => by simpa [storeMessage_apply, h.2.1, he, Lands] using h.1)
    fun r => Hoare.pull fun hr => ?_
  subst hr
  obtain ⟨r, -, h4, hE⟩ := handleStorageError_eq err
  simp only [hE]
  exact Hoare.writeResponse_non421 h4 fun c q o w n ⟨hst, m, hl⟩ => ⟨hst, m, r, by simp [hl]⟩

theorem step_dataBody_store_failed {c : Conf} (hpc : c.pc = .dataBody) {data buf sock : List Char}
    (hr : readDotBytes c.reader.buf c.sock c.eof c.broken = .ok data buf sock)
    (hsize : ¬(data.length : Int) > getMaxMessageSize c.s) :
    ∃ c', step cfg o c = some c' ∧ c'.s.state = c.s.state ∧ (c'.pc = .loop ∨ c'.writeFailed = true) ∧
      ∃ m r, c'.log = c.log ++ [.body data, .store m false, .reply r] := by
  let S : Conf → Prop := fun c' =>
    c'.s.state = c.s.state ∧ ∃ m r, c'.log = c.log ++ [.body data, .store m false, .reply r]
  have hx : Hoare (fun c' => c'.s.state = c.s.state ∧ c'.log = c.log ∧
      ¬(data.length : Int) > getMaxMessageSize c'.s)
      (do logEvent (.body data); done (finishData o data)) (fun f c' => S c' ∧ f = .done)
      (fun _ c' => S c' ∧ c'.writeFailed = true) := by
    refine Hoare.bind (R := fun _ c' => c'.s.state = c.s.state ∧ c'.log = c.log ++ [.body data] ∧
      ¬(data.length : Int) > getMaxMessageSize c'.s) (fun _ h => ⟨h.1, by rw [h.2.1], h.2.2⟩)
      fun _ => Hoare.bind ((hoare_finishData_store_failed he).mono (fun _ _ h => ?_) fun _ _ h => ?_)
        fun _ => Hoare.pure _ fun _ h => ⟨h, rfl⟩
    · obtain ⟨h1, m, r, hl⟩ := h
      exact ⟨h1, m, r, by simp [hl]⟩
    · obtain ⟨⟨h1, m, r, hl⟩, hw⟩ := h
      exact ⟨⟨h1, m, r, by simp [hl]⟩, hw⟩
  have hres := Hoare.bind (Hoare.attempt (Q := fun r c' => match r with
      | .ok f => S c' ∧ f = .done
      | .error _ => S c' ∧ c'.writeFailed = true) hx) fun r => show Hoare _ (afterHandler true r)
      (fun f c' => S c' ∧ f = .done) (fun _ c' => S c' ∧ c'.writeFailed = true) from ?_
  · have hsettle : ∀ res, Lands (fun f c' => S c' ∧ f = .done)
        (fun _ c' => S c' ∧ c'.writeFailed = true) res →
        S (Conf.settle res) ∧ ((Conf.settle res).pc = .loop ∨ (Conf.settle res).writeFailed = true) := by
      rintro ⟨e | f, c'⟩ h
      · cases e <;> exact ⟨h.1, .inr h.2⟩
      · obtain ⟨h1, rfl⟩ := h
        exact ⟨h1, .inl rfl⟩
    simp only [step, hpc, hr, Option.some.injEq, exists_eq_left']
    obtain ⟨⟨h1, h2⟩, h3⟩ := hsettle _ (hres (c.withReader c.reader buf sock) ⟨rfl, rfl, hsize⟩)
    exact ⟨h1, h3, h2⟩
  rcases r with e | f
  · exact Hoare.bind (R := fun _ _ => False) (Hoare.bind
      (Hoare.flushResponses_write (P := fun c' => S c' ∧ c'.writeFailed = true)
      (fun _ _ _ h => h) fun _ h => h.1)
      fun _ => Hoare.throwErr fun _ h => h) fun _ _ h => h.elim
  · refine Hoare.pre (S := fun c' => S c' ∧ f = .done) (fun _ h => h) (Hoare.pull fun hf => ?_)
    subst hf
    exact Hoare.bind (Hoare.bind (Hoare.flushResponses_write (P := S) (fun _ _ _ h => h) fun _ h => h)
      fun _ => Hoare.pure _ fun _ h => h) fun _ => Hoare.pure _ fun _ h => ⟨h, rfl⟩

end

theorem allowedIn_data {v : Verb} : v.allowedIn .data = true ↔ v = .noop ∨ v = .quit ∨ v = .vrfy := by
  cases v <;> decide

/-- A failed Store of a DATA body traps the session in DATA. -/
theorem failed_data_store_stays_in_data (cfg : Config) :
    (∀ (o : Outcome) (err : String) (c : Conf) (data buf sock : List Char), Reach cfg c →
      o.store = some err → c.pc = .dataBody →
      readDotBytes c.reader.buf c.sock c.eof c.broken = .ok data buf sock →
      ¬(data.length : Int) > getMaxMessageSize c.s →
      ∃ c', step cfg o c = some c' ∧ c'.s.state = .data ∧ (c'.pc = .loop ∨ c'.writeFailed = true) ∧
        ∃ m r, c'.log = c.log ++ [.body data, .store m false, .reply r]) ∧
    (∀ c c', c.pc = .loop → c.s.state = .data → Follows cfg c c' →
      c'.s.state = .data ∨ c'.s.state = .quit) ∧
    (∀ (o : Outcome) (line : List Char) (cmd : Command) (v : Verb) (c : Conf), trimSpace line ≠ [] →
      ¬(trimSpace line).length > maxCommandLength → parseCommand ⟨trimSpace line⟩ = some cmd →
      Verb.ofName cmd.name = some v → v ≠ .noop → v ≠ .quit → v ≠ .vrfy → c.s.state = .data →
      (runLine cfg o line c).2.log = c.log ++ [.line ⟨trimSpace line⟩, .reply (refusal cmd .data)] ∧
        (runLine cfg o line c).2.s.state = .data) := by
  refine ⟨fun o err c data buf sock hc he hpc hr hsize => ?_, fun c c' hl hd hf => ?_,
    fun o line cmd v c hne hlen hp hv hn hq hy hd => ?_⟩
  · have hd : c.s.state = .data := by simpa [hpc, pcAdmits] using (reach_stateOk hc).2
    rw [← hd]
    exact step_dataBody_store_failed cfg he hpc hr hsize
  · have h : inDataLoop c' = true := by
      induction hf with
      | refl => simp [inDataLoop, hl, hd]
      | step o _ hs ih => exact inDataLoop_step _ o ih hs
      | env e _ ih => exact inDataLoop_env ih e
    unfold inDataLoop at h
    split at h <;> simp_all
  · have hst : v.allowedIn .data = false := by
      simpa [allowedIn_data, hn, hq, hy] using Bool.eq_false_iff.2 (mt allowedIn_data.1 (by simp [hn, hq, hy]))
    have h := Hoare.snd (hoare_refused_runLine cfg o (L := c.log) hne hlen hp hv hst) (c := c) ⟨rfl, hd⟩
    exact h

set_option maxRecDepth 100000 in
theorem data_store_failure_traps :
    let o : Outcome := ⟨some "mailbox full", true, 0, 0⟩
    let c := (lockstep plainPort o ["DATA", "hi"]
      (session ["EHLO c", "MAIL FROM:<a@x>", "RCPT TO:<b@y>"])).env (.deliver ".\r\n".data)
    let c' := run plainPort o 1 c
    (∃ c'', step plainPort o c = some c'' ∧ c''.s.state = .data ∧
      (c''.pc = .loop ∨ c''.writeFailed = true) ∧
      ∃ m r, c''.log = c.log ++ [.body "hi\n".data, .store m false, .reply r]) ∧
    ((lockstep plainPort o ["RSET", "MAIL FROM:<a@x>", "NOOP"] c').s.state = .data ∨
      (lockstep plainPort o ["RSET", "MAIL FROM:<a@x>", "NOOP"] c').s.state = .quit) ∧
    ((runLine plainPort o "RSET".data c').2.log =
        c'.log ++ [.line "RSET", .reply (refusal ⟨"RSET", []⟩ .data)] ∧
      (runLine plainPort o "RSET".data c').2.s.state = .data) :=
  have h := failed_data_store_stays_in_data plainPort
  ⟨h.1 _ _ _ _ [] [] (.env _ (.lockstep _ _ (reach_session _))) rfl (by decide) rfl (by decide),
    h.2.1 _ _ (by decide) (by decide) (.lockstep _ _ .refl),
    h.2.2 _ _ _ .rset _ (by decide) (by decide) (by decide) rfl (by decide) (by decide) (by decide)
      (by decide)⟩

end BadSmtp.Server
