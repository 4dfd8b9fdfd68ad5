import BadSmtp.Server.Run
import BadSmtp.Server.Guards

/-! The output discipline of writeResponse and handleCommand: while no Write has failed, the
lines written followed by responseQueue are exactly the responses produced, in order, and a 421
is the last line written. -/
namespace BadSmtp.Server
open BadSmtp.Go BadSmtp.Smtp

def Event.reply? : Event → Option String
  | .reply r => some r
  | _ => none

def replies (log : List Event) : List String := log.filterMap Event.reply?

@[simp] theorem replies_nil : replies [] = [] := rfl

@[simp] theorem replies_append (l l' : List Event) :
    replies (l ++ l') = replies l ++ replies l' := List.filterMap_append _ _ _

@[simp] theorem replies_singleton (e : Event) : replies [e] = e.reply?.toList := by
  cases e <;> rfl

/-- What is written and what is queued agree with what was produced. -/
def OutOk (c : Conf) : Prop :=
  (c.s.responseQueue ≠ [] → c.s.pipeliningMode = true) ∧ c.out <+: replies c.log ∧
    (c.writeFailed = false → c.out ++ c.s.responseQueue = replies c.log) ∧
    (c.writeFailed = true → c.broken = true ∨ 0 < c.closes)

def Clean (c : Conf) : Prop :=
  OutOk c ∧ c.closes = 0 ∧ ∀ r ∈ replies c.log, isResponse421 r = false

/-- Where a step that fails leaves the session. -/
def Ended (e : GoErr) (c : Conf) : Prop :=
  OutOk c ∧ (c.writeFailed = false → ∀ r ∈ replies c.log, isResponse421 r = true →
    e = .eof ∧ c.s.responseQueue = [] ∧ c.out.getLast? = some r)

theorem Clean.ended {c : Conf} (h : Clean c) (e : GoErr) : Ended e c :=
  ⟨h.1, fun _ r hr h4 => by simp [h.2.2 r hr] at h4⟩

theorem Clean.writeResponse {c : Conf} (h : Clean c) (r : String) :
    Lands (fun _ => Clean) Ended (writeResponse r c) := by
  obtain ⟨⟨hq, hpre, hout, hwf⟩, hcl, h421⟩ := h
  have hpre' := hpre.trans (List.prefix_append _ [r])
  rw [writeResponse_eq]
  by_cases hp : c.s.pipeliningMode = true <;> by_cases h4 : isResponse421 r = true <;>
    by_cases hb : c.broken = true <;>
    simp_all [Lands, Conf.writable, Clean, OutOk, Ended, Event.reply?, or_imp, forall_and, ← List.append_assoc]

theorem isResponse421_334 (x : String) : isResponse421 ("334 " ++ x) = false :=
  (isResponse421_code (' ' :: x.data) ⟨by decide, by decide⟩ ⟨by decide, by decide, by decide⟩
    (by decide : atoi ['3', '3', '4'] = some 334)).trans (by decide)

def CleanAt (p : Pc) (c : Conf) : Prop := Clean c ∧ c.pc = p

def CleanB (c : Conf) : Prop := Clean c ∧ c.s.pipeliningMode = false

theorem guards_writeResponse {p : Pc} (r : String) :
    Guards (CleanAt p) Ended (writeResponse r) := by
  rintro c ⟨h, hp⟩
  obtain ⟨q, o, w, n, he⟩ := writeResponse_frame r c
  exact (h.writeResponse r).and (by rw [he]; exact hp)

theorem guards_writeResponse_b (r : String) : Guards CleanB Ended (writeResponse r) := by
  rintro c ⟨h, hp⟩
  obtain ⟨q, o, w, n, he⟩ := writeResponse_frame r c
  exact (h.writeResponse r).and (by rw [he]; exact hp)

theorem guards_modifyS {p : Pc} {f : Session → Session}
    (h : ∀ s, (f s).responseQueue = s.responseQueue ∧ (f s).pipeliningMode = s.pipeliningMode) :
    Guards (CleanAt p) Ended (modifyS f) := by
  intro c hc
  simpa [Lands, CleanAt, Clean, OutOk, h] using hc

theorem guards_modifyS_b {f : Session → Session}
    (h : ∀ s, (f s).responseQueue = s.responseQueue ∧ (f s).pipeliningMode = s.pipeliningMode) :
    Guards CleanB Ended (modifyS f) := by
  intro c hc
  simpa [Lands, CleanB, Clean, OutOk, h] using hc

theorem guards_updateS {p : Pc} {α : Type} {f : Session → Session × α}
    (h : ∀ s, (f s).1.responseQueue = s.responseQueue ∧
      (f s).1.pipeliningMode = s.pipeliningMode) :
    Guards (CleanAt p) Ended (updateS f) := by
  intro c hc
  simpa [Lands, CleanAt, Clean, OutOk, h] using hc

theorem guards_logEvent_b {e : Event} (he : e.reply? = none) :
    Guards CleanB Ended (logEvent e) := by
  intro c hc
  simpa [Lands, CleanB, Clean, OutOk, he] using hc

theorem guards_setPc_b (p : Pc) : Guards CleanB Ended (setPc p) := fun _ h => h

theorem guards_throwErr_b {α : Type} (e : GoErr) : Guards CleanB Ended (throwErr e : GoM α) :=
  Guards.throwErr fun _ h => h.1.ended e

theorem guards_writeChallenge_b {r : String} (h4 : isResponse421 r = false) :
    Guards CleanB (fun _ => CleanB) (writeChallenge r) := by
  rintro c ⟨⟨⟨hq, hpre, hout, hwf⟩, hcl, h421⟩, hp⟩
  have hq' : c.s.responseQueue = [] := by
    by_contra hne
    simp [hq hne] at hp
  have hpre' := hpre.trans (List.prefix_append _ [r])
  by_cases hb : c.broken = true <;>
    simp_all [writeChallenge, Lands, CleanB, Clean, OutOk, Event.reply?, Conf.writable, or_imp,
      forall_and]

section
variable (cfg : Config) (o : Outcome)

theorem guards_dispatch_of_not_breaks (v : Verb) (cmd : Command)
    (hv : breaksPipelining v = false) : Guards (CleanAt .loop) Ended (dispatch cfg o v cmd) := by
  cases v <;> simp only [breaksPipelining, Bool.true_eq_false] at hv <;>
    unfold dispatch done handleHelo handleEhlo handleMail handleRcpt handleRset handleNoop
      handleVrfy <;> dsimp only <;>
  repeat' first
    | with_reducible exact Guards.pure _ | with_reducible exact Guards.getS
    | with_reducible exact guards_writeResponse _
    | (with_reducible refine guards_modifyS ?_) <;> intro _ <;> exact ⟨rfl, rfl⟩
    | (with_reducible refine guards_updateS ?_) <;> intro _ <;> exact ⟨rfl, rfl⟩
    | with_reducible refine Guards.bind ?_ fun _ => ?_ | split

theorem guards_dispatch_of_breaks (v : Verb) (cmd : Command)
    (hv : breaksPipelining v = true) : Guards CleanB Ended (dispatch cfg o v cmd) := by
  cases v <;> simp only [breaksPipelining, Bool.false_eq_true] at hv <;>
    simp only [dispatch, done, suspend, handleData, handleBdat, handleQuit, handleStartTLS,
      handleAuth, authStart, authFinish] <;>
  repeat' first
    | with_reducible exact Guards.pure _ | with_reducible exact Guards.getS
    | with_reducible exact guards_writeResponse_b _
    | with_reducible exact guards_throwErr_b _
    | with_reducible exact guards_setPc_b _
    | (with_reducible refine guards_modifyS_b ?_) <;> intro _ <;> exact ⟨rfl, rfl⟩
    | (with_reducible refine Guards.attempt (guards_writeChallenge_b ?_)) <;>
        exact isResponse421_334 _
    | with_reducible refine Guards.bind ?_ fun _ => ?_ | split

theorem guards_resumed :
    (∀ data, Guards CleanB Ended (finishData o data)) ∧
    (∀ chunk last, Guards CleanB Ended (finishBdat o chunk last)) ∧
    (∀ w line priv, Guards CleanB Ended (authResume cfg w line priv)) := by
  refine ⟨fun data => ?_, fun chunk last => ?_, fun w line priv => ?_⟩ <;>
    simp only [finishData, finishBdat, authResume, storeMessage, handleStorageError, done,
      suspend, authFinish] <;>
  repeat' first
    | with_reducible exact Guards.pure _ | with_reducible exact Guards.getS
    | with_reducible exact guards_writeResponse_b _
    | with_reducible exact guards_throwErr_b _
    | with_reducible exact guards_setPc_b _
    | (with_reducible refine guards_logEvent_b ?_) <;> rfl
    | (with_reducible refine guards_modifyS_b ?_) <;> intro _ <;> exact ⟨rfl, rfl⟩
    | (with_reducible refine Guards.attempt (guards_writeChallenge_b ?_)) <;>
        exact isResponse421_334 _
    | with_reducible refine Guards.bind ?_ fun _ => ?_ | split

end

theorem Ended.flush_return {e : GoErr} {c : Conf} (h : Ended e c) :
    Lands (fun _ _ => False) Ended (flushAndReturn (some e) c) := by
  obtain ⟨⟨hq, hpre, hout, hwf⟩, h421⟩ := h
  simp only [flushAndReturn, GoM.bind_apply, flushResponses_eq]
  by_cases he : c.s.responseQueue = []
  · simp only [he, if_true]
    exact ⟨⟨hq, hpre, hout, hwf⟩, h421⟩
  · have hno : c.writeFailed = false → ∀ r ∈ replies c.log, isResponse421 r = false := by
      intro hw r hr
      by_contra h4
      exact he (h421 hw r hr (by simpa using h4)).2.1
    by_cases hb : c.broken = true <;> by_cases hc : c.closes = 0 <;> cases hw : c.writeFailed <;>
      simp_all [Lands, Ended, OutOk, Conf.writable, Nat.pos_iff_ne_zero]

theorem hoare_flushResponses {p : Pc} :
    Hoare (CleanAt p) flushResponses (fun _ c => CleanAt p c ∧ c.s.responseQueue = []) Ended := by
  rintro c ⟨⟨⟨hq, hpre, hout, hwf⟩, hcl, h421⟩, hp⟩
  rw [flushResponses_eq]
  by_cases he : c.s.responseQueue = []
  · simp_all [Lands, CleanAt, Clean, OutOk]
  · by_cases hb : c.broken = true <;>
      simp_all [Lands, CleanAt, Clean, Ended, OutOk, Conf.writable]

theorem guards_afterHandler {P : Conf → Prop} {x : GoM Flow} {b : Bool}
    (hx : Guards P Ended x) (hb : b = true → Guards P Ended (flushAndReturn none)) :
    Guards P Ended (attempt x >>= afterHandler b) := by
  intro c hc
  have h := hx c hc
  simp only [GoM.bind_apply, attempt_apply]
  generalize x c = r at h ⊢
  rcases r with ⟨e | fl, c'⟩
  · have hf := Ended.flush_return h
    simp only [afterHandler, done, GoM.bind_apply]
    generalize flushAndReturn (some e) c' = r at hf
    rcases r with ⟨_ | _, _⟩
    · exact hf
    · exact hf.elim
  · cases fl <;> cases b <;> simp only [afterHandler, done, if_true, Bool.false_eq_true, if_false]
    · exact h
    · exact Guards.bind (hb rfl) (fun _ => Guards.pure _) c' h
    all_goals exact h

theorem guards_flushAndReturn_b : Guards CleanB Ended (flushAndReturn none) := by
  rintro c ⟨hc, hp⟩
  have hq : c.s.responseQueue = [] := by
    by_contra hne
    simp [hc.1.1 hne] at hp
  simpa [flushAndReturn, flushResponses_eq, hq, Lands, CleanB] using ⟨hc, hp⟩

def Live (c : Conf) : Prop :=
  Clean c ∧ (c.pc = .start ∨ c.pc = .loop ∨ c.s.pipeliningMode = false)

section
variable (cfg : Config) (o : Outcome)

theorem guards_parseAndLogCommand (line : String) :
    Guards (CleanAt .loop) Ended (parseAndLogCommand line) := by
  unfold parseAndLogCommand; dsimp only
  repeat' first
    | with_reducible exact Guards.pure _ | with_reducible exact Guards.getS
    | with_reducible exact guards_writeResponse _
    | with_reducible refine Guards.bind ?_ fun _ => ?_ | split

theorem hoare_handleCommand (line : String) :
    Hoare (CleanAt .loop) (handleCommand cfg o line) (fun _ => Live) Ended := by
  unfold handleCommand
  refine Hoare.bind (guards_parseAndLogCommand line) fun r => ?_
  rcases r with _ | ⟨v, cmd⟩
  · exact Hoare.pure _ fun c h => ⟨h.1, .inr (.inl h.2)⟩
  · dsimp only
    cases hv : breaksPipelining v
    · refine Hoare.bind (Guards.pure _) fun _ => ?_
      refine Hoare.mono (guards_afterHandler (guards_dispatch_of_not_breaks cfg o v cmd hv)
        (fun h => by simp at h)) (fun _ c h => ⟨h.1, .inr (.inl h.2)⟩) (fun _ _ h => h)
    · refine Hoare.bind hoare_flushResponses fun _ => ?_
      refine Hoare.bind (R := fun _ => CleanB) (fun c ⟨⟨hc, _⟩, hq⟩ => ?_) fun _ => ?_
      · simpa [Lands, CleanB, Clean, OutOk, hq] using hc
      · exact Hoare.mono (guards_afterHandler (guards_dispatch_of_breaks cfg o v cmd hv)
          fun _ => guards_flushAndReturn_b) (fun _ c h => ⟨h.1, .inr (.inr h.2)⟩) (fun _ _ h => h)

theorem guards_detectPipelining {p : Pc} : Guards (CleanAt p) Ended detectPipelining := by
  intro c h
  unfold detectPipelining
  split <;> exact h

theorem guards_pipelining_on {p : Pc} :
    Guards (CleanAt p) Ended (modifyS fun s => { s with pipeliningMode := true }) := by
  rintro c ⟨⟨⟨_, hpre, hout, hwf⟩, hcl, h421⟩, hp⟩
  exact ⟨⟨⟨fun _ => rfl, hpre, hout, hwf⟩, hcl, h421⟩, hp⟩

theorem guards_logLine {p : Pc} (l : String) : Guards (CleanAt p) Ended (logEvent (.line l)) := by
  intro c hc
  simpa [Lands, CleanAt, Clean, OutOk, Event.reply?] using hc

/-- One iteration of the loop ends clean, or fails as `Ended` says. -/
theorem hoare_runLine (line : List Char) :
    Hoare (CleanAt .loop) (runLine cfg o line) (fun _ => Live) Ended :=
  have hlive : ∀ c, CleanAt .loop c → Live c := fun _ h => ⟨h.1, .inr (.inl h.2)⟩
  Hoare.runLine_of line (fun _ => hlive) (guards_logLine _)
    (fun _ => (guards_writeResponse _).mono (fun _ => hlive) fun _ _ h => h)
    guards_detectPipelining guards_pipelining_on fun _ => hoare_handleCommand cfg o _

theorem guards_handleStart : Guards (CleanAt .start) Ended (handleStart cfg) := by
  unfold handleStart greet; dsimp only
  repeat' first
    | with_reducible exact Guards.pure _ | with_reducible exact Guards.getS
    | with_reducible exact guards_writeResponse _
    | (with_reducible refine guards_modifyS ?_) <;> intro _ <;> exact ⟨rfl, rfl⟩
    | with_reducible refine Guards.bind ?_ fun _ => ?_ | split

end

/-- The output invariant of every reachable configuration. -/
def OutInv (c : Conf) : Prop :=
  match c.pc with
  | .exited err => OutOk c ∧ (c.writeFailed = false → ∀ r ∈ replies c.log,
      isResponse421 r = true → err = none ∧ c.s.responseQueue = [] ∧ c.out.getLast? = some r)
  | _ => Live c

theorem Live.outInv {c : Conf} (h : Live c) : OutInv c := by
  unfold OutInv
  split
  · exact ⟨h.1.1, fun _ r hr h4 => by simp [h.1.2.2 r hr] at h4⟩
  · exact h

theorem OutOk.exit {c : Conf} (h : OutOk c) (err : Option GoErr) : OutOk (c.exit err) :=
  ⟨h.1, h.2.1, h.2.2.1, fun _ => .inr (Nat.succ_pos _)⟩

theorem Clean.exit {c : Conf} (h : Clean c) (err : Option GoErr) : OutInv (c.exit err) :=
  ⟨h.1.exit err, fun _ r hr h4 => by simp [h.2.2 r hr] at h4⟩

theorem outInv_settle {r : Except GoErr Flow × Conf} (h : Lands (fun _ => Live) Ended r) :
    OutInv (Conf.settle r) := by
  rcases r with ⟨e | fl, c⟩
  · obtain ⟨hok, h421⟩ := h
    cases e <;> refine ⟨hok.exit _, fun hw r hr h4 => ?_⟩ <;>
      obtain ⟨he, hq, hl⟩ := h421 hw r hr h4 <;> first | exact ⟨rfl, hq, hl⟩ | cases he
  · cases fl
    · exact Live.outInv ⟨h.1, .inr (.inl rfl)⟩
    · exact h.outInv

section
variable (cfg : Config) (o : Outcome)

theorem resume_lands {x : GoM Flow} (hx : Guards CleanB Ended x) {c : Conf} (h : CleanB c) :
    OutInv (Conf.settle (resume x c)) :=
  outInv_settle ((guards_afterHandler hx fun _ => guards_flushAndReturn_b) c h |>.mono
    (fun _ _ h => ⟨h.1, .inr (.inr h.2)⟩) fun _ _ h => h)

theorem outInv_step {c c' : Conf} (h : OutInv c) (hs : step cfg o c = some c') : OutInv c' := by
  unfold step at hs
  unfold OutInv at h
  split at hs <;> rename_i hpc <;> simp only [hpc] at h
  · cases hs
    exact outInv_settle ((guards_handleStart cfg) c ⟨h.1, hpc⟩ |>.mono
      (fun _ _ h => ⟨h.1, .inl h.2⟩) fun _ _ h => h)
  · split at hs
    · cases hs
    · split at hs
      · cases hs
      · cases hs; exact h.1.exit none
      · cases hs; exact h.1.exit _
      · cases hs
        exact outInv_settle (hoare_runLine cfg o _ _ ⟨h.1, hpc⟩)
  all_goals first
    | cases hs
    | have hb : CleanB c := ⟨h.1, by rcases h.2 with h' | h' | h' <;> simp_all⟩
  · split at hs
    · cases hs
    · cases hs; exact resume_lands (guards_throwErr_b _) hb
    · cases hs
      exact resume_lands (Guards.bind (guards_logEvent_b (e := .body _) rfl) fun _ =>
        Guards.bind ((guards_resumed cfg o).1 _) fun _ => Guards.pure _) hb
  · split at hs
    · cases hs
    · cases hs; exact resume_lands (guards_throwErr_b _) hb
    · cases hs
      exact Live.outInv ⟨by simpa [Clean, OutOk, Event.reply?] using hb.1, .inr (.inr hb.2)⟩
  · split at hs
    · cases hs
      exact resume_lands (Guards.bind ((guards_resumed cfg o).2.1 _ _) fun _ => Guards.pure _) hb
    · cases hs
  · split at hs
    · cases hs
    · cases hs; exact resume_lands ((guards_resumed cfg o).2.2 _ _ _) hb
    · cases hs
      exact resume_lands ((guards_resumed cfg o).2.2 _ _ _)
        ⟨by simpa [Clean, OutOk, Event.reply?] using hb.1, hb.2⟩

end

theorem outInv_env {c : Conf} (h : OutInv c) (e : Env) : OutInv (c.env e) := by
  cases e with
  | deliver b => simp only [Conf.env]; split_ifs <;> exact h
  | hangup => exact h
  | reset =>
    unfold OutInv at h ⊢
    have hok : OutOk c → OutOk { c with broken := true } :=
      fun ⟨h1, h2, h3, _⟩ => ⟨h1, h2, h3, fun _ => .inl rfl⟩
    split at h <;> rename_i hpc <;> simp only [Conf.env, hpc]
    · exact ⟨hok h.1, h.2⟩
    · exact ⟨⟨hok h.1.1, h.1.2⟩, h.2⟩

theorem outInv_init (implicitTls : Bool) (hostname : String) :
    OutInv (Conf.init implicitTls hostname) :=
  ⟨⟨⟨fun h => (h rfl).elim, List.prefix_refl _, fun _ => rfl, fun h => by cases h⟩, rfl,
    fun _ h => by cases h⟩, .inl rfl⟩

theorem reach_outInv {cfg : Config} {c : Conf} (h : Reach cfg c) : OutInv c := by
  induction h with
  | init t n => exact outInv_init t n
  | step o _ hs ih => exact outInv_step _ o ih hs
  | env e _ ih => exact outInv_env ih e

theorem isResponse421_421 (x : String) : isResponse421 ("421" ++ x) = true :=
  (isResponse421_code x.data ⟨by decide, by decide⟩ ⟨by decide, by decide, by decide⟩
    (by decide : atoi ['4', '2', '1'] = some 421)).trans (by decide)

/-- While no Write has failed, written then queued is exactly what was produced. -/
theorem written_lines_are_produced_responses {cfg : Config} {c : Conf} (h : Reach cfg c)
    (hw : c.writeFailed = false) :
    c.out ++ c.s.responseQueue = replies c.log ∧
    (c.s.responseQueue ≠ [] → c.s.pipeliningMode = true) ∧
    ∀ r ∈ replies c.log, isResponse421 r = true →
      c.pc = .exited none ∧ c.out = replies c.log ∧ c.out.getLast? = some r := by
  have hi := reach_outInv h
  unfold OutInv at hi
  split at hi <;> rename_i hpc
  · obtain ⟨⟨hq, -, hout, -⟩, h421⟩ := hi
    refine ⟨hout hw, hq, fun r hr h4 => ?_⟩
    obtain ⟨rfl, hq', hl⟩ := h421 hw r hr h4
    exact ⟨hpc, by simpa [hq'] using hout hw, hl⟩
  · obtain ⟨⟨⟨hq, -, hout, -⟩, -, h421⟩, -⟩ := hi
    exact ⟨hout hw, hq, fun r hr h4 => by simp [h421 r hr] at h4⟩

set_option maxRecDepth 100000 in
theorem noop421_written_last :
    let c := session ["EHLO c", "MAIL FROM:<noop421@x>", "NOOP"]
    c.writeFailed = false ∧
    (c.out ++ c.s.responseQueue = replies c.log ∧
      (c.s.responseQueue ≠ [] → c.s.pipeliningMode = true) ∧
      ∀ r ∈ replies c.log, isResponse421 r = true →
        c.pc = .exited none ∧ c.out = replies c.log ∧ c.out.getLast? = some r) :=
  ⟨by decide, written_lines_are_produced_responses (reach_session _) (by decide)⟩

end BadSmtp.Server
