import BadSmtp.Props.Listening

/-! AUTH exchanges with a client that follows each mechanism's standard encoding. With the
DefaultAuthenticator each ends back at the command loop with one verdict on the user named;
PLAIN without an initial response writes no challenge. -/
namespace BadSmtp.Server
open BadSmtp.Go BadSmtp.Smtp

/-- A session that accepts AUTH and has no AUTH error scheduled. -/
def AuthReady (s : Session) : Prop :=
  (s.state = .mail ∨ s.state = .auth) ∧ s.authErrorResult = none

instance : DecidablePred AuthReady := fun _ => inferInstanceAs (Decidable (_ ∧ _))

theorem framed_authReady : Framed AuthReady := ⟨fun _ _ h => h, fun _ _ h => h, fun _ _ h => h⟩

section
variable (cfg : Config) (o : Outcome) {L : List Event} {E : GoErr → Conf → Prop}

theorem answering_challenge_suspend {p : Session → Prop} (ch : String) (w : AuthWait)
    {priv : List Char} {k : Except GoErr Unit → GoM Flow}
    (hk : k (.ok ()) = suspend (.authLine w priv)) :
    Hoare (Answering p L) (attempt (writeChallenge ch) >>= k)
      (fun f c => (Answering p (L ++ [.reply ch]) c ∧ c.pc = .authLine w priv) ∧ f = .wait) E := by
  have hc : Hoare (Answering p L) (writeChallenge ch) (fun _ => Answering p (L ++ [.reply ch]))
      (fun _ _ => False) := answering_challenge ch
  refine Hoare.bind (Hoare.attempt (Q := fun r c => Answering p (L ++ [.reply ch]) c ∧ r = .ok ())
    (hc.mono (fun _ _ h => ⟨h, rfl⟩) fun _ _ h => h.elim)) fun r => Hoare.pull fun hr => ?_
  subst hr
  rw [hk]
  exact Hoare.bind (answering_setPc _) fun _ => Hoare.pure _ fun _ h => ⟨h, rfl⟩

theorem answering_handleAuth (cmd : Command) (m : Mech) {Q : Flow → Conf → Prop}
    (hm : newHandler (cmd.args.headD "") = some m)
    (h : Hoare (Answering AuthReady L) (authStart cfg o m (cmd.name :: cmd.args)) Q E) :
    Hoare (Answering AuthReady L) (handleAuth cfg o cmd) Q E := by
  unfold handleAuth
  refine Hoare.getS_bind (R := AuthReady) (fun _ h => h.1.2) fun s hs => ?_
  have hst : (s.state ≠ .mail && s.state ≠ .auth) = false := by
    rcases hs.1 with h | h <;> simp [h]
  simp only [hst, Bool.false_eq_true, if_false, hs.2, hm]
  exact h

end

theorem authAllowed {s : Session} (h : AuthReady s) : Verb.auth.allowedIn s.state = true := by
  rcases h.1 with h | h <;> simp [Verb.allowedIn, h]

/-- A command line that starts AUTH with mechanism `m`. -/
structure AuthCommandLine (line : String) (cmd : Command) (m : Mech) : Prop where
  newline : '\n' ∉ line.data
  trim : trimSpace line.data = line.data
  ne : line.data ≠ []
  length : line.data.length ≤ maxCommandLength
  parse : parseCommand line = some cmd
  verb : cmd.name = "AUTH"
  args : cmd.args ≠ []
  mech : newHandler (cmd.args.headD "") = some m

section
variable (cfg : Config) (o : Outcome) {L L' : List Event} {c : Conf} {line : String}
  {cmd : Command} {m : Mech}

theorem answering_auth_runLine (hl : AuthCommandLine line cmd m) {Q : Flow → Conf → Prop}
    (h : Hoare (Answering AuthReady (L ++ [.line line]))
      (attempt (handleAuth cfg o cmd) >>= afterHandler true) Q (fun _ _ => False)) :
    Hoare (Answering AuthReady L) (runLine cfg o line.data) Q (fun _ _ => False) := by
  have hv : Verb.ofName cmd.name = some .auth := by rw [hl.verb]; rfl
  have ha : validateArgs .auth cmd.args = none := by
    obtain ⟨a, as, h⟩ := List.exists_cons_of_ne_nil hl.args
    rw [h]; rfl
  refine answering_runLine cfg o framed_authReady (by rw [hl.trim]; exact hl.ne)
    (by rw [hl.trim]; exact not_lt.mpr hl.length) (by rw [hl.trim]; exact hl.parse) hv
    (fun _ h => authAllowed h) ha ?_
  rw [hl.trim]
  exact h

theorem lockstep_auth_wait (hl : AuthCommandLine line cmd m) (h : Answering AuthReady L c)
    (hpc : c.pc = .loop) {w : AuthWait}
    (hs : Hoare (Answering AuthReady (L ++ [.line line])) (authStart cfg o m (cmd.name :: cmd.args))
      (fun f c => (Answering AuthReady L' c ∧ c.pc = .authLine w []) ∧ f = .wait)
      (fun _ _ => False)) :
    ∃ c', (Answering AuthReady L' c' ∧ c'.pc = .authLine w []) ∧
      ∀ ls, lockstep cfg o (line :: ls) c = lockstep cfg o ls c' :=
  lockstep_wait cfg o (.inr (.inr ⟨w, rfl⟩)) (step_loop_deliver cfg o framed_authReady h hpc hl.newline)
    (answering_auth_runLine cfg o hl
      (answering_resume_wait (answering_handleAuth cfg o cmd m hl.mech hs)))

end

section
variable (cfg : Config) (o : Outcome) (hauth : cfg.authenticate = defaultAuthenticate)
  {c : Conf} (h : Answering AuthReady c.log c) (hpc : c.pc = .loop)
include hauth h hpc

end

/-- AUTH PLAIN with no initial response gets no 334, unlike XOAUTH2. -/
theorem plain_without_initial_response (cfg : Config) (o : Outcome) {c : Conf}
    (h : Answering AuthReady c.log c) (hpc : c.pc = .loop) :
    (Answering AuthReady (c.log ++ [.line "AUTH PLAIN"]) (lockstep cfg o ["AUTH PLAIN"] c) ∧
      (lockstep cfg o ["AUTH PLAIN"] c).pc = .authLine .plain []) ∧
    (Answering AuthReady (c.log ++ [.line "AUTH XOAUTH2", .reply "334 "])
        (lockstep cfg o ["AUTH XOAUTH2"] c) ∧
      (lockstep cfg o ["AUTH XOAUTH2"] c).pc = .authLine .xoauth2 []) := by
  have hp : AuthCommandLine "AUTH PLAIN" ⟨"AUTH", ["PLAIN"]⟩ .plain :=
    ⟨by decide, by decide, by decide, by decide, by decide, rfl, by decide, by decide⟩
  have hx : AuthCommandLine "AUTH XOAUTH2" ⟨"AUTH", ["XOAUTH2"]⟩ .xoauth2 :=
    ⟨by decide, by decide, by decide, by decide, by decide, rfl, by decide, by decide⟩
  obtain ⟨c₁, h₁, e₁⟩ := lockstep_auth_wait cfg o hp h hpc
    (Hoare.bind (answering_setPc _) fun _ => Hoare.pure _ fun _ h => ⟨h, rfl⟩)
  obtain ⟨c₂, h₂, e₂⟩ := lockstep_auth_wait cfg o hx h hpc
    (answering_challenge_suspend "334 " .xoauth2 rfl)
  rw [e₁, e₂, lockstep, lockstep]
  exact ⟨h₁, by simpa only [List.append_assoc, List.singleton_append] using h₂⟩

set_option maxRecDepth 100000 in
theorem plain_unanswered_after_ehlo :
    (Answering AuthReady (session ["EHLO c"]).log (session ["EHLO c"]) ∧
      (session ["EHLO c"]).pc = .loop) ∧
    ((Answering AuthReady ((session ["EHLO c"]).log ++ [.line "AUTH PLAIN"])
        (lockstep plainPort ⟨none, true, 0, 0⟩ ["AUTH PLAIN"] (session ["EHLO c"])) ∧
      (lockstep plainPort ⟨none, true, 0, 0⟩ ["AUTH PLAIN"] (session ["EHLO c"])).pc =
        .authLine .plain []) ∧
    (Answering AuthReady ((session ["EHLO c"]).log ++ [.line "AUTH XOAUTH2", .reply "334 "])
        (lockstep plainPort ⟨none, true, 0, 0⟩ ["AUTH XOAUTH2"] (session ["EHLO c"])) ∧
      (lockstep plainPort ⟨none, true, 0, 0⟩ ["AUTH XOAUTH2"] (session ["EHLO c"])).pc =
        .authLine .xoauth2 [])) :=
  have h : Answering AuthReady (session ["EHLO c"]).log (session ["EHLO c"]) :=
    ⟨⟨rfl, by decide⟩, by decide, by decide, by decide, by decide, .plain, by decide⟩
  have hpc : (session ["EHLO c"]).pc = .loop := by decide
  ⟨⟨h, hpc⟩, plain_without_initial_response plainPort ⟨none, true, 0, 0⟩ h hpc⟩

end BadSmtp.Server
