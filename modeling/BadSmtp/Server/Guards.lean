import BadSmtp.Server.Session

/-! A program logic for `GoM`: `Hoare P x Q E` says that from `P`, `x` returns `a` in `Q a`
or fails with `e` in `E e`, and `Guards P E x` is the case `Q = P`. Handlers are proved by
following their do-blocks, one lemma per primitive. -/
namespace BadSmtp.Server
open BadSmtp.Go

/-- An outcome lands in `Q a` if it returned `a`, in `E e` if it failed with `e`. -/
def Lands {α : Type} (Q : α → Conf → Prop) (E : GoErr → Conf → Prop) :
    Except GoErr α × Conf → Prop
  | (.ok a, c') => Q a c'
  | (.error e, c') => E e c'

def Hoare (P : Conf → Prop) {α : Type} (x : GoM α) (Q : α → Conf → Prop)
    (E : GoErr → Conf → Prop) : Prop :=
  ∀ c, P c → Lands Q E (x c)

@[reducible] def Guards (P : Conf → Prop) (E : GoErr → Conf → Prop) {α : Type} (x : GoM α) :
    Prop :=
  Hoare P x (fun _ => P) E

section
variable {α β : Type} {P R : Conf → Prop} {Q : α → Conf → Prop} {E : GoErr → Conf → Prop}

theorem Lands.and {r : Except GoErr α × Conf} (h : Lands (fun _ => P) E r) (hq : R r.2) :
    Lands (fun _ c => P c ∧ R c) E r := by
  rcases r with ⟨_ | _, _⟩
  · exact h
  · exact ⟨h, hq⟩

theorem Lands.mono {Q' : α → Conf → Prop} {E' : GoErr → Conf → Prop}
    {r : Except GoErr α × Conf} (h : Lands Q E r) (hQ : ∀ a c, Q a c → Q' a c)
    (hE : ∀ e c, E e c → E' e c) : Lands Q' E' r := by
  rcases r with ⟨_ | _, _⟩
  · exact hE _ _ h
  · exact hQ _ _ h

theorem Hoare.bind {R : α → Conf → Prop} {Q : β → Conf → Prop} {x : GoM α} {f : α → GoM β}
    (hx : Hoare P x R E) (hf : ∀ a, Hoare (R a) (f a) Q E) : Hoare P (x >>= f) Q E := by
  intro c hc
  have h := hx c hc
  rw [GoM.bind_apply]
  generalize x c = r at h ⊢
  rcases r with ⟨_ | a, c'⟩
  · exact h
  · exact hf a c' h

theorem Hoare.pure (a : α) (h : ∀ c, P c → Q a c) : Hoare P (pure a : GoM α) Q E :=
  fun c hc => h c hc

theorem Hoare.pre {S : Conf → Prop} {x : GoM α} (h : ∀ c, P c → S c) (hx : Hoare S x Q E) :
    Hoare P x Q E :=
  fun c hc => hx c (h c hc)

theorem Hoare.fix {β : Type} {x : GoM α} (f : Conf → β)
    (h : ∀ b, Hoare (fun c => P c ∧ f c = b) x Q E) : Hoare P x Q E :=
  fun c hc => h (f c) c ⟨hc, rfl⟩

theorem Hoare.pull {A : Prop} {x : GoM α} (h : A → Hoare P x Q E) :
    Hoare (fun c => P c ∧ A) x Q E :=
  fun c hc => h hc.2 c hc.1

theorem Hoare.mono {Q' : α → Conf → Prop} {E' : GoErr → Conf → Prop} {x : GoM α}
    (hx : Hoare P x Q E) (hQ : ∀ a c, Q a c → Q' a c) (hE : ∀ e c, E e c → E' e c) :
    Hoare P x Q' E' :=
  fun c hc => (hx c hc).mono hQ hE

theorem Hoare.throwErr {e : GoErr} (h : ∀ c, P c → E e c) : Hoare P (throwErr e : GoM α) Q E :=
  fun c hc => h c hc

theorem Hoare.attempt {x : GoM α} {Q : Except GoErr α → Conf → Prop}
    (h : Hoare P x (fun a => Q (.ok a)) fun e => Q (.error e)) : Hoare P (attempt x) Q E := by
  intro c hc
  have h := h c hc
  rw [attempt_apply]
  generalize x c = r at h ⊢
  rcases r with ⟨_ | _, _⟩ <;> exact h

theorem Guards.pure (a : α) : Guards P E (pure a : GoM α) := fun _ h => h

theorem Guards.bind {x : GoM α} {f : α → GoM β} (hx : Guards P E x)
    (hf : ∀ a, Guards P E (f a)) : Guards P E (x >>= f) :=
  Hoare.bind hx hf

theorem Guards.getS : Guards P E getS := fun _ h => h

theorem Hoare.getS_bind {Q : β → Conf → Prop} {f : Session → GoM β} {R : Session → Prop}
    (hR : ∀ c, P c → R c.s) (h : ∀ s, R s → Hoare P (f s) Q E) : Hoare P (getS >>= f) Q E :=
  fun c hc => h c.s (hR c hc) c hc

theorem Guards.throwErr {e : GoErr} (h : ∀ c, P c → E e c) : Guards P E (throwErr e : GoM α) :=
  fun c hc => h c hc

theorem Guards.modifyS {f : Session → Session} (h : ∀ c, P c → P { c with s := f c.s }) :
    Guards P E (modifyS f) := fun c hc => h c hc

theorem Guards.updateS {f : Session → Session × α} (h : ∀ c, P c → P { c with s := (f c.s).1 }) :
    Guards P E (updateS f) := fun c hc => h c hc

theorem Guards.logEvent {e : Event} (h : ∀ c, P c → P { c with log := c.log ++ [e] }) :
    Guards P E (logEvent e) := fun c hc => h c hc

/-- writeResponse changes the queue, output, close count and log, nothing else. -/
theorem Hoare.writeResponse_framed {r : String}
    (h : ∀ c q o w n, P c →
      R { c with s := { c.s with responseQueue := q }, out := o, writeFailed := w, closes := n,
                 log := c.log ++ [.reply r] }) :
    Hoare P (writeResponse r) (fun _ => R) (fun _ => R) := by
  intro c hc
  obtain ⟨q, o, w, n, he⟩ := writeResponse_frame r c
  generalize writeResponse r c = x at he
  rcases x with ⟨_ | _, c'⟩ <;> (cases he; exact h _ _ _ _ _ hc)

theorem Guards.writeResponse_framed {r : String}
    (h : ∀ c q o w n, P c →
      P { c with s := { c.s with responseQueue := q }, out := o, writeFailed := w, closes := n,
                 log := c.log ++ [.reply r] }) :
    Guards P (fun _ => P) (writeResponse r) :=
  Hoare.writeResponse_framed h

/-- flushResponses changes the queue, output and failed-Write flag, nothing else. -/
theorem Guards.flushResponses_framed
    (h : ∀ c q o w, P c →
      P { c with s := { c.s with responseQueue := q }, out := o, writeFailed := w }) :
    Guards P (fun _ => P) flushResponses := by
  intro c hc
  rw [flushResponses_eq]
  split_ifs
  · exact hc
  · exact h _ _ _ _ hc
  · exact h c c.s.responseQueue c.out true hc

theorem Hoare.writeResponse_non421 {r : String} (h4 : isResponse421 r = false)
    (h : ∀ c q o w n, P c →
      R { c with s := { c.s with responseQueue := q }, out := o, writeFailed := w, closes := n,
                 log := c.log ++ [.reply r] }) :
    Hoare P (writeResponse r) (fun _ => R) (fun _ c => R c ∧ c.writeFailed = true) := by
  intro c hc
  have hR := Hoare.writeResponse_framed h c hc
  rw [writeResponse_eq] at hR ⊢
  simp only [h4, Bool.false_eq_true, if_false, and_true] at hR ⊢
  split_ifs at hR ⊢
  all_goals first | exact hR | exact ⟨hR, rfl⟩

theorem Hoare.flushResponses_write
    (h : ∀ c q o, P c → P { c with s := { c.s with responseQueue := q }, out := o })
    (hw : ∀ c, P c → R { c with writeFailed := true }) :
    Hoare P flushResponses (fun _ => P) (fun _ c => R c ∧ c.writeFailed = true) := by
  intro c hc
  rw [flushResponses_eq]
  split_ifs
  · exact hc
  · exact h _ _ _ hc
  · exact ⟨hw c hc, rfl⟩

theorem Hoare.snd {x : GoM α} (h : Hoare P x (fun _ => R) fun _ => R) {c : Conf} (hc : P c) :
    R (x c).2 := by
  have h := h c hc
  generalize x c = r at h
  rcases r with ⟨_ | _, _⟩ <;> exact h

theorem Guards.snd {x : GoM α} (h : Guards P (fun _ => P) x) {c : Conf} (hc : P c) :
    P (x c).2 :=
  Hoare.snd h hc

theorem Guards.attempt {x : GoM α} (h : Guards P (fun _ => P) x) : Guards P E (attempt x) :=
  Hoare.attempt h

end

end BadSmtp.Server
