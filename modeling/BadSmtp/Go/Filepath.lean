import Mathlib.Data.List.Basic

/-! The lexical path functions of path/filepath on Unix that the mailbox calls: Clean, Join,
Rel and IsAbs. Clean is written element by element, so facts about cleaned paths are read off
their list of elements. -/
namespace BadSmtp.Go

def cleanStep (rooted : Bool) (kept : List (List Char)) (e : List Char) : List (List Char) :=
  if e = [] ∨ e = ['.'] then kept
  else if e = ['.', '.'] then
    match kept with
    | k :: rest => if k = ['.', '.'] then e :: kept else rest
    | [] => if rooted then [] else [e]
  else e :: kept

def cleanKept (rooted : Bool) (path : List Char) : List (List Char) :=
  (path.splitOn '/').foldl (cleanStep rooted) []

/-- filepath.Clean: the kept elements joined by separators, rooted as the path was. -/
def clean (path : List Char) : List Char :=
  if path = [] then ['.']
  else
    let rooted := path.head? = some '/'
    let out := ['/'].intercalate (cleanKept rooted path).reverse
    if rooted then '/' :: out else if out = [] then ['.'] else out

/-- filepath.Join: Clean of the non-empty elements joined by separators. -/
def join (elem : List (List Char)) : List Char :=
  match elem.dropWhile (· = []) with
  | [] => []
  | es => clean (['/'].intercalate es)

def isAbs (path : List Char) : Bool := path.head? = some '/'

def relWalk : List (List Char) → List (List Char) → List (List Char) × List (List Char)
  | b :: bs, t :: ts => if b = t then relWalk bs ts else (b :: bs, t :: ts)
  | bs, ts => (bs, ts)

/-- filepath.Rel on the cleaned paths; none where Go returns an error. -/
def rel (basepath targpath : List Char) : Option (List Char) :=
  let base := clean basepath
  let targ := clean targpath
  if targ = base then some ['.']
  else
    let base := if base = ['.'] then [] else base
    if (base.head? = some '/') ≠ (targ.head? = some '/') then none
    else
      let (bs, ts) := relWalk (base.splitOn '/') (targ.splitOn '/')
      let b := ['/'].intercalate bs
      let t := ['/'].intercalate ts
      if bs.headD [] = ['.', '.'] then none
      else if b ≠ [] then
        some (['.', '.'] ++ (List.replicate (b.count '/') ['/', '.', '.']).flatten ++
          if t ≠ [] then '/' :: t else [])
      else some t

theorem splitOn_sep_cons (l : List Char) : ('/' :: l).splitOn '/' = [] :: l.splitOn '/' := by
  simp [List.splitOn]

theorem splitOn_cons_of_ne {c : Char} (hc : c ≠ '/') (l : List Char) :
    (c :: l).splitOn '/' = (l.splitOn '/').modifyHead (c :: ·) := by
  simp [List.splitOn, hc]

theorem splitOn_append_sep (a b : List Char) :
    (a ++ '/' :: b).splitOn '/' = a.splitOn '/' ++ b.splitOn '/' := by
  induction a with
  | nil => simp [splitOn_sep_cons]
  | cons c a ih =>
    by_cases hc : c = '/'
    · subst hc; simp [splitOn_sep_cons, ih]
    · rw [List.cons_append, splitOn_cons_of_ne hc, splitOn_cons_of_ne hc, ih]
      obtain ⟨x, xs, hx⟩ := List.exists_cons_of_ne_nil (List.splitOnP_ne_nil (· == '/') a)
      simp only [List.splitOn] at *
      rw [hx]; rfl

theorem sep_not_mem_of_mem_splitOn {l e : List Char} (h : e ∈ l.splitOn '/') : '/' ∉ e := by
  induction l generalizing e with
  | nil => simp_all
  | cons c l ih =>
    by_cases hc : c = '/'
    · subst hc
      rw [splitOn_sep_cons, List.mem_cons] at h
      rcases h with rfl | h
      · simp
      · exact ih h
    · rw [splitOn_cons_of_ne hc] at h
      obtain ⟨x, xs, hx⟩ := List.exists_cons_of_ne_nil (List.splitOnP_ne_nil (· == '/') l)
      have hx' : l.splitOn '/' = x :: xs := hx
      rw [hx', List.modifyHead_cons, List.mem_cons] at h
      rcases h with rfl | h
      · simpa [Ne.symm hc] using ih (hx' ▸ List.mem_cons_self x xs)
      · exact ih (hx' ▸ List.mem_cons_of_mem x h)

theorem eq_of_splitOn_eq {a b : List Char} (h : a.splitOn '/' = b.splitOn '/') : a = b := by
  rw [← List.intercalate_splitOn a '/', h, List.intercalate_splitOn]

theorem head_of_splitOn_eq_nil_cons {l : List Char} {ts : List (List Char)} (hl : l ≠ [])
    (h : l.splitOn '/' = [] :: ts) : l.head? = some '/' := by
  obtain ⟨c, l', rfl⟩ := List.exists_cons_of_ne_nil hl
  by_cases hc : c = '/'
  · rw [hc]; rfl
  · rw [splitOn_cons_of_ne hc] at h
    obtain ⟨x, xs, hx⟩ := List.exists_cons_of_ne_nil (List.splitOnP_ne_nil (· == '/') l')
    have hx' : l'.splitOn '/' = x :: xs := hx
    rw [hx', List.modifyHead_cons] at h
    cases h

def IsName (e : List Char) : Prop := e ≠ [] ∧ e ≠ ['.'] ∧ e ≠ ['.', '.'] ∧ '/' ∉ e

def Kept (rooted : Bool) (k : List (List Char)) : Prop :=
  ∃ n d, k = n ++ List.replicate d ['.', '.'] ∧ (∀ e ∈ n, IsName e) ∧ (rooted = true → d = 0)

theorem Kept.nil (rooted : Bool) : Kept rooted [] := ⟨[], 0, rfl, by simp, fun _ => rfl⟩

theorem Kept.step {r : Bool} {k : List (List Char)} {e : List Char} (hk : Kept r k)
    (he : '/' ∉ e) : Kept r (cleanStep r k e) := by
  obtain ⟨n, d, rfl, hn, hr⟩ := hk
  by_cases h1 : e = [] ∨ e = ['.']
  · unfold cleanStep
    rw [if_pos h1]
    exact ⟨n, d, rfl, hn, hr⟩
  by_cases h2 : e = ['.', '.']
  · subst h2
    rcases n with _ | ⟨x, n⟩
    · rcases d with _ | d
      · cases r
        · exact ⟨[], 1, rfl, by simp, fun h => nomatch h⟩
        · exact ⟨[], 0, rfl, by simp, fun _ => rfl⟩
      · have hr' : r = false := by cases r <;> simp_all
        exact ⟨[], d + 2, by simp [cleanStep, List.replicate_succ], by simp, by simp [hr']⟩
    · have hx : x ≠ ['.', '.'] := (hn x (List.mem_cons_self x n)).2.2.1
      exact ⟨n, d, by simp [cleanStep, hx], fun e h => hn e (List.mem_cons_of_mem x h), hr⟩
  · refine ⟨e :: n, d, by simp [cleanStep, h1, h2], ?_, hr⟩
    simp only [List.mem_cons, forall_eq_or_imp]
    exact ⟨⟨fun h => h1 (.inl h), fun h => h1 (.inr h), h2, he⟩, hn⟩

theorem kept_cleanKept (rooted : Bool) (path : List Char) : Kept rooted (cleanKept rooted path) := by
  unfold cleanKept
  suffices ∀ (es : List (List Char)) k, (∀ e ∈ es, '/' ∉ e) → Kept rooted k →
      Kept rooted (es.foldl (cleanStep rooted) k)
    from this _ _ (fun _ => sep_not_mem_of_mem_splitOn) (.nil rooted)
  intro es
  induction es with
  | nil => exact fun _ _ hk => hk
  | cons e es ih =>
    intro k hs hk
    exact ih _ (fun x hx => hs x (List.mem_cons_of_mem e hx)) (hk.step (hs e (List.mem_cons_self e es)))

theorem Kept.elem {r : Bool} {k : List (List Char)} (hk : Kept r k) {e : List Char}
    (he : e ∈ k) : e ≠ [] ∧ e ≠ ['.'] ∧ '/' ∉ e := by
  obtain ⟨n, d, rfl, hn, -⟩ := hk
  rcases List.mem_append.1 he with h | h
  · exact ⟨(hn e h).1, (hn e h).2.1, (hn e h).2.2.2⟩
  · rw [List.eq_of_mem_replicate h]; decide

theorem foldl_cleanStep_dotdot {r : Bool} (d m : Nat) (h : r = false ∨ m + d = 0) :
    (List.replicate d ['.', '.']).foldl (cleanStep r) (List.replicate m ['.', '.']) =
      List.replicate (d + m) ['.', '.'] := by
  induction d generalizing m with
  | zero => simp
  | succ d ih =>
    have hs : cleanStep r (List.replicate m ['.', '.']) ['.', '.'] =
        List.replicate (m + 1) ['.', '.'] := by
      rcases m with _ | m <;> simp_all [cleanStep, List.replicate_succ]
    rw [List.replicate_succ, List.foldl_cons, hs, ih (m + 1) (h.imp id fun h => by omega)]
    congr 1
    omega

theorem foldl_cleanStep_kept {r : Bool} {k : List (List Char)} (hk : Kept r k) :
    k.reverse.foldl (cleanStep r) [] = k := by
  obtain ⟨n, d, rfl, hn, hr⟩ := hk
  have hd : (List.replicate d ['.', '.']).foldl (cleanStep r) [] = List.replicate d ['.', '.'] := by
    simpa using foldl_cleanStep_dotdot (r := r) d 0 (by cases r <;> simp_all)
  rw [List.reverse_append, List.reverse_replicate, List.foldl_append, hd, List.foldl_reverse]
  clear hd
  induction n with
  | nil => rfl
  | cons e n ih =>
    have he := hn e (List.mem_cons_self e n)
    rw [List.foldr_cons, ih fun x hx => hn x (List.mem_cons_of_mem e hx)]
    simp [cleanStep, he.1, he.2.1, he.2.2.1]

def render (rooted : Bool) (kept : List (List Char)) : List Char :=
  if rooted then '/' :: ['/'].intercalate kept.reverse
  else if kept = [] then ['.'] else ['/'].intercalate kept.reverse

section
variable {r : Bool} {k : List (List Char)}

theorem splitOn_intercalate_kept (hk : Kept r k) (hne : k ≠ []) :
    (['/'].intercalate k.reverse).splitOn '/' = k.reverse :=
  List.splitOn_intercalate _ '/' (fun e he => (hk.elem (List.mem_reverse.1 he)).2.2)
    (by simpa using hne)

theorem splitOn_render (hk : Kept r k) :
    (render r k).splitOn '/' =
      (if r then [[]] else []) ++ if k = [] then (if r then [[]] else [['.']]) else k.reverse := by
  unfold render
  by_cases hne : k = []
  · subst hne; cases r <;> rfl
  · cases r
    · simp only [Bool.false_eq_true, if_false, hne, List.nil_append]
      exact splitOn_intercalate_kept hk hne
    · simp only [if_true, hne, if_false, List.singleton_append, splitOn_sep_cons,
        splitOn_intercalate_kept hk hne]

theorem intercalate_kept_ne_nil (hk : Kept r k) (hne : k ≠ []) :
    ['/'].intercalate k.reverse ≠ [] := by
  intro h
  have h1 := splitOn_intercalate_kept hk hne
  rw [h, List.splitOn_nil] at h1
  exact (hk.elem (List.mem_reverse.1 (h1 ▸ List.mem_singleton_self []))).1 rfl

theorem render_ne_nil (hk : Kept r k) : render r k ≠ [] := by
  unfold render
  split_ifs with h1 h2
  · exact List.cons_ne_nil _ _
  · exact List.cons_ne_nil _ _
  · exact intercalate_kept_ne_nil hk h2

theorem head_render (hk : Kept r k) : decide ((render r k).head? = some '/') = r := by
  cases r
  · have h := splitOn_render hk
    simp only [Bool.false_eq_true, if_false, List.nil_append] at h
    by_contra hr
    have hr' : (render false k).head? = some '/' := by simpa using hr
    obtain ⟨c, l, hcl⟩ := List.exists_cons_of_ne_nil (render_ne_nil hk (r := false))
    rw [hcl] at hr' h
    cases hr'
    rw [splitOn_sep_cons] at h
    split_ifs at h with hne
    · cases h
    · have := hk.elem (List.mem_reverse.1 (h ▸ List.mem_cons_self _ _ : [] ∈ k.reverse))
      exact this.1 rfl
  · simp [render]

theorem cleanKept_render (hk : Kept r k) : cleanKept r (render r k) = k := by
  unfold cleanKept
  rw [splitOn_render hk]
  by_cases hne : k = []
  · subst hne; cases r <;> decide
  · simp only [hne, if_false]
    cases r
    · exact foldl_cleanStep_kept hk
    · simpa [cleanStep] using foldl_cleanStep_kept hk

end

theorem clean_eq_render {path : List Char} (h : path ≠ []) :
    clean path = render (path.head? = some '/') (cleanKept (path.head? = some '/') path) := by
  have hk := kept_cleanKept (path.head? = some '/') path
  unfold clean render
  simp only [if_neg h]
  by_cases hr : path.head? = some '/'
  · simp [hr]
  · have : (['/'].intercalate (cleanKept false path).reverse = []) ↔ cleanKept false path = [] :=
      ⟨fun h' => by_contra fun hne => intercalate_kept_ne_nil (by simpa [hr] using hk) hne h',
        fun h' => by rw [h']; rfl⟩
    simp [hr, this]

theorem clean_ne_nil (path : List Char) : clean path ≠ [] := by
  by_cases h0 : path = []
  · subst h0; decide
  · rw [clean_eq_render h0]; exact render_ne_nil (kept_cleanKept _ _)

theorem clean_clean (path : List Char) : clean (clean path) = clean path := by
  by_cases h0 : path = []
  · subst h0; decide
  have hk := kept_cleanKept (path.head? = some '/') path
  rw [clean_eq_render h0, clean_eq_render (render_ne_nil hk), head_render hk, cleanKept_render hk]

theorem splitOn_of_sep_not_mem {e : List Char} (h : '/' ∉ e) : e.splitOn '/' = [e] :=
  List.splitOnP_eq_single _ _ fun _ hx hp => h (eq_of_beq hp ▸ hx)

theorem cleanKept_append_name (r : Bool) (q : List Char) {e : List Char} (he : IsName e) :
    cleanKept r (q ++ '/' :: e) = e :: cleanKept r q := by
  unfold cleanKept
  rw [splitOn_append_sep, List.foldl_append, splitOn_of_sep_not_mem he.2.2.2]
  simp [cleanStep, he.1, he.2.1, he.2.2.1]

theorem splitOn_clean_append_name (q : List Char) {e : List Char} (he : IsName e) :
    ∃ pre, (clean (q ++ '/' :: e)).splitOn '/' = pre ++ [e] := by
  have h0 : q ++ '/' :: e ≠ [] := by simp
  set r := decide ((q ++ '/' :: e).head? = some '/')
  have hk := kept_cleanKept r (q ++ '/' :: e)
  rw [clean_eq_render h0, splitOn_render hk, cleanKept_append_name r q he, if_neg (List.cons_ne_nil _ _),
    List.reverse_cons, ← List.append_assoc]
  exact ⟨_, rfl⟩

theorem join_sub (dir : List Char) {sub : List Char} (hsub : sub ≠ []) (x : List Char) :
    join [dir, sub, x] = clean ((if dir = [] then sub else dir ++ '/' :: sub) ++ '/' :: x) := by
  unfold join
  by_cases hd : dir = [] <;> simp [hd, hsub, List.intercalate]

/-- Join of a directory, a subdirectory and a name ends in the name: two names, two paths. -/
theorem join_name_injective {dir sub e e' : List Char} (hsub : sub ≠ []) (he : IsName e)
    (he' : IsName e') (h : join [dir, sub, e] = join [dir, sub, e']) : e = e' := by
  obtain ⟨p, hp⟩ := join_sub dir hsub e ▸ splitOn_clean_append_name _ he
  obtain ⟨p', hp'⟩ := join_sub dir hsub e' ▸ splitOn_clean_append_name _ he'
  rw [h, hp'] at hp
  exact (List.singleton_inj.1 (List.append_inj' hp rfl).2).symm

theorem cleanKept_name_dotdot (r : Bool) (q rest : List Char) {e : List Char} (he : IsName e) :
    cleanKept r (q ++ '/' :: (e ++ '/' :: '.' :: '.' :: '/' :: rest)) =
      cleanKept r (q ++ '/' :: rest) := by
  have hdd : ('.' :: '.' :: '/' :: rest : List Char) = ['.', '.'] ++ '/' :: rest := rfl
  unfold cleanKept
  rw [splitOn_append_sep, splitOn_append_sep, hdd, splitOn_append_sep, splitOn_of_sep_not_mem he.2.2.2,
    splitOn_append_sep, splitOn_of_sep_not_mem (by decide : '/' ∉ ['.', '.'])]
  simp [cleanStep, he.1, he.2.1, he.2.2.1]

theorem clean_name_dotdot (q rest : List Char) {e : List Char} (he : IsName e) :
    clean (q ++ '/' :: (e ++ '/' :: '.' :: '.' :: '/' :: rest)) = clean (q ++ '/' :: rest) := by
  have hh : (q ++ '/' :: (e ++ '/' :: '.' :: '.' :: '/' :: rest)).head? = (q ++ '/' :: rest).head? := by
    cases q <;> rfl
  rw [clean_eq_render (by simp), clean_eq_render (by simp), hh, cleanKept_name_dotdot _ _ _ he]

theorem relWalk_spec (bs ts : List (List Char)) :
    ∃ pre, bs = pre ++ (relWalk bs ts).1 ∧ ts = pre ++ (relWalk bs ts).2 := by
  induction bs generalizing ts with
  | nil => exact ⟨[], by simp [relWalk], by simp [relWalk]⟩
  | cons b bs ih =>
    cases ts with
    | nil => exact ⟨[], rfl, rfl⟩
    | cons t ts =>
      simp only [relWalk]
      split
      · obtain ⟨pre, h1, h2⟩ := ih ts
        exact ⟨b :: pre, congrArg (b :: ·) h1, by rw [‹b = t›]; exact congrArg (t :: ·) h2⟩
      · exact ⟨[], rfl, rfl⟩

theorem intercalate_eq_nil {l : List (List Char)} (h : ['/'].intercalate l = []) :
    l = [] ∨ l = [[]] := by
  rcases l with _ | ⟨a, _ | ⟨b, l⟩⟩
  · exact .inl rfl
  · exact .inr (by simpa [List.intercalate] using h)
  · simp [List.intercalate, List.intersperse_cons_cons] at h

/-- A cleaned path lexically beneath a cleaned base, or the base itself. -/
def Beneath (base targ : List Char) : Prop :=
  targ = base ∨ (base ++ ['/']) <+: targ ∨ (base = ['/'] ∧ targ.head? = some '/') ∨
    (base = ['.'] ∧ targ.head? ≠ some '/' ∧ ¬['.', '.'] <+: targ)

/-- Rel gives a path not starting with ".." only for a target beneath the base. -/
theorem rel_beneath {basepath targpath r : List Char} (h : rel basepath targpath = some r)
    (hr : ¬['.', '.'] <+: r) : Beneath (clean basepath) (clean targpath) := by
  unfold rel at h
  set B := clean basepath with hB
  set T := clean targpath with hT
  by_cases hTB : T = B
  · exact .inl hTB
  rw [if_neg hTB] at h
  set B0 := if B = ['.'] then [] else B with hB0
  dsimp only at h
  obtain ⟨pre, hb, ht⟩ := relWalk_spec (B0.splitOn '/') (T.splitOn '/')
  generalize relWalk (B0.splitOn '/') (T.splitOn '/') = w at h hb ht
  obtain ⟨bs, ts⟩ := w
  dsimp only at h hb ht
  split_ifs at h with hsl hdd hbne
  all_goals cases h
  · exact absurd ((List.prefix_append _ _).trans (List.prefix_append _ _)) hr
  · exact absurd ((List.prefix_append _ _).trans (List.prefix_append _ _)) hr
  have hTne := clean_ne_nil targpath
  have hts : ∀ e ∈ ts, '/' ∉ e := fun e he =>
    sep_not_mem_of_mem_splitOn (ht ▸ List.mem_append_right pre he : e ∈ T.splitOn '/')
  rcases intercalate_eq_nil (not_not.1 hbne) with rfl | rfl
  · -- the whole base is shared: the target is below it
    rw [List.append_nil] at hb
    by_cases hdot : B = ['.']
    · have h0 : B0 = [] := if_pos hdot
      rw [h0, List.splitOn_nil] at hb
      subst hb
      have := head_of_splitOn_eq_nil_cons hTne ht
      simp [h0, this] at hsl
    have h0 : B0 = B := if_neg hdot
    rw [h0] at hb
    by_cases hts0 : ts = []
    · subst hts0
      rw [List.append_nil, ← hb] at ht
      exact absurd (eq_of_splitOn_eq ht) hTB
    · have hT' : T = B ++ '/' :: ['/'].intercalate ts := eq_of_splitOn_eq (by
        rw [splitOn_append_sep, List.splitOn_intercalate _ _ hts hts0, ht, hb])
      exact .inr (.inl (hT' ▸ ⟨['/'].intercalate ts, by simp⟩))
  · -- all but an empty last element is shared
    by_cases hdot : B = ['.']
    · have h0 : B0 = [] := if_pos hdot
      rw [h0, List.splitOn_nil] at hb
      have hpre : pre = [] := by simpa using hb
      subst hpre
      have hTeq : ['/'].intercalate ts = T := by rw [← List.nil_append ts, ← ht, List.intercalate_splitOn]
      refine .inr (.inr (.inr ⟨hdot, fun hT' => ?_, hTeq ▸ hr⟩))
      simp [h0, hT'] at hsl
    have h0 : B0 = B := if_neg hdot
    rw [h0] at hb hsl
    have hbase : basepath ≠ [] := by rintro rfl; exact hdot rfl
    have hk := kept_cleanKept (basepath.head? = some '/') basepath
    have hBr := clean_eq_render hbase
    rw [← hB] at hBr
    rw [hBr, splitOn_render hk] at hb
    generalize cleanKept (basepath.head? = some '/') basepath = k at hk hb hBr
    generalize decide (basepath.head? = some '/') = rt at hk hb hBr
    by_cases hk0 : k = []
    · subst hk0
      cases rt
      · exact absurd hBr hdot
      · refine .inr (.inr (.inl ⟨hBr, ?_⟩))
        have : B.head? = some '/' := by rw [hBr]; rfl
        simpa [this] using hsl
    · obtain ⟨e, k', rfl⟩ := List.exists_cons_of_ne_nil hk0
      rw [if_neg hk0, List.reverse_cons, ← List.append_assoc] at hb
      have := (List.append_inj' hb rfl).2
      exact absurd (List.singleton_inj.1 this) (hk.elem (List.mem_cons_self e k')).1

end BadSmtp.Go
