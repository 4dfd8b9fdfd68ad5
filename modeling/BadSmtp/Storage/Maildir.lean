import BadSmtp.Go.Text
import BadSmtp.Go.Filepath

/-! Maildir delivery and deletion of mailbox.go: the file name SaveMessage renames a message
to in new/, and the Rel-based path check DeleteMessage makes before it removes a file. -/
namespace BadSmtp.Storage
open BadSmtp.Go

/-- time.Time: Unix seconds and the nanoseconds within the second. -/
structure Time where
  sec : Int
  nsec : Nat
  nsec_lt : nsec < 1000000000

def Time.unix (t : Time) : Int := t.sec

def Time.unixMicro (t : Time) : Int := wrapInt64 (t.sec * 1000000 + t.nsec / 1000)

/-- generateMailFilename: the counter's new value and the name %d.%d_%d_%d.%s. -/
def generateMailFilename (now : Time) (counter : Int) (hostname : List Char) (pid : Int) :
    Int × List Char :=
  let c := wrapInt64 (counter + 1)
  let unique := formatInt now.unixMicro ++ '_' :: formatInt pid ++ '_' :: formatInt c
  (c, formatInt now.unix ++ '.' :: unique ++ '.' :: hostname)

/-- The path SaveMessage renames the message to: Join(Directory, "new", filename). -/
def newPath (directory filename : List Char) : List Char := join [directory, "new".data, filename]

theorem append_sep_cancel {sep : Char} {a a' b b' : List Char} (ha : sep ∉ a) (ha' : sep ∉ a')
    (h : a ++ sep :: b = a' ++ sep :: b') : a = a' ∧ b = b' := by
  induction a generalizing a' with
  | nil =>
    cases a' with
    | nil => exact ⟨rfl, List.cons.inj h |>.2⟩
    | cons x a' => exact absurd ((List.cons.inj h).1 ▸ List.mem_cons_self x a') ha'
  | cons x a ih =>
    cases a' with
    | nil => exact absurd ((List.cons.inj h).1 ▸ List.mem_cons_self x a) ha
    | cons y a' =>
      rw [List.cons_append, List.cons_append] at h
      obtain ⟨rfl, h'⟩ := List.cons.inj h
      obtain ⟨rfl, rfl⟩ := ih (fun h' => ha (List.mem_cons_of_mem x h'))
        (fun h' => ha' (List.mem_cons_of_mem x h')) h'
      exact ⟨rfl, rfl⟩

theorem not_mem_formatInt {c : Char} (hd : isDigit c = false) (hm : c ≠ '-') (x : Int) :
    c ∉ formatInt x := fun h => by
  rcases formatInt_chars x c h with h' | h'
  · rw [hd] at h'; cases h'
  · exact hm h'

theorem counter_of_mailFilename {now now' : Time} {counter counter' pid pid' : Int}
    {hostname hostname' : List Char}
    (h : (generateMailFilename now counter hostname pid).2 =
      (generateMailFilename now' counter' hostname' pid').2) :
    (generateMailFilename now counter hostname pid).1 =
      (generateMailFilename now' counter' hostname' pid').1 := by
  have hdot := not_mem_formatInt (c := '.') (by decide) (by decide)
  have hund := not_mem_formatInt (c := '_') (by decide) (by decide)
  simp only [generateMailFilename, List.append_assoc, List.cons_append] at h ⊢
  obtain ⟨-, h⟩ := append_sep_cancel (hdot _) (hdot _) h
  obtain ⟨-, h⟩ := append_sep_cancel (hund _) (hund _) h
  obtain ⟨-, h⟩ := append_sep_cancel (hund _) (hund _) h
  exact formatInt_injective (append_sep_cancel (hdot _) (hdot _) h).1

theorem mailFilename_isName (now : Time) (counter pid : Int) {hostname : List Char}
    (hh : '/' ∉ hostname) : IsName (generateMailFilename now counter hostname pid).2 := by
  have hsl := not_mem_formatInt (c := '/') (by decide) (by decide)
  have hu : '_' ∈ (generateMailFilename now counter hostname pid).2 := by
    simp [generateMailFilename]
  refine ⟨fun h => by simp [h] at hu, fun h => by simp [h] at hu, fun h => by simp [h] at hu, ?_⟩
  simp [generateMailFilename, hsl, hh]

/-- Different counter values give different names, and different paths of new/. -/
theorem delivered_names_distinct (directory : List Char) (now now' : Time)
    (counter counter' : Int) (hostname hostname' : List Char) (pid pid' : Int)
    (h : (generateMailFilename now counter hostname pid).1 ≠
      (generateMailFilename now' counter' hostname' pid').1) :
    (generateMailFilename now counter hostname pid).2 ≠
        (generateMailFilename now' counter' hostname' pid').2 ∧
      ('/' ∉ hostname → '/' ∉ hostname' →
        newPath directory (generateMailFilename now counter hostname pid).2 ≠
          newPath directory (generateMailFilename now' counter' hostname' pid').2) := by
  have hn := fun he => h (counter_of_mailFilename he)
  exact ⟨hn, fun hh hh' hp => hn (join_name_injective (by decide) (mailFilename_isName _ _ _ hh)
    (mailFilename_isName _ _ _ hh') hp)⟩

def Time.epoch : Time := ⟨0, 0, by decide⟩

theorem consecutive_deliveries_distinct :
    (generateMailFilename .epoch 0 "h".data 1).1 ≠ (generateMailFilename .epoch 1 "h".data 1).1 ∧
      ((generateMailFilename .epoch 0 "h".data 1).2 ≠ (generateMailFilename .epoch 1 "h".data 1).2 ∧
        ('/' ∉ "h".data → '/' ∉ "h".data →
          newPath "/mail".data (generateMailFilename .epoch 0 "h".data 1).2 ≠
            newPath "/mail".data (generateMailFilename .epoch 1 "h".data 1).2)) :=
  have h : (generateMailFilename .epoch 0 "h".data 1).1 ≠
      (generateMailFilename .epoch 1 "h".data 1).1 := by decide
  ⟨h, delivered_names_distinct _ _ _ _ _ _ _ _ _ h⟩

/-- With the hostname x/../y every delivery is renamed onto new/y. -/
theorem dotdot_hostname_deliveries_collide (directory : List Char) (now : Time) (counter pid : Int)
    {x y : List Char} (hx : '/' ∉ x) :
    newPath directory (generateMailFilename now counter (x ++ "/../".data ++ y) pid).2 =
      newPath directory y := by
  have hn : (generateMailFilename now counter (x ++ "/../".data ++ y) pid).2 =
      (generateMailFilename now counter x pid).2 ++ '/' :: '.' :: '.' :: '/' :: y := by
    simp [generateMailFilename]
  have hs : "new".data ≠ [] := by decide
  rw [newPath, newPath, hn, join_sub _ hs, join_sub _ hs,
    clean_name_dotdot _ _ (mailFilename_isName now counter pid hx)]

theorem dotdot_hostname_collides_at_x :
    '/' ∉ "x".data ∧
      newPath "/mail".data (generateMailFilename .epoch 0 ("x".data ++ "/../".data ++ "y".data) 1).2 =
        newPath "/mail".data "y".data :=
  ⟨by decide, dotdot_hostname_deliveries_collide _ _ _ _ (by decide)⟩

theorem dotdot_hostname_same_target :
    (generateMailFilename .epoch 0 "x/../y".data 1).1 ≠
        (generateMailFilename .epoch 1 "x/../y".data 1).1 ∧
      newPath "/mail".data (generateMailFilename .epoch 0 "x/../y".data 1).2 = "/mail/new/y".data ∧
      newPath "/mail".data (generateMailFilename .epoch 1 "x/../y".data 1).2 = "/mail/new/y".data := by
  decide

/-- validatePathWithinDir: none when the target is within the base, else the error. -/
def validatePathWithinDir (baseDir targetPath : List Char) : Option String :=
  let cleanTarget := clean targetPath
  let cleanBase := clean baseDir
  match rel cleanBase cleanTarget with
  | none => some "invalid file path: path traversal detected"
  | some relPath =>
    if ['.', '.'].isPrefixOf relPath || isAbs relPath then
      some "invalid file path: path traversal detected"
    else none

inductive RemoveResult
  | removed
  | notExist
  | failed (err : String)

/-- DeleteMessage over the subdirectories left to try; `remove` answers os.Remove. -/
def deleteMessageIn (directory filename : List Char) (remove : List Char → RemoveResult) :
    List String → Option String × Option (List Char)
  | [] => (some ("message not found: " ++ String.mk filename), none)
  | subdir :: rest =>
    let fullPath := join [directory, subdir.data, filename]
    match validatePathWithinDir directory fullPath with
    | some _ => (some "invalid file path: path traversal detected", none)
    | none =>
      match remove fullPath with
      | .removed => (none, some fullPath)
      | .notExist => deleteMessageIn directory filename remove rest
      | .failed err => (some ("failed to delete message: " ++ err), none)

def deleteMessage (directory filename : List Char) (remove : List Char → RemoveResult) :
    Option String × Option (List Char) :=
  deleteMessageIn directory filename remove ["new", "cur"]

theorem validatePathWithinDir_beneath {baseDir targetPath : List Char}
    (h : validatePathWithinDir baseDir targetPath = none) :
    Beneath (clean baseDir) (clean targetPath) := by
  unfold validatePathWithinDir at h
  dsimp only at h
  split at h
  · cases h
  rename_i relPath hr
  split_ifs at h with hp
  simp only [Bool.or_eq_true, not_or, Bool.not_eq_true, List.isPrefixOf_iff_prefix] at hp
  have := rel_beneath hr (by simpa using hp.1)
  rwa [clean_clean, clean_clean] at this

theorem deleteMessageIn_beneath {directory filename : List Char}
    {remove : List Char → RemoveResult} {subdirs : List String} {p : List Char}
    (h : (deleteMessageIn directory filename remove subdirs).2 = some p) :
    Beneath (clean directory) (clean p) := by
  induction subdirs with
  | nil => cases h
  | cons subdir rest ih =>
    unfold deleteMessageIn at h
    dsimp only at h
    split at h
    · cases h
    · rename_i hv
      split at h
      · cases h; exact validatePathWithinDir_beneath hv
      · exact ih h
      · cases h

/-- validatePathWithinDir accepts only targets lexically beneath the base. -/
theorem validated_paths_beneath :
    (∀ baseDir targetPath, validatePathWithinDir baseDir targetPath = none →
      Beneath (clean baseDir) (clean targetPath)) ∧
    ∀ directory filename remove p, (deleteMessage directory filename remove).2 = some p →
      Beneath (clean directory) (clean p) :=
  ⟨fun _ _ => validatePathWithinDir_beneath, fun _ _ _ _ => deleteMessageIn_beneath⟩

theorem mailbox_path_validated :
    validatePathWithinDir "/var/mail".data "/var/mail/new/m1".data = none ∧
      Beneath (clean "/var/mail".data) (clean "/var/mail/new/m1".data) :=
  have h : validatePathWithinDir "/var/mail".data "/var/mail/new/m1".data = none := by decide
  ⟨h, validated_paths_beneath.1 _ _ h⟩

theorem relative_target_of_dot_base :
    validatePathWithinDir ".".data "foo".data = none ∧ clean "foo".data ≠ clean ".".data ∧
      (clean ".".data ++ ['/']).isPrefixOf (clean "foo".data) = false := by
  decide

end BadSmtp.Storage
