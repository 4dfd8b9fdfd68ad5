import Mathlib.Algebra.Group.Int
import Mathlib.Data.List.Basic

/-! The functions of Go's strings and strconv packages that the session calls, over the bytes
of a string (one `Char` a byte). White space and case mapping are the ASCII ones: Go's Unicode
spaces and the case mappings of non-ASCII letters are not modelled. -/
namespace BadSmtp.Go

/-- The ASCII white space of TrimSpace and Fields; Unicode's other spaces are left out. -/
def isSpace (c : Char) : Bool :=
  c = ' ' || c = '\t' || c = '\n' || c = '\r' || c = '\x0b' || c = '\x0c'

def isDigit (c : Char) : Bool := '0' ≤ c && c ≤ '9'

def isLowerAscii (c : Char) : Bool := 'a' ≤ c && c ≤ 'z'

def upper (c : Char) : Char := if 'a' ≤ c ∧ c ≤ 'z' then Char.ofNat (c.toNat - 32) else c

def lower (c : Char) : Char := if 'A' ≤ c ∧ c ≤ 'Z' then Char.ofNat (c.toNat + 32) else c

/-- strings.ToUpper on ASCII letters; other bytes are kept. -/
def toUpper (s : String) : String := ⟨s.data.map upper⟩

/-- strings.ToLower on ASCII letters; other bytes are kept. -/
def toLower (s : String) : String := ⟨s.data.map lower⟩

/-- strings.EqualFold with ASCII case folding. -/
def equalFold (s t : String) : Bool := toLower s == toLower t

theorem char_le_iff {a b : Char} : a ≤ b ↔ a.toNat ≤ b.toNat := Iff.rfl

theorem lower_eq_self {c : Char} (h : ¬('A' ≤ c ∧ c ≤ 'Z')) : lower c = c := if_neg h

theorem lower_of_isDigit {c : Char} (h : isDigit c = true) : lower c = c := by
  simp only [isDigit, Bool.and_eq_true, decide_eq_true_eq, char_le_iff] at h
  exact lower_eq_self fun h' => by simp only [char_le_iff] at h'; simp at h h'; omega

theorem isLowerAscii_of_isDigit {c : Char} (h : isDigit c = true) : isLowerAscii c = false := by
  simp only [isDigit, Bool.and_eq_true, decide_eq_true_eq, char_le_iff] at h
  simp only [isLowerAscii, Bool.and_eq_false_iff, decide_eq_false_iff_not, char_le_iff]
  simp at h ⊢; omega

def trimSpace (s : List Char) : List Char :=
  ((s.dropWhile isSpace).reverse.dropWhile isSpace).reverse

def fieldsAux : List Char → List Char → List (List Char)
  | [], w => if w = [] then [] else [w.reverse]
  | c :: cs, w =>
    if isSpace c then (if w = [] then fieldsAux cs [] else w.reverse :: fieldsAux cs [])
    else fieldsAux cs (c :: w)

def fields (s : List Char) : List (List Char) := fieldsAux s []

def contains (s sub : List Char) : Bool :=
  match s with
  | [] => sub.isEmpty
  | c :: cs => sub.isPrefixOf (c :: cs) || contains cs sub

def trim (s cutset : List Char) : List Char :=
  ((s.dropWhile (· ∈ cutset)).reverse.dropWhile (· ∈ cutset)).reverse

def index (s : List Char) (c : Char) : Option Nat := s.findIdx? (· = c)

def lastIndex (s : List Char) (c : Char) : Option Nat :=
  (s.reverse.findIdx? (· = c)).map fun i => s.length - 1 - i

def splitN (s : List Char) (c : Char) : Nat → List (List Char)
  | 0 | 1 => [s]
  | n + 2 =>
    match index s c with
    | none => [s]
    | some i => s.take i :: splitN (s.drop (i + 1)) c (n + 1)

def digitsValue (ds : List Char) : Nat := ds.foldl (fun n d => 10 * n + (d.toNat - '0'.toNat)) 0

/-- strconv.Atoi on a 64-bit platform: an optional sign and digits, within int64. -/
def atoi (s : List Char) : Option Int :=
  let (neg, ds) : Bool × List Char :=
    match s with
    | '-' :: t => (true, t)
    | '+' :: t => (false, t)
    | t => (false, t)
  if ds = [] ∨ ds.any (fun d => !isDigit d) then none
  else
    let v : Int := if neg then -(digitsValue ds : Int) else digitsValue ds
    if -2 ^ 63 ≤ v ∧ v < 2 ^ 63 then some v else none

/-- A sum in Go's 64-bit int: the value wrapped into [-2^63, 2^63). -/
def wrapInt64 (x : Int) : Int := (x + 2 ^ 63) % 2 ^ 64 - 2 ^ 63

theorem wrapInt64_of_lt {x : Int} (h0 : 0 ≤ x) (h : x < 2 ^ 63) : wrapInt64 x = x := by
  unfold wrapInt64
  rw [Int.emod_eq_of_lt (by omega) (by omega)]
  omega

/-- fmt's %d of an int: '-' for a negative value, then the digits of its magnitude. -/
def formatInt (x : Int) : List Char :=
  (if x < 0 then ['-'] else []) ++ Nat.toDigits 10 x.natAbs

theorem digitChar_spec : ∀ k < 10, isDigit (Nat.digitChar k) = true ∧
    (Nat.digitChar k).toNat - '0'.toNat = k := by decide

theorem digitsValue_append_single (l : List Char) (d : Char) :
    digitsValue (l ++ [d]) = 10 * digitsValue l + (d.toNat - '0'.toNat) := by
  simp [digitsValue, List.foldl_append]

theorem toDigitsCore_succ (fuel n : Nat) (ds : List Char) :
    Nat.toDigitsCore 10 (fuel + 1) n ds =
      if n / 10 = 0 then Nat.digitChar (n % 10) :: ds
      else Nat.toDigitsCore 10 fuel (n / 10) (Nat.digitChar (n % 10) :: ds) := rfl

theorem toDigitsCore_spec (fuel n : Nat) (ds : List Char) (h : n < fuel) :
    ∃ pre, Nat.toDigitsCore 10 fuel n ds = pre ++ ds ∧ pre ≠ [] ∧
      (∀ c ∈ pre, isDigit c = true) ∧ digitsValue pre = n := by
  induction fuel generalizing n ds with
  | zero => omega
  | succ f ih =>
    have hd := digitChar_spec (n % 10) (Nat.mod_lt _ (by decide))
    rw [toDigitsCore_succ]
    split
    · refine ⟨[Nat.digitChar (n % 10)], rfl, by simp, by simpa using hd.1, ?_⟩
      simp only [digitsValue, List.foldl_cons, List.foldl_nil]
      rw [hd.2]
      omega
    · obtain ⟨pre, h1, h2, h3, h4⟩ := ih (n / 10) (Nat.digitChar (n % 10) :: ds) (by omega)
      refine ⟨pre ++ [Nat.digitChar (n % 10)], by simp [h1], by simp, ?_, ?_⟩
      · exact fun c hc => (List.mem_append.1 hc).elim (h3 c)
          fun h => List.mem_singleton.1 h ▸ hd.1
      · rw [digitsValue_append_single, h4, hd.2]; omega

theorem toDigits_spec (n : Nat) : Nat.toDigits 10 n ≠ [] ∧ (∀ c ∈ Nat.toDigits 10 n, isDigit c = true) ∧
    digitsValue (Nat.toDigits 10 n) = n := by
  obtain ⟨pre, h1, h2, h3, h4⟩ := toDigitsCore_spec (n + 1) n [] (by omega)
  simp only [List.append_nil] at h1
  unfold Nat.toDigits; rw [h1]
  exact ⟨h2, h3, h4⟩

theorem isSpace_of_isDigit {ch : Char} (h : isDigit ch = true) : isSpace ch = false := by
  simp only [isDigit, Bool.and_eq_true, decide_eq_true_eq, char_le_iff] at h
  simp only [isSpace, Bool.or_eq_false_iff, decide_eq_false_iff_not]
  refine ⟨⟨⟨⟨⟨?_, ?_⟩, ?_⟩, ?_⟩, ?_⟩, ?_⟩ <;> rintro rfl <;> simp at h

theorem atoi_toDigits {n : Nat} (h : n < 2 ^ 63) : atoi (Nat.toDigits 10 n) = some (n : Int) := by
  obtain ⟨hne, hdig, hval⟩ := toDigits_spec n
  obtain ⟨d, t, hdt⟩ := List.exists_cons_of_ne_nil hne
  have hd := hdig d (hdt ▸ List.mem_cons_self d t)
  have hm : d ≠ '-' ∧ d ≠ '+' := by
    constructor <;> rintro rfl <;> simp [isDigit] at hd
  have hall : (Nat.toDigits 10 n).any (fun d => !isDigit d) = false := by
    simpa using hdig
  unfold atoi
  rw [hdt]
  split
  rename_i neg ds hsplit
  split at hsplit
  · rename_i heq
    exact absurd (List.cons.inj heq).1 hm.1
  · rename_i heq
    exact absurd (List.cons.inj heq).1 hm.2
  · obtain ⟨rfl, rfl⟩ := Prod.mk.inj hsplit
    rw [← hdt, if_neg (by simp [hne, hall])]
    simp only [hval, Bool.false_eq_true, if_false]
    exact if_pos ⟨by omega, by exact_mod_cast h⟩

theorem formatInt_injective {x y : Int} (h : formatInt x = formatInt y) : x = y := by
  have hx := toDigits_spec x.natAbs
  have hy := toDigits_spec y.natAbs
  have hm : ¬ isDigit '-' = true := by decide
  unfold formatInt at h
  split_ifs at h with h1 h2 h2
  · have := congrArg digitsValue (List.append_cancel_left h)
    rw [hx.2.2, hy.2.2] at this; omega
  · obtain ⟨c, l, hc⟩ := List.exists_cons_of_ne_nil hy.1
    rw [List.singleton_append, hc] at h
    have := hy.2.1 c (hc ▸ List.mem_cons_self c l)
    rw [← (List.cons.inj h).1] at this; exact absurd this hm
  · obtain ⟨c, l, hc⟩ := List.exists_cons_of_ne_nil hx.1
    rw [List.singleton_append, hc] at h
    have := hx.2.1 c (hc ▸ List.mem_cons_self c l)
    rw [(List.cons.inj h).1] at this; exact absurd this hm
  · have := congrArg digitsValue h
    simp only [List.nil_append] at this
    rw [hx.2.2, hy.2.2] at this; omega

theorem formatInt_chars (x : Int) : ∀ c ∈ formatInt x, isDigit c = true ∨ c = '-' := by
  intro c hc
  unfold formatInt at hc
  rcases List.mem_append.1 hc with h | h
  · split_ifs at h <;> simp_all
  · exact .inl ((toDigits_spec _).2.1 c h)

theorem toString_data_eq_formatInt (x : Int) : (toString x).data = formatInt x := by
  cases x with
  | ofNat n => rfl
  | negSucc n => simp only [formatInt, Int.negSucc_lt_zero, if_true]; rfl

theorem not_prefix_digits_space {p l rest : List Char} (hp : ' ' ∉ p) {c : Char} (hc : c ∈ p)
    (hcd : isDigit c = false) (hl : ∀ x ∈ l, isDigit x = true) : ¬p <+: l ++ ' ' :: rest := by
  intro h
  have h2 : l ++ [' '] <+: l ++ ' ' :: rest := (List.prefix_append_right_inj l).2 (by simp)
  rcases List.prefix_or_prefix_of_prefix h h2 with h3 | h3
  · rcases List.mem_append.1 (h3.subset hc) with h4 | h4
    · rw [hl c h4] at hcd; cases hcd
    · exact hp (List.mem_singleton.1 h4 ▸ hc)
  · exact hp (h3.subset (List.mem_append_right l (List.mem_singleton_self ' ')))

theorem dropWhile_isSpace_of_head {s : List Char}
    (h : ∀ c, s.head? = some c → isSpace c = false) : s.dropWhile isSpace = s := by
  cases s with
  | nil => rfl
  | cons x xs => exact List.dropWhile_cons_of_neg (by simp [h x rfl])

theorem trimSpace_of_ends {s : List Char} (hh : ∀ c, s.head? = some c → isSpace c = false)
    (hl : ∀ c, s.getLast? = some c → isSpace c = false) : trimSpace s = s := by
  rw [trimSpace, dropWhile_isSpace_of_head hh,
    dropWhile_isSpace_of_head (by rwa [List.head?_reverse]), List.reverse_reverse]

theorem fieldsAux_append {w l acc : List Char} (hw : ∀ c ∈ w, isSpace c = false) :
    fieldsAux (w ++ l) acc = fieldsAux l (w.reverse ++ acc) := by
  induction w generalizing acc with
  | nil => rfl
  | cons x xs ih =>
    rw [List.cons_append, fieldsAux, if_neg (by simp [hw x (List.mem_cons_self x xs)]),
      ih fun c hc => hw c (List.mem_cons_of_mem x hc)]
    simp

theorem fields_append_space {w rest : List Char} (hne : w ≠ [])
    (hw : ∀ c ∈ w, isSpace c = false) : fields (w ++ ' ' :: rest) = w :: fields rest := by
  rw [fields, fieldsAux_append hw, List.append_nil, fieldsAux, if_pos (by decide),
    if_neg (by simpa using hne), List.reverse_reverse]
  rfl

theorem fields_word {w : List Char} (hne : w ≠ []) (hw : ∀ c ∈ w, isSpace c = false) :
    fields w = [w] := by
  have h := @fieldsAux_append w [] [] hw
  rw [List.append_nil] at h
  rw [fields, h, fieldsAux, if_neg (by simpa using hne), List.append_nil, List.reverse_reverse]

theorem index_append_cons {l r : List Char} {c : Char} (h : c ∉ l) :
    index (l ++ c :: r) c = some l.length := by
  induction l with
  | nil => simp [index, List.findIdx?_cons]
  | cons x xs ih =>
    have hx : x ≠ c := fun e => h (e ▸ List.mem_cons_self x xs)
    have := ih (fun hm => h (List.mem_cons_of_mem x hm))
    simp only [index] at this ⊢
    simp [List.findIdx?_cons, hx, this]

example : atoi "+42".data = some 42 ∧ atoi "-0".data = some 0 ∧ atoi "4 2".data = none := by
  decide

example : splitN "a@b@c".data '@' 2 = ["a".data, "b@c".data] := by decide

end BadSmtp.Go
