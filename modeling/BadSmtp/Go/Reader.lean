import BadSmtp.Go.Text

/-! bufio.Reader and textproto.Reader over a socket: a read takes the reader's buffer first,
then every byte that has arrived, and blocks when it needs more unless the client has closed. -/
namespace BadSmtp.Go

inductive GoErr where
  /-- io.EOF -/
  | eof
  /-- io.ErrUnexpectedEOF -/
  | unexpectedEof
  /-- a Read on the connection failed -/
  | read
  /-- a Write on the connection failed -/
  | write
  /-- obtaining the certificate or the TLS handshake failed -/
  | tls
  /-- readMessageContent: "message size exceeds limit of %d bytes" -/
  | tooLarge (max : Int)
  /-- an AUTH mechanism handler's own error -/
  | auth
  deriving DecidableEq, Repr

/-- What a read gives: a value with the buffer and socket left, an error, or nothing yet. -/
inductive Got (α : Type) where
  | ok (a : α) (buf sock : List Char)
  | fail (e : GoErr)
  | wait

def bufRead {α : Type} (f : List Char → Option (α × List Char)) (atEof : List Char → Got α)
    (buf sock : List Char) (eof broken : Bool) : Got α :=
  match f buf with
  | some (a, rest) => .ok a rest sock
  | none =>
    if broken then .fail .read
    else
      match f (buf ++ sock) with
      | some (a, rest) => .ok a rest []
      | none => if eof then atEof (buf ++ sock) else .wait

def splitLine (s : List Char) : Option (List Char × List Char) :=
  match index s '\n' with
  | none => none
  | some i =>
    let l := s.take i
    some (if l.getLast? = some '\r' then l.dropLast else l, s.drop (i + 1))

/-- textproto.Reader.ReadLine: at EOF an unterminated last line is still a line. -/
def readLine (buf sock : List Char) (eof broken : Bool) : Got (List Char) :=
  bufRead splitLine (fun all => if all = [] then .fail .eof else .ok all [] []) buf sock eof broken

inductive DotState where
  | beginLine | dot | dotCR | cr | data

/-- dotReader.Read up to its end line: CRLF becomes LF and a leading dot is undone. -/
def dotDecode : DotState → List Char → Option (List Char × List Char)
  | _, [] => none
  | .beginLine, c :: cs =>
    if c = '.' then dotDecode .dot cs
    else if c = '\r' then dotDecode .cr cs
    else (dotDecode .data cs).map fun (b, r) => (c :: b, r)
  | .dot, c :: cs =>
    if c = '\r' then dotDecode .dotCR cs
    else if c = '\n' then some ([], cs)
    else (dotDecode .data cs).map fun (b, r) => (c :: b, r)
  | .dotCR, c :: cs =>
    if c = '\n' then some ([], cs)
    else if c = '\r' then (dotDecode .cr cs).map fun (b, r) => ('\r' :: b, r)
    else (dotDecode .data cs).map fun (b, r) => ('\r' :: c :: b, r)
  | .cr, c :: cs =>
    if c = '\n' then (dotDecode .beginLine cs).map fun (b, r) => ('\n' :: b, r)
    else if c = '\r' then (dotDecode .cr cs).map fun (b, r) => ('\r' :: b, r)
    else (dotDecode .data cs).map fun (b, r) => ('\r' :: c :: b, r)
  | .data, c :: cs =>
    if c = '\r' then dotDecode .cr cs
    else if c = '\n' then (dotDecode .beginLine cs).map fun (b, r) => ('\n' :: b, r)
    else (dotDecode .data cs).map fun (b, r) => (c :: b, r)

def readDotBytes (buf sock : List Char) (eof broken : Bool) : Got (List Char) :=
  bufRead (dotDecode .beginLine) (fun _ => .fail .unexpectedEof) buf sock eof broken

example : dotDecode .beginLine "Hi\r\n..x\r\n.\r\nQUIT\r\n".data =
    some ("Hi\n.x\n".data, "QUIT\r\n".data) := by decide

theorem dotDecode_append {st : DotState} {s a r : List Char} (h : dotDecode st s = some (a, r))
    (t : List Char) : dotDecode st (s ++ t) = some (a, r ++ t) := by
  induction s generalizing st a r with
  | nil => simp [dotDecode] at h
  | cons c cs ih =>
    cases st <;> simp only [dotDecode, List.cons_append, List.append_eq] at h ⊢ <;>
      split_ifs at h ⊢ <;>
    first
      | exact ih h
      | (obtain ⟨rfl, rfl⟩ := Prod.mk.inj (Option.some.inj h); rfl)
      | (obtain ⟨x, hx, he⟩ := Option.map_eq_some'.1 h
         obtain ⟨rfl, rfl⟩ := Prod.mk.inj he
         exact Option.map_eq_some'.2 ⟨(x.1, x.2 ++ t), ih hx, rfl⟩)

def dotStuffLine (l : List Char) : List Char :=
  (if l.head? = some '.' then '.' :: l else l) ++ ['\r', '\n']

def dotStuff (lines : List (List Char)) : List Char :=
  (lines.map dotStuffLine).flatten ++ ['.', '\r', '\n']

theorem dotDecode_data_crlf {t : List Char} (hr : '\r' ∉ t) (hn : '\n' ∉ t) (rest : List Char) :
    dotDecode .data (t ++ '\r' :: '\n' :: rest) =
      (dotDecode .beginLine rest).map fun (b, r) => (t ++ '\n' :: b, r) := by
  induction t with
  | nil => simp [dotDecode]
  | cons x t ih =>
    simp only [List.mem_cons, not_or] at hr hn
    have hx : x ≠ '\r' ∧ x ≠ '\n' := ⟨fun e => hr.1 e.symm, fun e => hn.1 e.symm⟩
    simp [dotDecode, hx, ih hr.2 hn.2, Option.map_map, Function.comp_def]

theorem dotDecode_dotStuffLine {l : List Char} (hr : '\r' ∉ l) (hn : '\n' ∉ l) (rest : List Char) :
    dotDecode .beginLine (dotStuffLine l ++ rest) =
      (dotDecode .beginLine rest).map fun (b, r) => (l ++ '\n' :: b, r) := by
  cases l with
  | nil => simp [dotStuffLine, dotDecode]
  | cons x t =>
    simp only [List.mem_cons, not_or] at hr hn
    have hxr : x ≠ '\r' := fun e => hr.1 e.symm
    by_cases hx : x = '.'
    · subst hx
      simp [dotStuffLine, dotDecode, dotDecode_data_crlf hr.2 hn.2, Option.map_map, Function.comp_def]
    · simp [dotStuffLine, dotDecode, hx, hxr, dotDecode_data_crlf hr.2 hn.2, Option.map_map,
        Function.comp_def]

theorem dotDecode_dotStuff {lines : List (List Char)} (h : ∀ l ∈ lines, '\r' ∉ l ∧ '\n' ∉ l)
    (rest : List Char) :
    dotDecode .beginLine (dotStuff lines ++ rest) = some ((lines.map (· ++ ['\n'])).flatten, rest) := by
  induction lines with
  | nil => simp [dotStuff, dotDecode]
  | cons l ls ih =>
    obtain ⟨hl, hls⟩ := List.forall_mem_cons.1 h
    simp only [dotStuff, List.map_cons, List.flatten_cons, List.append_assoc] at ih ⊢
    rw [dotDecode_dotStuffLine hl.1 hl.2, ih hls]
    simp

/-- ReadDotBytes reads back a dot-stuffed message, however much of it was buffered. -/
theorem readDotBytes_dotStuff {lines : List (List Char)} (h : ∀ l ∈ lines, '\r' ∉ l ∧ '\n' ∉ l)
    {buf sock rest : List Char} (hb : buf ++ sock = dotStuff lines ++ rest) (eof : Bool) :
    ∃ buf' sock', readDotBytes buf sock eof false =
      .ok (lines.map (· ++ ['\n'])).flatten buf' sock' ∧ buf' ++ sock' = rest := by
  have hall := dotDecode_dotStuff h rest
  rw [← hb] at hall
  unfold readDotBytes bufRead
  cases hf : dotDecode .beginLine buf with
  | some p =>
    obtain ⟨a, r⟩ := p
    rw [dotDecode_append hf sock, Option.some.injEq, Prod.mk.injEq] at hall
    exact ⟨r, sock, by rw [hall.1], hall.2⟩
  | none => exact ⟨rest, [], by simp [hall], List.append_nil rest⟩

theorem dot_lines_read_back :
    ∃ buf' sock', readDotBytes [] (dotStuff [".".data, "..x".data, "hi".data] ++ "QUIT\r\n".data)
      false false = .ok ".\n..x\nhi\n".data buf' sock' ∧ buf' ++ sock' = "QUIT\r\n".data :=
  @readDotBytes_dotStuff [".".data, "..x".data, "hi".data] (by decide) []
    (dotStuff [".".data, "..x".data, "hi".data] ++ "QUIT\r\n".data) "QUIT\r\n".data rfl false

def takeExact (n : Nat) (s : List Char) : Option (List Char × List Char) :=
  if n ≤ s.length then some (s.take n, s.drop n) else none

/-- io.ReadFull of `n` bytes: io.EOF before any byte, io.ErrUnexpectedEOF after some. -/
def readFull (n : Nat) (buf sock : List Char) (eof broken : Bool) : Got (List Char) :=
  bufRead (takeExact n) (fun all => if all = [] then .fail .eof else .fail .unexpectedEof)
    buf sock eof broken

def skipCrlf (buf sock : List Char) (eof broken : Bool) : Got Unit :=
  let two (s : List Char) : Option (Unit × List Char) :=
    if 2 ≤ s.length then some ((), if s.take 2 = ['\r', '\n'] then s.drop 2 else s) else none
  match two buf with
  | some (_, rest) => .ok () rest sock
  | none =>
    if broken then .ok () buf sock
    else
      match two (buf ++ sock) with
      | some (_, rest) => .ok () rest []
      | none => if eof then .ok () (buf ++ sock) [] else .wait

/-- Peek(1) under detectPipelining's short deadline: whether a byte is there. -/
def peekByte (buf sock : List Char) (broken : Bool) : Bool × List Char × List Char :=
  if buf ≠ [] then (true, buf, sock)
  else if broken || sock = [] then (false, buf, sock)
  else (true, sock, [])

theorem splitLine_crlf {l : List Char} (hn : '\n' ∉ l) :
    splitLine (l ++ ['\r', '\n']) = some (l, []) := by
  have hn' : '\n' ∉ l ++ ['\r'] := by simp [hn]
  have hi : index (l ++ ['\r', '\n']) '\n' = some (l.length + 1) := by
    rw [show l ++ ['\r', '\n'] = (l ++ ['\r']) ++ '\n' :: [] by simp, index_append_cons hn']
    simp
  simp [splitLine, hi, List.take_append_eq_append_take, List.drop_append_eq_append_drop]
  omega

theorem readLine_crlf {l : List Char} (hn : '\n' ∉ l) :
    readLine [] (l ++ ['\r', '\n']) false false = .ok l [] [] := by
  have h0 : splitLine [] = none := rfl
  simp only [readLine, bufRead, h0, Bool.false_eq_true, if_false, List.nil_append, splitLine_crlf hn]

theorem readLine_nil : readLine [] [] false false = .wait := rfl

theorem takeExact_length {n : Nat} {s a r : List Char} (h : takeExact n s = some (a, r)) :
    a.length = n := by
  unfold takeExact at h
  split_ifs at h with hn
  cases h
  simp [hn]

theorem readFull_length {n : Nat} {buf sock chunk buf' sock' : List Char} {eof broken : Bool}
    (h : readFull n buf sock eof broken = .ok chunk buf' sock') : chunk.length = n := by
  unfold readFull bufRead at h
  split at h
  · cases h; exact takeExact_length ‹_›
  split_ifs at h <;> (try split at h) <;>
    first | (cases h; exact takeExact_length ‹_›) | cases h | (beta_reduce at h; split_ifs at h)

end BadSmtp.Go
