import RaviDebug.Spec.Debugger
import Mathlib.Data.List.Infix

/-!
# The frame reader

`fgets` and `fread` split the stream: what they return, followed by what is left, is what
they were given (`fgetsLine_append`, `fread_append`). So a pass of the reader that skips a line
or reads a body consumes a nonempty prefix of the input, and a body read consumes at least
two lines before it (`readFrame_skip`, `readFrame_body`, both read off the inversion
`readFrame_sound`): this is what bounds the loop.

Conversely, on what a client writes, header lines and `Content-Length` frames (`Piece`), each
well formed (`Piece.WellFormed`), the reader takes one piece a pass: it skips a header line whole
and hands over a frame's body exactly (`readFrame_encodeAll`).

The length is read with `atoi`, which keeps the numeral's value modulo `2 ^ 32`: a
`Content-Length` of `2 ^ 32 + 5` passes the check against `sizeof buf` and the reader takes five
bytes for the body (`content_length_wraps`).
-/

namespace RaviDebug

/-! ## `fgets` and `fread` -/

theorem fgetsLine_append : ∀ (k : Nat) (inp : List Char),
    (fgetsLine k inp).1 ++ (fgetsLine k inp).2 = inp
  | 0, _ => rfl
  | _ + 1, [] => rfl
  | k + 1, c :: cs => by
    unfold fgetsLine
    split
    · rfl
    · exact congrArg (c :: ·) (fgetsLine_append k cs)

theorem fgetsLine_ne_nil (k : Nat) {inp : List Char} (h : inp ≠ []) :
    (fgetsLine (k + 1) inp).1 ≠ [] := by
  obtain ⟨c, cs, rfl⟩ := List.exists_cons_of_ne_nil h
  unfold fgetsLine
  split <;> simp

variable {n : Nat} {inp line rest : List Char}

theorem fgets_append (h : fgets n inp = some (line, rest)) : line ++ rest = inp := by
  unfold fgets at h
  split at h
  · cases h
  · obtain ⟨rfl, rfl⟩ := Prod.ext_iff.1 (Option.some.inj h).symm
    exact fgetsLine_append _ _

/-- With room for a byte and the NUL, `fgets` reads at least one byte. -/
theorem fgets_ne_nil (h : fgets (n + 2) inp = some (line, rest)) : line ≠ [] := by
  unfold fgets at h
  split at h
  · cases h
  · obtain ⟨rfl, rfl⟩ := Prod.ext_iff.1 (Option.some.inj h).symm
    exact fgetsLine_ne_nil n ‹_›

theorem fread_append {size : Nat} {b : List Char} (h : fread size inp = some (b, rest)) :
    b ++ rest = inp := by
  unfold fread at h
  split at h
  · obtain ⟨rfl, rfl⟩ := Prod.ext_iff.1 (Option.some.inj h).symm
    exact List.take_append_drop _ _
  · cases h

theorem fread_length {size : Nat} {b : List Char} (h : fread size inp = some (b, rest)) :
    b.length = size ∧ 0 < size := by
  unfold fread at h
  split at h
  · next hs =>
    obtain ⟨rfl, rfl⟩ := Prod.ext_iff.1 (Option.some.inj h).symm
    exact ⟨List.length_take_of_le hs.2, hs.1⟩
  · cases h

/-! ## What a pass of the reader consumes -/

/-- A skipped line is a nonempty prefix of the input. -/
theorem readFrame_skip (h : readFrame inp = .skip rest) : ∃ line, line ≠ [] ∧ inp = line ++ rest := by
  unfold readFrame at h
  rcases h1 : fgets 4096 inp with _ | ⟨line, r1⟩ <;> simp only [h1, reduceCtorEq] at h
  rcases h2 : strstr line "Content-Length: ".toList with _ | bufp <;> simp only [h2, reduceCtorEq] at h
  · cases h
    exact ⟨line, fgets_ne_nil h1, (fgets_append h1).symm⟩
  · split_ifs at h
    rcases h3 : fgets 4096 r1 with _ | ⟨blank, r2⟩ <;> simp only [h3, reduceCtorEq] at h
    split at h <;> simp only [reduceCtorEq] at h

/-- `strstr` returns the needle and what follows it in the haystack. -/
theorem strstrFrom_eq_some {needle : List Char} : ∀ {hay r : List Char},
    strstrFrom needle hay = some r → ∃ pre num, hay = pre ++ r ∧ r = needle ++ num
  | [], r, h => by
    unfold strstrFrom at h
    split_ifs at h with hn
    cases h
    exact ⟨[], [], rfl, by simp [hn]⟩
  | c :: cs, r, h => by
    unfold strstrFrom at h
    split_ifs at h with hp
    · cases h
      obtain ⟨num, hnum⟩ := List.isPrefixOf_iff_prefix.1 hp
      exact ⟨[], num, rfl, hnum.symm⟩
    · obtain ⟨pre, num, rfl, rfl⟩ := strstrFrom_eq_some h
      exact ⟨c :: pre, num, rfl, rfl⟩

/-- An `int` converted to `size_t` is below `4096` only when it is that small and not
negative. -/
theorem sizeT_toInt32_lt {v : Int} (h : sizeT (toInt32 v) < 4096) :
    (sizeT (toInt32 v) : Int) = toInt32 v := by
  unfold sizeT toInt32 at *
  omega

/-- `inp` opens with a frame of body `b` that its header announces: the line `fgets` reads
first holds `Content-Length: ` in its C string, `atoi` of what follows is the length of `b`, of
1 to 4095 bytes, and `b` comes right after the next line; `rest` follows it. -/
def Announced (inp b rest : List Char) : Prop :=
  ∃ header blank pre num, inp = header ++ blank ++ b ++ rest ∧
    fgets 4096 inp = some (header, blank ++ b ++ rest) ∧
    fgets 4096 (blank ++ b ++ rest) = some (blank, b ++ rest) ∧
    cstr header = pre ++ "Content-Length: ".toList ++ num ∧
    atoi num = b.length ∧ 0 < b.length ∧ b.length < 4096

/-- The inversion of a body read: the pass took the `fgets`, `strstr`, `atoi` and `fread` steps
that hand a body over, so the body is `Announced`. The lemmas on what a pass consumes start
here. -/
theorem readFrame_sound {b : List Char} (h : readFrame inp = .body b rest) :
    Announced inp b rest := by
  unfold readFrame at h
  rcases h1 : fgets 4096 inp with _ | ⟨header, r1⟩ <;> simp only [h1, reduceCtorEq] at h
  rcases h2 : strstr header "Content-Length: ".toList with _ | bufp <;>
    simp only [h2, reduceCtorEq] at h
  split_ifs at h with hlt
  rcases h3 : fgets 4096 r1 with _ | ⟨blank, r2⟩ <;> simp only [h3, reduceCtorEq] at h
  rcases h4 : fread (sizeT (atoi (bufp.drop 16))) r2 with _ | ⟨b', r3⟩ <;>
    simp only [h4, reduceCtorEq, FrameRead.body.injEq] at h
  obtain ⟨rfl, rfl⟩ := h
  obtain ⟨pre, num, hcs, rfl⟩ := strstrFrom_eq_some h2
  have hnum : ("Content-Length: ".toList ++ num).drop 16 = num := rfl
  rw [hnum] at h4 hlt
  obtain ⟨hlen, hpos⟩ := fread_length h4
  obtain rfl := fread_append h4
  obtain rfl := fgets_append h3
  refine ⟨header, blank, pre, num, by simp [← fgets_append h1],
    by rw [List.append_assoc]; exact h1, by rw [List.append_assoc]; exact h3,
    by rw [hcs, List.append_assoc], ?_, by omega, by omega⟩
  rw [hlen]
  exact (sizeT_toInt32_lt (not_le.1 hlt)).symm

/-- A body follows two nonempty lines, the header line and the one taken as blank. -/
theorem readFrame_body {b : List Char} (h : readFrame inp = .body b rest) :
    ∃ header blank, header ≠ [] ∧ blank ≠ [] ∧ inp = header ++ blank ++ b ++ rest := by
  obtain ⟨header, blank, -, -, hinp, h1, h2, -⟩ := readFrame_sound h
  exact ⟨header, blank, fgets_ne_nil h1, fgets_ne_nil h2, hinp⟩

theorem readFrame_skip_suffix (h : readFrame inp = .skip rest) :
    rest <:+ inp ∧ rest.length < inp.length := by
  obtain ⟨line, hl, rfl⟩ := readFrame_skip h
  refine ⟨List.suffix_append _ _, ?_⟩
  have := List.length_pos_of_ne_nil hl
  simp only [List.length_append]
  omega

theorem readFrame_body_suffix {b : List Char} (h : readFrame inp = .body b rest) :
    rest <:+ inp ∧ rest.length + 2 ≤ inp.length := by
  obtain ⟨header, blank, hh, hb, rfl⟩ := readFrame_body h
  refine ⟨List.suffix_append _ _, ?_⟩
  have := List.length_pos_of_ne_nil hh
  have := List.length_pos_of_ne_nil hb
  simp only [List.length_append]
  omega


/-! ## Well-formed input -/

/-- `fgets` reads a line that fits its buffer through its newline. -/
theorem fgetsLine_line : ∀ (k : Nat) (t r : List Char), '\n' ∉ t → t.length < k →
    fgetsLine k (t ++ '\n' :: r) = (t ++ ['\n'], r)
  | 0, _, _, _, hk => absurd hk (Nat.not_lt_zero _)
  | k + 1, [], r, _, _ => by simp [fgetsLine]
  | k + 1, c :: t, r, ht, hk => by
    have hc : c ≠ '\n' := fun h => ht (h ▸ List.mem_cons_self _ _)
    rw [List.cons_append, fgetsLine, if_neg hc,
      fgetsLine_line k t r (fun h => ht (List.mem_cons_of_mem _ h)) (by simpa using hk)]
    rfl

theorem fgets_line {t r : List Char} (ht : '\n' ∉ t) (hk : t.length < 4095) :
    fgets 4096 (t ++ '\n' :: r) = some (t ++ ['\n'], r) := by
  simp [fgets, fgetsLine_line 4095 t r ht hk]

theorem cstr_of_nul_not_mem {s : List Char} (h : nul ∉ s) : cstr s = s :=
  List.takeWhile_eq_self_iff.2 fun _ hx => decide_eq_true fun he => h (he ▸ hx)

theorem nul_not_mem_cstr (s : List Char) : nul ∉ cstr s :=
  fun h => by simpa using List.mem_takeWhile_imp h

theorem strstrFrom_of_not_infix {needle : List Char} (hn : needle ≠ []) :
    ∀ hay, ¬ needle <:+: hay → strstrFrom needle hay = none
  | [], _ => by simp [strstrFrom, hn]
  | c :: cs, h => by
    have hp : needle.isPrefixOf (c :: cs) = false :=
      Bool.eq_false_iff.2 fun hp => h (List.isPrefixOf_iff_prefix.1 hp).isInfix
    simp only [strstrFrom, hp]
    exact strstrFrom_of_not_infix hn cs fun h' => h (List.infix_cons h')

theorem strstrFrom_append_self (needle r : List Char) :
    strstrFrom needle (needle ++ r) = some (needle ++ r) := by
  cases h : needle ++ r with
  | nil => simp_all [strstrFrom]
  | cons c cs => simp [strstrFrom, ← h, List.isPrefixOf_iff_prefix]

theorem isSpace_of_isDigit {c : Char} (h : c.isDigit) : isSpace c = false := by
  refine Bool.eq_false_iff.2 fun hs => ?_
  simp only [isSpace, Bool.or_eq_true, decide_eq_true_eq] at hs
  rcases hs with ((((rfl | rfl) | rfl) | rfl) | rfl) | rfl <;> exact absurd h (by decide)

theorem digitsValue_append {ds : List Char} (hd : ∀ c ∈ ds, c.isDigit) {c : Char}
    (hc : c.isDigit = false) (r : List Char) :
    ∀ acc, digitsValue acc (ds ++ c :: r) = digitsValue acc ds := by
  induction ds with
  | nil => intro acc; simp [digitsValue, hc]
  | cons d ds ih =>
    intro acc
    have hd' := hd d (List.mem_cons_self _ _)
    simp only [List.cons_append, digitsValue, hd', if_true]
    exact ih (fun c hc => hd c (List.mem_cons_of_mem _ hc)) _

/-- `atoi` of a decimal numeral followed by the line's `\r\n`: its value, saturated at
`LONG_MAX` by `strtol`, then taken modulo `2 ^ 32` into an `int`. -/
theorem atoi_digits_eq {d : Char} {ds : List Char} (hd : ∀ c ∈ d :: ds, c.isDigit) :
    atoi (d :: ds ++ ['\r', '\n']) = toInt32 (min (digitsValue 0 (d :: ds) : Int) (2 ^ 63 - 1)) := by
  have hnul : nul ∉ d :: ds ++ ['\r', '\n'] := by
    intro h
    rcases List.mem_append.1 h with h | h
    · exact absurd (hd _ h) (by decide)
    · simp [nul] at h
  have hd0 := hd d (List.mem_cons_self _ _)
  have hsign : d ≠ '-' ∧ d ≠ '+' := ⟨by rintro rfl; exact absurd hd0 (by decide),
    by rintro rfl; exact absurd hd0 (by decide)⟩
  have hval := digitsValue_append hd (c := '\r') (by decide) ['\n'] 0
  have ht : List.dropWhile isSpace (cstr (d :: ds ++ ['\r', '\n'])) =
      d :: (ds ++ ['\r', '\n']) := by
    rw [cstr_of_nul_not_mem hnul, List.cons_append,
      List.dropWhile_cons_of_neg (by simp [isSpace_of_isDigit hd0])]
  rw [atoi, strtol, ht]
  split
  · rename_i h; exact absurd (List.cons.inj h).1 hsign.1
  · rename_i h; exact absurd (List.cons.inj h).1 hsign.2
  · rw [← List.cons_append, hval]
    congr 1
    omega

/-- `atoi` of a decimal numeral followed by the line's `\r\n` is its value, when it fits an
`int`. -/
theorem atoi_digits {d : Char} {ds : List Char} (hd : ∀ c ∈ d :: ds, c.isDigit)
    (hv : digitsValue 0 (d :: ds) < 2 ^ 31) :
    atoi (d :: ds ++ ['\r', '\n']) = digitsValue 0 (d :: ds) := by
  rw [atoi_digits_eq hd, toInt32]
  omega

/-- What a client writes on `stdin`: a header line other than `Content-Length`, or a request
body framed by `Content-Length: N\r\n` and the blank line, with `N` written as `digits`. -/
inductive Piece
  | header (line : List Char)
  | frame (digits body : List Char)

/-- The bytes of a piece. -/
def Piece.encode : Piece → List Char
  | .header line => line
  | .frame digits body =>
    "Content-Length: ".toList ++ digits ++ "\r\n".toList ++ "\r\n".toList ++ body

/-- A header line is one line that fits `buf` and does not hold `Content-Length: `; a frame's
length is written in decimal, its line fits `buf`, and it is the length of the body, of 1 to
4095 bytes. -/
def Piece.WellFormed : Piece → Prop
  | .header line => line.getLast? = some '\n' ∧ '\n' ∉ line.dropLast ∧ line.length ≤ 4095 ∧
      ¬ "Content-Length: ".toList <:+: line
  | .frame digits body => (∀ c ∈ digits, c.isDigit) ∧ digitsValue 0 digits = body.length ∧
      digits.length < 4078 ∧ 0 < body.length ∧ body.length < 4096

instance Piece.decidableWellFormed : (p : Piece) → Decidable p.WellFormed
  | .header line => inferInstanceAs (Decidable (line.getLast? = some '\n' ∧ '\n' ∉ line.dropLast ∧
      line.length ≤ 4095 ∧ ¬ "Content-Length: ".toList <:+: line))
  | .frame digits body => inferInstanceAs (Decidable ((∀ c ∈ digits, c.isDigit) ∧
      digitsValue 0 digits = body.length ∧ digits.length < 4078 ∧ 0 < body.length ∧
      body.length < 4096))

/-- The bytes of a list of pieces. -/
def encodeAll (ps : List Piece) : List Char := ps.flatMap Piece.encode

theorem readFrame_header {line : List Char} (hw : (Piece.header line).WellFormed)
    (rest : List Char) : readFrame ((Piece.header line).encode ++ rest) = .skip rest := by
  obtain ⟨hlast, hnl, hk, hcl⟩ := hw
  have hcl' : ¬ "Content-Length: ".toList <:+: cstr line :=
    fun h => hcl (h.trans (List.takeWhile_prefix _).isInfix)
  have hk' : line.dropLast.length < 4095 := by
    have : line ≠ [] := by rintro rfl; simp at hlast
    have := List.length_pos_of_ne_nil this
    rw [List.length_dropLast]
    omega
  rw [Piece.encode, ← List.dropLast_append_getLast? '\n' hlast, List.append_assoc,
    List.singleton_append, readFrame, fgets_line hnl hk', List.dropLast_append_getLast? '\n' hlast]
  simp only [strstr, strstrFrom_of_not_infix (by simp) _ hcl']

/-- A `Content-Length` line that fits `buf`, its numeral read by `atoi` as the length of a body
of 1 to 4095 bytes, then the blank line: the reader hands over that body. -/
theorem readFrame_of_atoi {digits body : List Char} (hd : ∀ c ∈ digits, c.isDigit)
    (hl : digits.length < 4078) (hlen : atoi (digits ++ ['\r', '\n']) = body.length)
    (hb0 : 0 < body.length) (hb : body.length < 4096) (rest : List Char) :
    readFrame ((Piece.frame digits body).encode ++ rest) = .body body rest := by
  have henc : (Piece.frame digits body).encode ++ rest =
      ("Content-Length: ".toList ++ digits ++ ['\r']) ++
        '\n' :: (['\r'] ++ '\n' :: (body ++ rest)) := by
    simp [Piece.encode]
  have hc : ∀ c ∈ "Content-Length: ".toList ++ digits ++ ['\r'], c ≠ '\n' ∧ c ≠ nul := by
    intro c h
    simp only [List.mem_append, List.mem_singleton] at h
    rcases h with (h | h) | rfl
    · revert c
      decide
    · exact ⟨by rintro rfl; exact absurd (hd _ h) (by decide),
        by rintro rfl; exact absurd (hd _ h) (by decide)⟩
    · decide
  have hnl : '\n' ∉ "Content-Length: ".toList ++ digits ++ ['\r'] := fun h => (hc _ h).1 rfl
  have hnul : nul ∉ "Content-Length: ".toList ++ digits ++ ['\r'] ++ ['\n'] := by
    rw [List.mem_append, List.mem_singleton, not_or]
    exact ⟨fun h => (hc _ h).2 rfl, by decide⟩
  have hstr :
      strstr ("Content-Length: ".toList ++ digits ++ ['\r'] ++ ['\n']) "Content-Length: ".toList =
      some ("Content-Length: ".toList ++ (digits ++ ['\r'] ++ ['\n'])) := by
    rw [strstr, cstr_of_nul_not_mem hnul, List.append_assoc, List.append_assoc,
      strstrFrom_append_self]
    simp only [List.append_assoc]
  have hlen' : atoi (List.drop 16 ("Content-Length: ".toList ++ (digits ++ ['\r'] ++ ['\n']))) =
      body.length := by
    rw [List.drop_left' (show "Content-Length: ".toList.length = 16 from rfl), List.append_assoc,
      List.singleton_append, hlen]
  rw [henc, readFrame, fgets_line hnl (by simp at hl ⊢; omega)]
  simp only [hstr, hlen', sizeT,
    Int.emod_eq_of_lt (Int.ofNat_nonneg _) (by omega : (body.length : Int) < 2 ^ 64),
    Int.toNat_ofNat, if_neg (by omega : ¬ 4096 ≤ body.length),
    fgets_line (t := ['\r']) (by decide) (by decide)]
  simp [fread, hb0]

theorem readFrame_frame {digits body : List Char} (hw : (Piece.frame digits body).WellFormed)
    (rest : List Char) : readFrame ((Piece.frame digits body).encode ++ rest) = .body body rest := by
  obtain ⟨hd, hv, hl, hb0, hb⟩ := hw
  obtain ⟨d, ds, rfl⟩ : ∃ d ds, digits = d :: ds := by
    cases digits with
    | nil => simp [digitsValue] at hv; omega
    | cons d ds => exact ⟨d, ds, rfl⟩
  exact readFrame_of_atoi hd hl (hv ▸ atoi_digits hd (by omega)) hb0 hb rest

/-- **A length past `int` is taken modulo `2 ^ 32`.** A `Content-Length` numeral of any value
`N` below `2 ^ 63` whose `int` conversion is the length of a body of 1 to 4095 bytes: the reader
accepts the frame with that body, whatever `N` is. -/
theorem content_length_wraps {digits body : List Char} (hd : ∀ c ∈ digits, c.isDigit)
    (hne : digits ≠ []) (hl : digits.length < 4078) (hN : digitsValue 0 digits < 2 ^ 63)
    (hlen : toInt32 (digitsValue 0 digits) = body.length) (hb0 : 0 < body.length)
    (hb : body.length < 4096) (rest : List Char) :
    readFrame ((Piece.frame digits body).encode ++ rest) = .body body rest := by
  obtain ⟨d, ds, rfl⟩ := List.exists_cons_of_ne_nil hne
  refine readFrame_of_atoi hd hl ?_ hb0 hb rest
  have hmin : min (digitsValue 0 (d :: ds) : Int) (2 ^ 63 - 1) = digitsValue 0 (d :: ds) := by
    omega
  rw [atoi_digits_eq hd, hmin, hlen]

/-- `Content-Length: 4294967301`, that is `2 ^ 32 + 5`, before the five bytes `hello`: the
frame is accepted with those five bytes. -/
theorem content_length_wraps_five :
    ((∀ c ∈ "4294967301".toList, c.isDigit) ∧ "4294967301".toList ≠ [] ∧
      "4294967301".toList.length < 4078 ∧ digitsValue 0 "4294967301".toList < 2 ^ 63 ∧
      toInt32 (digitsValue 0 "4294967301".toList) = "hello".toList.length ∧
      0 < "hello".toList.length ∧ "hello".toList.length < 4096) ∧
    digitsValue 0 "4294967301".toList = 2 ^ 32 + 5 ∧
    readFrame ((Piece.frame "4294967301".toList "hello".toList).encode ++ []) =
      .body "hello".toList [] :=
  ⟨⟨by decide, by decide, by decide, by decide, by decide, by decide, by decide⟩, by decide,
    content_length_wraps (by decide) (by decide) (by decide) (by decide) (by decide) (by decide)
      (by decide) []⟩

/-- What the reader makes of the bytes of well-formed pieces: the end of the input, a header
line skipped, or the next body. -/
def nextRead : List Piece → FrameRead
  | [] => .endOfInput
  | .header _ :: ps => .skip (encodeAll ps)
  | .frame _ body :: ps => .body body (encodeAll ps)

/-- **The reader on well-formed input** reads a piece at a time: it skips a header line whole,
and hands over a frame's body exactly, leaving the next piece's bytes unread. -/
theorem readFrame_encodeAll : ∀ {ps : List Piece}, (∀ p ∈ ps, p.WellFormed) →
    readFrame (encodeAll ps) = nextRead ps
  | [], _ => rfl
  | .header _ :: ps, hw => by
    rw [encodeAll, List.flatMap_cons]
    exact readFrame_header (hw _ (List.mem_cons_self _ _)) (encodeAll ps)
  | .frame _ _ :: ps, hw => by
    rw [encodeAll, List.flatMap_cons]
    exact readFrame_frame (hw _ (List.mem_cons_self _ _)) (encodeAll ps)

end RaviDebug
