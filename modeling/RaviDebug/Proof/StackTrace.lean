import RaviDebug.Proof.Framing
import RaviDebug.Proof.Lifecycle

/-!
# The stack trace

The loop of `handle_stack_trace_request` stops at the first of its three exits: no level
`depth` on the stack, `depth` reaching `levels`, `depth` reaching `MAX_STACK_FRAMES`. In closed
form it describes the first `min levels MAX_STACK_FRAMES` levels of the stack, level `i` in
slot `i` (`stackTraceLoop_eq`), so `totalFrames` is that `min` taken with the stack's depth and
no slot at or past `MAX_STACK_FRAMES` is written (`stack_trace_frames`). The frame's `name`
is `strncpy (name, funcname, sizeof name)`: a function name shorter than the field is stored
whole, with its NUL; one as long as the field or longer is cut to the field's size and stored
with no NUL (`long_function_name_unterminated`).

The source fields are copied twice with `strncpy`, through `path [1024]` and `name [256]`: a
source as long as one of those arrays leaves it without a NUL, and the field copied from it is
then no C string (`strncpyArray_strncpy_of_le`, `long_source_unterminated`). A source shorter
than both arrays is stored whole, `source.name` being its file name, what follows its last `/`
(`short_source_stored`).
-/

namespace RaviDebug

variable (P : Protocol)

/-! ## The loop -/

theorem stackTraceLoop_eq (levels : Int) : ∀ (d : Nat) (L : List LuaFrame),
    stackTraceLoop P levels d L =
      (L.take (min (levels - d).toNat (P.maxStackFrames - d))).mapIdx
        fun i e => stackFrameOf P (i + d) e
  | _, [] => by simp [stackTraceLoop]
  | d, e :: L => by
    unfold stackTraceLoop
    split_ifs with h
    · have hn : min (levels - d).toNat (P.maxStackFrames - d) =
          min (levels - ↑(d + 1)).toNat (P.maxStackFrames - (d + 1)) + 1 := by omega
      rw [hn, List.take_succ_cons, List.mapIdx_cons, stackTraceLoop_eq levels (d + 1) L]
      simp only [Nat.zero_add, Nat.add_assoc, Nat.add_comm 1 d]
    · rw [show min (levels - d).toNat (P.maxStackFrames - d) = 0 by omega]
      rfl

theorem stackTraceLoop_length (levels : Int) (L : List LuaFrame) :
    (stackTraceLoop P levels 0 L).length = min (min levels.toNat P.maxStackFrames) L.length := by
  simp [stackTraceLoop_eq]

/-- **The frames of a stack trace.** On a stack of depth `L.length` and any `levels`, the
response counts `min (max levels 0) (min MAX_STACK_FRAMES L.length)` frames, none past
`MAX_STACK_FRAMES`, and frame `i` describes level `i`: its id, current line and function
name, `"?"` when it has none. -/
theorem stack_trace_frames (L : List LuaFrame) (s : Session) (req : Request) :
    ∃ frames : List StackFrame, handleStackTraceRequest P L s req =
        s.send (.response { makeSuccessResponse req .stackTraceResponse with
          body := .stackTrace frames frames.length }) ∧
      (frames.length : Int) = min (max req.levels 0) (min (P.maxStackFrames : Int) L.length) ∧
      frames.length ≤ P.maxStackFrames ∧
      ∀ i (hi : i < frames.length), ∃ e, L[i]? = some e ∧ frames[i].id = i ∧
        frames[i].line = e.currentline ∧
        frames[i].name = strncpy P.frameNameSize (e.name.getD "?".toList) := by
  have hlen := stackTraceLoop_length P req.levels L
  refine ⟨_, rfl, by omega, by omega, fun i hi => ?_⟩
  simp only [stackTraceLoop_eq, List.getElem_mapIdx, List.getElem_take]
  exact ⟨_, List.getElem?_eq_getElem _, rfl, rfl, rfl⟩

/-! ## The source fields -/

/-- The string `src` points at: the entry's source past one leading `@`. -/
def sourceText (entry : LuaFrame) : List Char :=
  match cstr entry.source with
  | '@' :: rest => rest
  | s => s

/-- What `name` is copied from: the part of `src` after its last `/`, all of it when it has
none. -/
def baseName (entry : LuaFrame) : List Char :=
  (afterLast '/' (sourceText entry)).getD (sourceText entry)

theorem stackFrameOf_sourcePath (d : Nat) (entry : LuaFrame) :
    (stackFrameOf P d entry).sourcePath =
      strncpyArray P.sourcePathSize (strncpy 1024 (sourceText entry)) := rfl

theorem stackFrameOf_sourceName (d : Nat) (entry : LuaFrame) :
    (stackFrameOf P d entry).sourceName =
      strncpyArray P.sourceNameSize (strncpy 256 (baseName entry)) := rfl

theorem nul_not_mem_sourceText (entry : LuaFrame) : nul ∉ sourceText entry := by
  have h := nul_not_mem_cstr entry.source
  unfold sourceText
  split
  · next rest heq => exact fun hm => h (heq ▸ List.mem_cons_of_mem _ hm)
  · exact h

theorem nul_not_mem_baseName (entry : LuaFrame) : nul ∉ baseName entry := by
  unfold baseName afterLast
  split_ifs
  · exact fun hm => nul_not_mem_cstr _ (List.mem_reverse.1 ((List.takeWhile_sublist _).subset
      (List.mem_reverse.1 hm)))
  · exact nul_not_mem_sourceText entry

/-- `strncpy (dst, src, m)` from a C string of `m` characters or more copies its first `m`,
and no NUL. -/
theorem strncpy_of_le {m : Nat} {src : List Char} (hnul : nul ∉ src) (h : m ≤ src.length) :
    strncpy m src = src.take m := by
  simp [strncpy, cstr_of_nul_not_mem hnul, Nat.sub_eq_zero_of_le h]

/-- Copying with `strncpy` out of an array that an earlier `strncpy (…, src, m)` filled from a
string of `m` characters or more gives no C string: the copy holds no NUL, or reads past the
array. -/
theorem strncpyArray_strncpy_of_le {m n : Nat} {src : List Char} (hnul : nul ∉ src)
    (h : m ≤ src.length) : ∀ f, strncpyArray n (strncpy m src) = some f → nul ∉ f := by
  have ht : nul ∉ src.take m := fun hm => hnul (List.mem_of_mem_take hm)
  rw [strncpy_of_le hnul h]
  unfold strncpyArray
  split_ifs with hn
  · rintro f ⟨⟩
    have hn : n ≤ (src.take m).length := hn.resolve_right ht
    rw [strncpy_of_le ht hn]
    exact fun hm => ht (List.mem_of_mem_take hm)
  · nofun

/-- **A long source is stored without its NUL.** When the source past its `@` has 1024
characters or more, the frame's `source.path` holds no NUL or is copied from past the end of
`path`; when its part after the last `/` has 256 or more, likewise `source.name` and `name`. -/
theorem long_source_unterminated (d : Nat) (entry : LuaFrame) :
    (1024 ≤ (sourceText entry).length →
      ∀ p, (stackFrameOf P d entry).sourcePath = some p → nul ∉ p) ∧
    (256 ≤ (baseName entry).length →
      ∀ n, (stackFrameOf P d entry).sourceName = some n → nul ∉ n) := by
  rw [stackFrameOf_sourcePath, stackFrameOf_sourceName]
  exact ⟨strncpyArray_strncpy_of_le (nul_not_mem_sourceText entry),
    strncpyArray_strncpy_of_le (nul_not_mem_baseName entry)⟩

/-- A frame whose source is `@` and 1024 letters, no `/`. -/
def longSource : LuaFrame := ⟨'@' :: List.replicate 1024 'a', 0, none, 0, []⟩

theorem sourceText_longSource : sourceText longSource = List.replicate 1024 'a' := by
  have h : nul ∉ '@' :: List.replicate 1024 'a' := by
    rw [List.mem_cons, List.mem_replicate]
    decide
  simp only [sourceText, longSource, cstr_of_nul_not_mem h]

theorem baseName_longSource : baseName longSource = List.replicate 1024 'a' := by
  have h : nul ∉ List.replicate 1024 'a' := by
    rw [List.mem_replicate]
    decide
  have hs : '/' ∉ List.replicate 1024 'a' := by
    rw [List.mem_replicate]
    decide
  rw [baseName, afterLast, sourceText_longSource, cstr_of_nul_not_mem h, if_neg hs]
  rfl

/-- With fields of 16 bytes, `longSource` fills both `path` and `name`, and neither field of
its frame is a C string. -/
theorem long_source_unterminated_letters :
    (1024 ≤ (sourceText longSource).length ∧ 256 ≤ (baseName longSource).length) ∧
      (∀ p, (stackFrameOf nextOnly 0 longSource).sourcePath = some p → nul ∉ p) ∧
      (∀ n, (stackFrameOf nextOnly 0 longSource).sourceName = some n → nul ∉ n) := by
  have h1 : 1024 ≤ (sourceText longSource).length := by
    rw [sourceText_longSource, List.length_replicate]
  have h2 : 256 ≤ (baseName longSource).length := by
    rw [baseName_longSource, List.length_replicate]
    decide
  exact ⟨⟨h1, h2⟩, (long_source_unterminated nextOnly 0 longSource).1 h1,
    (long_source_unterminated nextOnly 0 longSource).2 h2⟩

/-- `strncpy (dst, src, m)` from a C string of fewer than `m` characters stores it whole, with
its NUL. -/
theorem strncpy_of_lt {m : Nat} {src : List Char} (hnul : nul ∉ src) (h : src.length < m) :
    nul ∈ strncpy m src ∧ cstr (strncpy m src) = src := by
  obtain ⟨k, hk⟩ : ∃ k, m - src.length = k + 1 := ⟨m - src.length - 1, by omega⟩
  have hs : strncpy m src = src ++ nul :: List.replicate k nul := by
    simp [strncpy, cstr_of_nul_not_mem hnul, List.take_of_length_le h.le, hk, List.replicate_succ]
  have hp : ∀ a ∈ src, decide (a ≠ nul) = true := fun a ha => by
    simpa using fun he : a = nul => hnul (he ▸ ha)
  rw [hs, cstr, List.takeWhile_append_of_pos hp]
  exact ⟨List.mem_append_right _ (List.mem_cons_self _ _), by simp⟩

theorem strncpy_congr {n : Nat} {a b : List Char} (h : cstr a = cstr b) :
    strncpy n a = strncpy n b := by
  simp only [strncpy, h]

/-- Copying with `strncpy` out of an array that an earlier `strncpy (…, src, m)` filled from a
string of fewer than `m` characters copies `src` itself; into a field of more than its length,
it is stored whole as a C string. -/
theorem strncpyArray_strncpy_of_lt {m n : Nat} {src : List Char} (hnul : nul ∉ src)
    (h : src.length < min m n) :
    ∃ f, strncpyArray n (strncpy m src) = some f ∧ nul ∈ f ∧ cstr f = src := by
  obtain ⟨hm, hc⟩ := strncpy_of_lt hnul (by omega : src.length < m)
  refine ⟨_, if_pos (.inr hm), ?_⟩
  rw [strncpy_congr (hc.trans (cstr_of_nul_not_mem hnul).symm)]
  exact strncpy_of_lt hnul (by omega)

/-- What follows the last `c` of `s` holds no `c`, and comes after a part ending in `c`. -/
theorem eq_append_afterLast {c : Char} {s r : List Char} (h : afterLast c s = some r) :
    ∃ dir, cstr s = dir ++ r ∧ c ∉ r ∧ dir.getLast? = some c := by
  unfold afterLast at h
  split_ifs at h with hc
  cases h
  have hd : (cstr s).reverse.dropWhile (· ≠ c) ≠ [] := by
    rw [Ne, List.dropWhile_eq_nil_iff]
    exact fun hall => by simpa using hall c (List.mem_reverse.2 hc)
  refine ⟨((cstr s).reverse.dropWhile (· ≠ c)).reverse, ?_, fun hm => ?_, ?_⟩
  · rw [← List.reverse_append, List.takeWhile_append_dropWhile, List.reverse_reverse]
  · simpa using List.mem_takeWhile_imp (List.mem_reverse.1 hm)
  · rw [List.getLast?_reverse, List.head?_eq_head hd]
    simpa using List.head_dropWhile_not _ _ hd

/-- `baseName` is the file name of the source: what follows its directory part, which is empty
or ends in `/`, and it holds no `/`. -/
theorem baseName_spec (entry : LuaFrame) :
    ∃ dir, sourceText entry = dir ++ baseName entry ∧ '/' ∉ baseName entry ∧
      (dir = [] ∨ dir.getLast? = some '/') := by
  have hs := cstr_of_nul_not_mem (nul_not_mem_sourceText entry)
  unfold baseName
  cases h : afterLast '/' (sourceText entry) with
  | none =>
    refine ⟨[], rfl, fun hm => ?_, .inl rfl⟩
    simp only [afterLast, hs, if_pos (show '/' ∈ sourceText entry from hm), reduceCtorEq] at h
  | some r =>
    obtain ⟨dir, hd, hr, hl⟩ := eq_append_afterLast h
    exact ⟨dir, hs ▸ hd, hr, .inr hl⟩

/-- **A short source is stored whole.** When the source past its `@` is shorter than both
`path` and the frame's `source.path`, `source.path` holds it as a C string; when its file name
is shorter than both `name` and `source.name`, `source.name` holds that file name, what follows
the last `/` of the source, as a C string. -/
theorem short_source_stored (d : Nat) (entry : LuaFrame) :
    ((sourceText entry).length < min 1024 P.sourcePathSize →
      ∃ p, (stackFrameOf P d entry).sourcePath = some p ∧ nul ∈ p ∧
        cstr p = sourceText entry) ∧
    ((baseName entry).length < min 256 P.sourceNameSize →
      ∃ n dir, (stackFrameOf P d entry).sourceName = some n ∧ nul ∈ n ∧
        sourceText entry = dir ++ cstr n ∧ '/' ∉ cstr n ∧
        (dir = [] ∨ dir.getLast? = some '/')) := by
  rw [stackFrameOf_sourcePath, stackFrameOf_sourceName]
  refine ⟨strncpyArray_strncpy_of_lt (nul_not_mem_sourceText entry), fun h => ?_⟩
  obtain ⟨n, hn, hnul, hc⟩ := strncpyArray_strncpy_of_lt (nul_not_mem_baseName entry) h
  obtain ⟨dir, hd, hs, hl⟩ := baseName_spec entry
  exact ⟨n, dir, hn, hnul, hc ▸ hd, hc ▸ hs, hl⟩

/-- A frame whose source is `@a/b.lua`. -/
def luaSource : LuaFrame := ⟨"@a/b.lua".toList, 0, none, 0, []⟩

/-- With fields of 16 bytes, the frame of `@a/b.lua` stores `a/b.lua` in `source.path` and its
file name `b.lua` in `source.name`, both as C strings. -/
theorem short_source_stored_lua :
    ((sourceText luaSource).length < min 1024 nextOnly.sourcePathSize ∧
      (baseName luaSource).length < min 256 nextOnly.sourceNameSize) ∧
    (∃ p, (stackFrameOf nextOnly 0 luaSource).sourcePath = some p ∧ nul ∈ p ∧
      cstr p = sourceText luaSource) ∧
    (∃ n dir, (stackFrameOf nextOnly 0 luaSource).sourceName = some n ∧ nul ∈ n ∧
      sourceText luaSource = dir ++ cstr n ∧ '/' ∉ cstr n ∧
      (dir = [] ∨ dir.getLast? = some '/')) :=
  have hp : (sourceText luaSource).length < min 1024 nextOnly.sourcePathSize := by decide
  have hn : (baseName luaSource).length < min 256 nextOnly.sourceNameSize := by decide
  ⟨⟨hp, hn⟩, (short_source_stored nextOnly 0 luaSource).1 hp,
    (short_source_stored nextOnly 0 luaSource).2 hn⟩

/-! ## The function name -/

/-- The C string `funcname` points at: the entry's name, `"?"` when it has none. -/
def funcname (entry : LuaFrame) : List Char := cstr (entry.name.getD "?".toList)

/-- `strncpy (dst, src, n)` of a C string: shorter than `n`, it is stored whole with its NUL;
`n` characters or more, its first `n` are stored and no NUL. -/
theorem strncpy_cstr (n : Nat) (src : List Char) :
    ((cstr src).length < n → nul ∈ strncpy n src ∧ cstr (strncpy n src) = cstr src) ∧
    (n ≤ (cstr src).length → strncpy n src = (cstr src).take n ∧ nul ∉ strncpy n src) := by
  have hnul := nul_not_mem_cstr src
  have hc : strncpy n src = strncpy n (cstr src) :=
    strncpy_congr (cstr_of_nul_not_mem hnul).symm
  refine ⟨fun h => hc ▸ strncpy_of_lt hnul h, fun h => ?_⟩
  rw [hc, strncpy_of_le hnul h]
  exact ⟨rfl, fun hm => hnul (List.mem_of_mem_take hm)⟩

/-- **A long function name is stored without its NUL.** The stack trace of any stack, for any
`levels`, counts `min (max levels 0) (min MAX_STACK_FRAMES L.length)` frames, none past
`MAX_STACK_FRAMES`, and frame `i` describes level `i`: its id, its current line, and a `name`
that holds the level's `funcname` whole, as a C string, when it is shorter than the field, but
only the field's first characters, with no NUL, when it is as long as the field or longer. -/
theorem long_function_name_unterminated (L : List LuaFrame) (s : Session) (req : Request) :
    ∃ frames : List StackFrame, handleStackTraceRequest P L s req =
        s.send (.response { makeSuccessResponse req .stackTraceResponse with
          body := .stackTrace frames frames.length }) ∧
      (frames.length : Int) = min (max req.levels 0) (min (P.maxStackFrames : Int) L.length) ∧
      frames.length ≤ P.maxStackFrames ∧
      ∀ i (hi : i < frames.length), ∃ e, L[i]? = some e ∧ frames[i].id = i ∧
        frames[i].line = e.currentline ∧
        ((funcname e).length < P.frameNameSize →
          nul ∈ frames[i].name ∧ cstr frames[i].name = funcname e) ∧
        (P.frameNameSize ≤ (funcname e).length →
          frames[i].name = (funcname e).take P.frameNameSize ∧ nul ∉ frames[i].name) := by
  obtain ⟨frames, h, hn, hcap, hall⟩ := stack_trace_frames P L s req
  refine ⟨frames, h, hn, hcap, fun i hi => ?_⟩
  obtain ⟨e, he, hid, hline, hname⟩ := hall i hi
  exact ⟨e, he, hid, hline, hname ▸ strncpy_cstr _ _⟩

/-- A frame of the function `handle_all_requests`, nineteen characters, at line 1. -/
def handlerFrame : LuaFrame := ⟨"@a.lua".toList, 1, some "handle_all_requests".toList, 0, []⟩

/-- A stack trace request for up to 20 levels. -/
def traceRequest : Request := ⟨.stackTraceRequest, 3, "stackTrace".toList, [], 20, 0, 0⟩

/-- With a `name` field of 16 bytes, the one frame of `handlerFrame`'s stack is named
`handle_all_reque`, with no NUL. -/
theorem long_function_name_unterminated_handler :
    ∃ frames : List StackFrame,
      handleStackTraceRequest nextOnly [handlerFrame] (initial []) traceRequest =
        (initial []).send (.response { makeSuccessResponse traceRequest .stackTraceResponse with
          body := .stackTrace frames frames.length }) ∧
      frames.map StackFrame.name = ["handle_all_reque".toList] ∧
      ∀ f ∈ frames, nul ∉ f.name := by
  obtain ⟨frames, h, hn, -, hall⟩ :=
    long_function_name_unterminated nextOnly [handlerFrame] (initial []) traceRequest
  obtain ⟨f, rfl⟩ : ∃ f, frames = [f] := List.length_eq_one.1 (by
    have : (frames.length : Int) = 1 := hn.trans (by decide)
    omega)
  obtain ⟨e, he, -, -, -, hlong⟩ := hall 0 (by simp)
  cases he
  obtain ⟨hname, hnul⟩ := hlong (by decide)
  exact ⟨[f], h, congrArg (· :: []) (hname.trans (by decide)), by simpa using hnul⟩

end RaviDebug
