import RaviDebug.Spec.Serialize
import RaviDebug.Proof.Lifecycle
import RaviDebug.Proof.Run
import RaviDebug.Proof.Framing

/-!
# What is written

`send_*` hands the serialized buffer to `fprintf (out, buf)`, which reads it as a format: the
bytes written are the buffer only when it holds no `%` (`written_eq_iff`). The log, written with
`fprintf (log, "%s\n", buf)`, gets the buffer as it is. So a `%` in any string that reaches a
message changes what the client receives: the error response to an unknown command `a%%b`
reaches the client as `a%b`, under a `Content-Length` that counts the bytes of `a%%b`
(`percent_command_rewritten`).

Every message goes through a buffer of 1024 bytes, and the diagnostic of a failed launch is
built in another buffer of 1024 bytes: a diagnostic that fills it cannot fit, with its framing,
in the buffer it is serialized into (`launch_diagnostic_cut_short`).

When the launched program raises an error, the error object is reported with
`lua_tostring (L, -1)`, which is NULL for every object but a string or a number: a program
that stops at its lines, stdin exhausted, then raises `error ({})` ends the launch with an
output event whose text is NULL (`launch_error_output_null`).
-/

namespace RaviDebug

variable (P : Protocol) (load : List Char → Except (List Char) Chunk)

/-! ## `fprintf (out, buf)` -/

theorem printfNoArgs_length {s t : List Char} (h : printfNoArgs s = some t) :
    t.length ≤ s.length := by
  induction s using printfNoArgs.induct generalizing t with
  | case1 => cases h; rfl
  | case2 r ih =>
    rw [printfNoArgs.eq_2, Option.map_eq_some'] at h
    obtain ⟨t', ht', rfl⟩ := h
    simpa using Nat.le_succ_of_le (ih ht')
  | case3 tail hn => rw [printfNoArgs.eq_3 tail hn] at h; cases h
  | case4 c r hn hc ih =>
    rw [printfNoArgs.eq_4 c r hn hc, Option.map_eq_some'] at h
    obtain ⟨t', ht', rfl⟩ := h
    simpa using ih ht'

/-- **`fprintf` with no arguments writes its format as it is exactly when it holds no `%`**:
`%%` loses a byte, and any other conversion reads an argument that is not there. -/
theorem printfNoArgs_eq_self_iff (s : List Char) : printfNoArgs s = some s ↔ '%' ∉ s := by
  induction s using printfNoArgs.induct with
  | case1 => simp [printfNoArgs]
  | case2 r _ =>
    simp only [printfNoArgs.eq_2, Option.map_eq_some', List.mem_cons, true_or, not_true_eq_false,
      iff_false, not_exists, not_and]
    intro t ht he
    have := printfNoArgs_length ht
    rw [(List.cons.inj he).2, List.length_cons] at this
    omega
  | case3 tail hn => simp [printfNoArgs.eq_3 tail hn]
  | case4 c r hn hc ih =>
    rw [printfNoArgs.eq_4 c r hn hc, List.mem_cons, not_or, ← ih]
    constructor
    · intro h
      obtain ⟨t, ht, he⟩ := Option.map_eq_some'.1 h
      exact ⟨fun h' => hc h'.symm, (List.cons.inj he).2 ▸ ht⟩
    · rintro ⟨-, h⟩
      simp [h]

/-- The bytes written for a message are its buffer exactly when the buffer is a C string and
holds no `%`. -/
theorem written_eq_iff {seq : Nat} {m : Message} {buf : List Char}
    (h : vscodeSerialize 1024 seq m = some buf) :
    written seq m = some buf ↔ cstr buf = buf ∧ '%' ∉ buf := by
  simp only [written, h, Option.some_bind]
  constructor
  · intro hw
    have hc : cstr buf = buf := (List.takeWhile_prefix _).eq_of_length
      (le_antisymm (List.takeWhile_prefix _).length_le ((printfNoArgs_length hw).trans le_rfl))
    rw [hc] at hw
    exact ⟨hc, (printfNoArgs_eq_self_iff buf).1 hw⟩
  · rintro ⟨hc, hp⟩
    rw [hc]
    exact (printfNoArgs_eq_self_iff buf).2 hp

/-- A request of a command the `switch` does not know, `a%%b`. -/
def percentRequest : Request := ⟨.other 99, 1, "a%%b".toList, [], 0, 0, 0⟩

set_option maxRecDepth 8192 in
/-- The error response to the unknown command `a%%b` is logged as its buffer, but the client
receives `a%b` where the buffer has `a%%b`, twice, under the `Content-Length` of the buffer. -/
theorem percent_command_rewritten (launch : Request → Session → Outcome Unit) (L : List LuaFrame)
    (s : Session) :
    ∃ r buf, dispatch P launch L s percentRequest = .ok true (s.send (.response r)) ∧
      vscodeSerialize 1024 1 (.response r) = some buf ∧
      logged 1 (.response r) = some (buf ++ ['\n']) ∧ written 1 (.response r) ≠ some buf :=
  ⟨_, _, rfl, rfl, by decide, by decide⟩

/-! ## Buffers of 1024 bytes -/

theorem length_le_flatMap_jsonChar : ∀ l : List Char, l.length ≤ (l.flatMap jsonChar).length
  | [] => le_rfl
  | c :: l => by
    have hc : (jsonChar c).length ≠ 0 := by unfold jsonChar; split_ifs <;> simp
    have := length_le_flatMap_jsonChar l
    simp only [List.flatMap_cons, List.length_append, List.length_cons]
    omega

/-- **A diagnostic that fills `temp` cannot be written whole.** When the program path and the
load error come to 991 bytes or more, the output event of a failed launch carries 1023 bytes of
diagnostic, and its serialization, with whatever sequence number, needs more than the 1023
bytes that `char buf [1024]` holds. -/
theorem launch_diagnostic_cut_short (fuel : Nat) (s : Session) (req : Request) (err : List Char)
    (hi : s.state = .initialized) (hl : load (cstr req.program) = .error err)
    (hlong : 991 ≤ (cstr req.program).length + (cstr err).length) (seq : Nat) :
    ∃ text s', handleLaunchRequest P load (fuel + 1) req s = .ok () s' ∧
      Obs.write (.event (.output (some text))) ∈ s'.trace ∧ text.length = 1023 ∧
      ∃ full, serialize seq (.event (.output (some text))) = some full ∧ 1023 < full.length := by
  set text := snprintf 1024
    ("Failed to launch ".toList ++ cstr req.program ++ " due to error: ".toList ++ cstr err)
  have hlen : text.length = 1023 := by
    simp only [text, snprintf, List.length_take, List.length_append]
    simp only [show "Failed to launch ".toList.length = 17 from rfl,
      show " due to error: ".toList.length = 15 from rfl]
    omega
  have hnul : nul ∉ text := by
    intro h
    replace h := List.mem_of_mem_take h
    simp only [List.mem_append] at h
    rcases h with ((h | h) | h) | h
    · exact absurd h (by decide)
    · exact nul_not_mem_cstr _ h
    · exact absurd h (by decide)
    · exact nul_not_mem_cstr _ h
  refine ⟨text, _, handleLaunchRequest_of_error P load hi hl, by simp [launchFailed, text], hlen, ?_⟩
  have hjson := length_le_flatMap_jsonChar (cstr text)
  rw [cstr_of_nul_not_mem hnul, hlen] at hjson
  refine ⟨_, rfl, ?_⟩
  simp only [jsonObject, jsonField, jsonString, cstr_of_nul_not_mem hnul, List.intercalate,
    List.intersperse_cons_cons, List.intersperse_singleton, List.flatten_cons, List.flatten_nil,
    List.length_append, List.length_cons]
  omega

/-- A launch of a program whose path is 991 bytes long. -/
def longLaunch : Request := ⟨.launchRequest, 2, "launch".toList, List.replicate 991 'a', 0, 0, 0⟩

theorem launch_diagnostic_cut_short_long_path :
    ({ initial [] with state := .initialized } : Session).state = .initialized ∧
    (fun _ => .error "cannot open".toList : List Char → Except (List Char) Chunk)
      (cstr longLaunch.program) = .error "cannot open".toList ∧
    991 ≤ (cstr longLaunch.program).length + (cstr "cannot open".toList).length ∧
    ∃ text s', handleLaunchRequest nextOnly (fun _ => .error "cannot open".toList) 1 longLaunch
        { initial [] with state := .initialized } = .ok () s' ∧
      Obs.write (.event (.output (some text))) ∈ s'.trace ∧ text.length = 1023 ∧
      ∃ full, serialize 1 (.event (.output (some text))) = some full ∧ 1023 < full.length := by
  have hlong : 991 ≤ (cstr longLaunch.program).length + (cstr "cannot open".toList).length := by
    rw [longLaunch, cstr_of_nul_not_mem fun h => absurd (List.mem_replicate.1 h).2 (by decide),
      List.length_replicate]
    exact Nat.le_add_right _ _
  exact ⟨rfl, rfl, hlong, launch_diagnostic_cut_short nextOnly (fun _ => .error "cannot open".toList)
    0 { initial [] with state := .initialized } longLaunch "cannot open".toList rfl rfl hlong 1⟩

/-! ## The end of a run -/

/-- **A hook call once `stdin` is exhausted**: `debugger` stops, its loop meets the end of the
input at once, and the program runs on, the session having only gained observations. -/
theorem debugger_input_nil (fuel : Nat) (L : List LuaFrame) {s : Session} (hin : s.input = [])
    (hr : s.state = .programRunning) :
    ∃ s', debugger P load (fuel + 2) L s = .ok () s' ∧ s'.state = .programRunning ∧ Later s s' := by
  have hrd : readFrame (stopAtLine s).input = .endOfInput := by rw [stopAtLine_input, hin]; rfl
  rw [debugger_succ, if_neg (by rw [hr]; decide), if_pos hr]
  simp only [dispatchLoop, hrd, Outcome.ok_bind]
  refine ⟨_, rfl, rfl, Later.setState ?_ _ _⟩
  exact (later_stopAtLine s).trans ⟨List.prefix_refl _, List.nil_suffix⟩

/-- The program's run once `stdin` is exhausted: every hook call returns, the program running
on. -/
theorem forEach_input_nil (fuel : Nat) : ∀ (evs : List HookEvent) {s : Session},
    s.input = [] → s.state = .programRunning →
    ∃ s', forEach (raviDebughook (debugger P load (fuel + 2))) evs s = .ok () s' ∧
      s'.state = .programRunning ∧ Later s s'
  | [], s, _, hr => ⟨s, rfl, hr, .refl s⟩
  | e :: evs, s, hin, hr => by
    obtain ⟨s₁, h₁, hr₁, hl₁⟩ : ∃ s₁, raviDebughook (debugger P load (fuel + 2)) e s = .ok () s₁ ∧
        s₁.state = .programRunning ∧ Later s s₁ := by
      unfold raviDebughook
      split
      · obtain ⟨s₁, h₁, hr₁, hl₁⟩ := debugger_input_nil P load fuel e.stack (s := { s with
          trace := s.trace ++ [.lineHook] }) hin hr
        exact ⟨s₁, h₁, hr₁, (Later.refl s).record .lineHook (List.suffix_refl _) |>.trans hl₁⟩
      · exact ⟨s, rfl, hr, .refl s⟩
    obtain ⟨s₂, h₂, hr₂, hl₂⟩ :=
      forEach_input_nil fuel evs (List.eq_nil_of_suffix_nil (hin ▸ hl₁.input)) hr₁
    exact ⟨s₂, by rw [forEach, h₁, Outcome.ok_bind, h₂], hr₂, hl₁.trans hl₂⟩

/-- **An error object with no string is reported as a NULL text.** A program that loads, stops
at each of its lines (whatever they are) with `stdin` exhausted, so that each hook's loop ends
at once, and then raises an error object that `lua_tostring` does not convert (a table, `nil`,
a boolean, ...): the launch returns, having written its success response, what the hook calls
wrote, the output event `Program terminated with error`, an output event whose text is NULL,
then the terminated event, and leaves the state Terminated. -/
theorem launch_error_output_null (fuel : Nat) (req : Request) (s : Session) {chunk : Chunk}
    {v : LuaValue} (hi : s.state = .initialized) (hl : load (cstr req.program) = .ok chunk)
    (hin : s.input = []) (he : chunk.error = some v) (hv : v.tostring = none) :
    ∃ s' run, handleLaunchRequest P load (fuel + 3) req s = .ok () s' ∧
      s'.state = .programTerminated ∧
      s'.trace = s.trace ++ [.write (.response (makeSuccessResponse req .launchResponse)),
        .setState .initialized .programRunning .launchRequest] ++ run ++
        [.write (.event (.output (some "Program terminated with error".toList))),
        .write (.event (.output none)), .write (.event .terminated),
        .setState .programRunning .programTerminated .programReturned] := by
  rw [handleLaunchRequest_of_ok P load hi hl]
  obtain ⟨s₂, h₂, hr₂, ⟨run, hrun⟩, -⟩ :=
    forEach_input_nil P load fuel chunk.events (s := (sendSuccessResponse s.push req
      .launchResponse).setState .programRunning .launchRequest) (by simp [sendSuccessResponse, hin])
      (by simp)
  rw [h₂, Outcome.ok_bind]
  refine ⟨_, run, rfl, by simp [programReturned, he], ?_⟩
  simp [programReturned, he, hv, hr₂, ← hrun, hi]

/-- A launch of `a.lua`. -/
def launchA : Request := ⟨.launchRequest, 2, "launch".toList, "a.lua".toList, 0, 0, 0⟩

/-- A program that reaches one line, then raises `error ({})`. -/
def tableError : Chunk := ⟨[⟨.line, []⟩], some .table⟩

theorem launch_error_output_null_table :
    (({ initial [] with state := .initialized } : Session).state = .initialized ∧
      (fun _ => .ok tableError : List Char → Except (List Char) Chunk) (cstr launchA.program) =
        .ok tableError ∧
      ({ initial [] with state := .initialized } : Session).input = [] ∧
      tableError.error = some .table ∧ LuaValue.table.tostring = none) ∧
    ∃ s' run, handleLaunchRequest nextOnly (fun _ => .ok tableError) 3 launchA
        { initial [] with state := .initialized } = .ok () s' ∧
      s'.state = .programTerminated ∧
      s'.trace = [] ++ [.write (.response (makeSuccessResponse launchA .launchResponse)),
        .setState .initialized .programRunning .launchRequest] ++ run ++
        [.write (.event (.output (some "Program terminated with error".toList))),
        .write (.event (.output none)), .write (.event .terminated),
        .setState .programRunning .programTerminated .programReturned] :=
  ⟨⟨rfl, rfl, rfl, rfl, rfl⟩,
    launch_error_output_null nextOnly (fun _ => .ok tableError) 0 launchA
      { initial [] with state := .initialized } rfl rfl rfl rfl rfl⟩

end RaviDebug
