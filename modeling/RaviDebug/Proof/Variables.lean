import RaviDebug.Proof.Lifecycle

/-!
# Scopes and variables

`handle_scopes_request` encodes a scope of frame `d` as the handle `1000000 + d` (Locals),
`2000000 + d` (Up Values) or `3000000 + d` (Globals), and `handle_variables_request` decodes it
back (`decodeVarRef_handle`) for every frame below `10 ^ 6`, the cap the encoding assumes, so
no two scopes share a handle, and the scopes response lists each scope of a frame under its
name with its handle (`handleScopesRequest_scopes`, `handle_round_trip`). The decoder does not bound a handle from
below: for the references under `INT_MIN + 1000000` the depth `varRef - 1000000` overflows
(`decodeVarRef_int_range`). And it answers only Locals handles: every other one gets the error
`Error retrieving variables` (`scopes_handles`), the Globals handle of the main chunk's frame
included (`globals_handle_refused`).

For a Locals handle the loop over `lua_getlocal` never advances `x`: each name it finds is
copied into `variables [0]`, so the response holds the last name found and nothing else
(`handleVariablesRequest_of_locals`, `two_locals_keep_last`): no Locals response lists two
variables (`locals_one_name`).
-/

namespace RaviDebug

variable (P : Protocol)

/-! ## Handles -/

section Handles

variable {d : Int}

/-- The three scopes `handle_scopes_request` lists. -/
inductive ScopeKind
  | locals
  | upValues
  | globals
  deriving DecidableEq, Repr

/-- The handle `handle_scopes_request` gives the scope `k` of the frame at `depth`. -/
def ScopeKind.handle : ScopeKind → Int → Int
  | .locals, depth => 1000000 + depth
  | .upValues, depth => 2000000 + depth
  | .globals, depth => 3000000 + depth

/-- The `type` `handle_variables_request` decodes for the scope `k`. -/
def ScopeKind.type : ScopeKind → Char
  | .locals => 'l'
  | .upValues => 'u'
  | .globals => 'g'

/-- The name `handle_scopes_request` gives the scope `k`. -/
def ScopeKind.name : ScopeKind → List Char
  | .locals => "Locals".toList
  | .upValues => "Up Values".toList
  | .globals => "Globals".toList

/-- The entry of `scopes` that `handle_scopes_request` fills for the scope `k` of the frame at
`depth`: its name copied into the field, its handle, and `expensive` for Globals alone. -/
def ScopeKind.scope (k : ScopeKind) (depth : Int) : Scope :=
  ⟨strncpy P.scopeNameSize k.name, k.handle depth, decide (k = .globals)⟩

/-- The scopes `handle_scopes_request` lists for a frame: Locals, Up Values when the frame has
upvalues, then Globals. -/
def scopeKinds (entry : LuaFrame) : List ScopeKind :=
  .locals :: ((if 0 < entry.nups then [.upValues] else []) ++ [.globals])

theorem ScopeKind.type_injective : Function.Injective ScopeKind.type := by
  intro a b h
  cases a <;> cases b <;> simp_all [ScopeKind.type]

/-- The range tests of `handle_variables_request` take each handle of a frame below `10 ^ 6`
back to its scope and the frame's depth. -/
theorem decodeVarRef_handle (k : ScopeKind) (h0 : 0 ≤ d) (h1 : d < 1000000) :
    decodeVarRef (k.handle d) = (k.type, d) := by
  unfold decodeVarRef
  cases k
  · rw [ScopeKind.handle, if_neg (by omega), if_neg (by omega), Prod.mk.injEq]
    exact ⟨rfl, by omega⟩
  · rw [ScopeKind.handle, if_neg (by omega), if_pos (by omega), Prod.mk.injEq]
    exact ⟨rfl, by omega⟩
  · rw [ScopeKind.handle, if_pos (by omega), Prod.mk.injEq]
    exact ⟨rfl, by omega⟩

/-- `handle_scopes_request` on a frame that exists, in closed form: the response lists the
frame's `scopeKinds`, each as `ScopeKind.scope`. -/
theorem handleScopesRequest_scopes {L : List LuaFrame} {s : Session} {req : Request}
    {entry : LuaFrame} (he : getstack L req.frameId = some entry) :
    handleScopesRequest P L s req = s.send (.response { makeSuccessResponse req .scopesResponse with
      body := .scopes ((scopeKinds entry).map (·.scope P req.frameId)) }) := by
  simp only [handleScopesRequest, he, scopeKinds]
  split_ifs <;> rfl

/-- **A handle decodes back to its scope.** For a frame below `10 ^ 6`, the handle of each of
its scopes decodes to that scope's `type` and the frame's depth, so no two scopes of frames in
that range share a handle; and when the frame exists and has the scope, the scopes response
lists the scope under its name, with that handle. -/
theorem handle_round_trip (k : ScopeKind) (h0 : 0 ≤ d) (h1 : d < 1000000) :
    decodeVarRef (k.handle d) = (k.type, d) ∧
      (∀ (k' : ScopeKind) (d' : Int), 0 ≤ d' → d' < 1000000 → k'.handle d' = k.handle d →
        k' = k ∧ d' = d) ∧
      ∀ (L : List LuaFrame) (s : Session) (req : Request) (entry : LuaFrame), req.frameId = d →
        getstack L d = some entry → k ∈ scopeKinds entry →
        ∃ scopes, handleScopesRequest P L s req = s.send (.response
            { makeSuccessResponse req .scopesResponse with body := .scopes scopes }) ∧
          ∃ sc ∈ scopes, sc.name = strncpy P.scopeNameSize k.name ∧
            decodeVarRef sc.variablesReference = (k.type, d) := by
  refine ⟨decodeVarRef_handle k h0 h1, fun k' d' h0' h1' he => ?_,
    fun L s req entry hd he hk => ?_⟩
  · have h := decodeVarRef_handle k' h0' h1'
    rw [he, decodeVarRef_handle k h0 h1, Prod.mk.injEq] at h
    exact ⟨ScopeKind.type_injective h.1.symm, h.2.symm⟩
  · subst hd
    exact ⟨_, handleScopesRequest_scopes P he, _, List.mem_map_of_mem _ hk, rfl,
      decodeVarRef_handle k h0 h1⟩

/-- The Up Values of the frame at depth `999999`, the last below the cap. -/
theorem handle_round_trip_last_frame :
    (0 ≤ (999999 : Int) ∧ (999999 : Int) < 1000000) ∧
      decodeVarRef (ScopeKind.upValues.handle 999999) = (ScopeKind.upValues.type, 999999) ∧
      (∀ (k' : ScopeKind) (d' : Int), 0 ≤ d' → d' < 1000000 →
        k'.handle d' = ScopeKind.upValues.handle 999999 → k' = .upValues ∧ d' = 999999) ∧
      ∀ (L : List LuaFrame) (s : Session) (req : Request) (entry : LuaFrame),
        req.frameId = 999999 → getstack L 999999 = some entry → .upValues ∈ scopeKinds entry →
        ∃ scopes, handleScopesRequest nextOnly L s req = s.send (.response
            { makeSuccessResponse req .scopesResponse with body := .scopes scopes }) ∧
          ∃ sc ∈ scopes, sc.name = strncpy nextOnly.scopeNameSize ScopeKind.upValues.name ∧
            decodeVarRef sc.variablesReference = (ScopeKind.upValues.type, 999999) :=
  ⟨⟨by decide, by decide⟩, handle_round_trip nextOnly .upValues (by decide) (by decide)⟩

/-- **The decoded depth overflows** for the 32-bit references below `INT_MIN + 1000000`, and
only for those: there `varRef - 1000000` leaves the range of `int`. -/
theorem decodeVarRef_int_range (v : Int) (h0 : -2 ^ 31 ≤ v) (h1 : v < 2 ^ 31) :
    (-2 ^ 31 ≤ (decodeVarRef v).2 ∧ (decodeVarRef v).2 < 2 ^ 31) ↔ -2 ^ 31 + 1000000 ≤ v := by
  unfold decodeVarRef
  split_ifs <;> simp only <;> omega

/-- `INT_MIN`, decoded as the Locals of the frame at depth `INT_MIN - 1000000`. -/
theorem decodeVarRef_int_min :
    (-2 ^ 31 ≤ (-2 ^ 31 : Int) ∧ (-2 ^ 31 : Int) < 2 ^ 31) ∧
      ¬ (-2 ^ 31 ≤ (decodeVarRef (-2 ^ 31)).2 ∧ (decodeVarRef (-2 ^ 31)).2 < 2 ^ 31) :=
  ⟨⟨by decide, by decide⟩,
    fun h => absurd ((decodeVarRef_int_range (-2 ^ 31) (by decide) (by decide)).1 h) (by decide)⟩

end Handles


/-! ## `handle_variables_request` -/

/-- The loop over `lua_getlocal` from local `n`, `k` passes: `variables [x]` ends up holding
the last name it finds, and the other entries are as they were. -/
theorem getLocalsLoop_fst (entry : LuaFrame) (x : Nat) : ∀ (k n : Nat) (names : List (List Char))
    (s : Session), 1 ≤ n → (getLocalsLoop P entry x k n names s).1 =
      match ((entry.locals.drop (n - 1)).take k).getLast? with
      | none => names
      | some name => names.set x (strncpy P.variableNameSize name)
  | 0, _, _, _, _ => by simp [getLocalsLoop]
  | k + 1, n, names, s, hn => by
    unfold getLocalsLoop
    rcases hl : getlocal entry n with _ | name
    · have : entry.locals.drop (n - 1) = [] := by
        simpa [getlocal, List.getElem?_eq_none_iff] using hl
      simp [this]
    · have hd : entry.locals.drop (n - 1) = name :: entry.locals.drop n := by
        obtain ⟨hlt, hget⟩ := List.getElem?_eq_some_iff.1 hl
        rw [List.drop_eq_getElem_cons hlt, hget, Nat.sub_add_cancel hn]
      rw [getLocalsLoop_fst entry x k (n + 1) _ _ (by omega), hd, List.take_succ_cons,
        Nat.add_sub_cancel]
      cases h : (List.take k (List.drop n entry.locals)).getLast? with
      | none => simp [List.getLast?_eq_none_iff.1 h]
      | some name' =>
        simp [List.getLast?_cons, h, List.set_set]

/-- **What a Locals handle gets**: a success response whose `variables` array is the zeroed
array with, at index 0, the last of the names `lua_getlocal` finds for indices
`1 .. MAX_VARIABLES - 1`. -/
theorem handleVariablesRequest_of_locals {L : List LuaFrame} {s : Session} {req : Request}
    {d : Int} {entry : LuaFrame} (hd : decodeVarRef req.variablesReference = ('l', d))
    (he : getstack L d = some entry) :
    handleVariablesRequest P L s req = s.send (.response { makeSuccessResponse req .variablesResponse with
      body := .variables (match (entry.locals.take (P.maxVariables - 1)).getLast? with
        | none => List.replicate P.maxVariables (List.replicate P.variableNameSize nul)
        | some name => (List.replicate P.maxVariables (List.replicate P.variableNameSize nul)).set 0
            (strncpy P.variableNameSize name)) }) := by
  simp only [handleVariablesRequest, hd, if_true, he]
  rw [getLocalsLoop_eq, getLocalsLoop_fst P entry 0 _ 1 _ s le_rfl]
  rfl

theorem handleVariablesRequest_of_not_locals {L : List LuaFrame} {s : Session} {req : Request}
    (hd : (decodeVarRef req.variablesReference).1 ≠ 'l') :
    handleVariablesRequest P L s req =
      s.send (.response
        (makeErrorResponse req .variablesResponse "Error retrieving variables".toList)) := by
  rcases h : decodeVarRef req.variablesReference with ⟨type, depth⟩
  rw [h] at hd
  simp only [handleVariablesRequest, h, if_neg hd]

/-- A frame with the locals `a` and `b`. -/
def twoLocals : LuaFrame := ⟨"@/a/b.lua".toList, 2, none, 0, ["a".toList, "b".toList]⟩

/-- A variables request for the Locals of frame 0. -/
def localsRequest : Request := ⟨.variablesRequest, 7, "variables".toList, [], 0, 0, 1000000⟩

/-- The locals `a` and `b` of frame 0: the response lists `b` alone. -/
theorem two_locals_keep_last :
    ∃ names, handleVariablesRequest nextOnly [twoLocals] (initial []) localsRequest =
      (initial []).send (.response { makeSuccessResponse localsRequest .variablesResponse with
        body := .variables names }) ∧
      (names.map cstr).filter (· ≠ []) = ["b".toList] :=
  ⟨_, handleVariablesRequest_of_locals nextOnly (d := 0) rfl rfl, by decide⟩

@[simp] theorem cstr_replicate_nul (n : Nat) : cstr (List.replicate n nul) = [] := by
  cases n <;> simp [cstr, List.replicate_succ]

/-- **A Locals response names one variable at most.** For every frame and every Locals handle
of it, the `variables` array holds at most one entry with a name, the others all NUL: the loop
over `lua_getlocal` never advances `x`, so the response never lists two variables. -/
theorem locals_one_name {L : List LuaFrame} {s : Session} {req : Request} {d : Int}
    {entry : LuaFrame} (hd : decodeVarRef req.variablesReference = ('l', d))
    (he : getstack L d = some entry) :
    ∃ names, handleVariablesRequest P L s req =
        s.send (.response { makeSuccessResponse req .variablesResponse with
          body := .variables names }) ∧
      ((names.map cstr).filter (· ≠ [])).length ≤ 1 := by
  refine ⟨_, handleVariablesRequest_of_locals P hd he, ?_⟩
  split
  · simp
  · cases P.maxVariables <;> simp [List.replicate_succ, List.filter_cons]
    split <;> simp

/-- The locals `a` and `b` of frame 0: one variable listed. -/
theorem locals_one_name_two_locals :
    (decodeVarRef localsRequest.variablesReference = ('l', 0) ∧
      getstack [twoLocals] 0 = some twoLocals) ∧
    ∃ names, handleVariablesRequest nextOnly [twoLocals] (initial []) localsRequest =
        (initial []).send (.response { makeSuccessResponse localsRequest .variablesResponse with
          body := .variables names }) ∧
      ((names.map cstr).filter (· ≠ [])).length ≤ 1 :=
  ⟨⟨rfl, rfl⟩, locals_one_name nextOnly rfl rfl⟩

/-! ## A scope's handle, sent back -/

/-- **The scopes of a frame, and their handles sent back.** For a frame below `10 ^ 6` that
exists, the scopes response lists Locals, Up Values when the frame has upvalues, and Globals,
under those names, with the handles `1000000`, `2000000` and `3000000` past the frame's depth;
sent back in a
variables request while the stack is the same, the Locals handle gets a success response, and
the Up Values and Globals handles the error `Error retrieving variables`. -/
theorem scopes_handles (L : List LuaFrame) (s s' : Session) (req vreq : Request)
    {entry : LuaFrame} (he : getstack L req.frameId = some entry) (hlt : req.frameId < 1000000) :
    ∃ scopes, handleScopesRequest P L s req =
        s.send (.response { makeSuccessResponse req .scopesResponse with body := .scopes scopes }) ∧
      scopes.map Scope.variablesReference = (1000000 + req.frameId) ::
        ((if 0 < entry.nups then [2000000 + req.frameId] else []) ++ [3000000 + req.frameId]) ∧
      scopes.map Scope.name = ("Locals".toList ::
        ((if 0 < entry.nups then ["Up Values".toList] else []) ++ ["Globals".toList])).map
          (strncpy P.scopeNameSize) ∧
      ∀ sc ∈ scopes, vreq.variablesReference = sc.variablesReference →
        ∃ r, handleVariablesRequest P L s' vreq = s'.send (.response r) ∧ r.requestSeq = vreq.seq ∧
          (r.success = true ↔ sc.variablesReference = 1000000 + req.frameId) ∧
          (r.success = false → r.message = "Error retrieving variables".toList) := by
  have h0 : 0 ≤ req.frameId := by
    by_contra h
    simp [getstack, h] at he
  refine ⟨_, handleScopesRequest_scopes P he, by simp only [scopeKinds]; split_ifs <;> rfl,
    by simp only [scopeKinds]; split_ifs <;> rfl, fun sc hsc hv => ?_⟩
  obtain ⟨k, -, rfl⟩ := List.mem_map.1 hsc
  have hd : decodeVarRef vreq.variablesReference = (k.type, req.frameId) :=
    hv ▸ decodeVarRef_handle k h0 hlt
  by_cases hl : k = .locals
  · subst hl
    exact ⟨_, handleVariablesRequest_of_locals P hd he, rfl,
      by simp [makeSuccessResponse, ScopeKind.scope, ScopeKind.handle], by simp [makeSuccessResponse]⟩
  · have hne : (k.scope P req.frameId).variablesReference ≠ 1000000 + req.frameId := by
      cases k
      · exact absurd rfl hl
      all_goals simp only [ScopeKind.scope, ScopeKind.handle]; omega
    have hnl : (decodeVarRef vreq.variablesReference).1 ≠ 'l' := by
      rw [hd]
      exact fun h => hl (ScopeKind.type_injective h)
    exact ⟨_, handleVariablesRequest_of_not_locals P hnl, rfl, by simp [makeErrorResponse, hne],
      fun _ => rfl⟩

/-- A frame of the main chunk, with no upvalues and no locals. -/
def mainFrame : LuaFrame := ⟨"@/a/b.lua".toList, 1, none, 0, []⟩

/-- A scopes request for frame 0. -/
def scopesRequest : Request := ⟨.scopesRequest, 6, "scopes".toList, [], 0, 0, 0⟩

theorem scopes_handles_main_frame :
    getstack [mainFrame] scopesRequest.frameId = some mainFrame ∧
    scopesRequest.frameId < 1000000 ∧
    ∃ scopes, handleScopesRequest nextOnly [mainFrame] (initial []) scopesRequest =
        (initial []).send (.response { makeSuccessResponse scopesRequest .scopesResponse with
          body := .scopes scopes }) ∧
      scopes.map Scope.variablesReference = (1000000 + scopesRequest.frameId) ::
        ((if 0 < mainFrame.nups then [2000000 + scopesRequest.frameId] else []) ++
          [3000000 + scopesRequest.frameId]) ∧
      scopes.map Scope.name = ("Locals".toList ::
        ((if 0 < mainFrame.nups then ["Up Values".toList] else []) ++ ["Globals".toList])).map
          (strncpy nextOnly.scopeNameSize) ∧
      ∀ sc ∈ scopes, localsRequest.variablesReference = sc.variablesReference →
        ∃ r, handleVariablesRequest nextOnly [mainFrame] (initial []) localsRequest =
            (initial []).send (.response r) ∧ r.requestSeq = localsRequest.seq ∧
          (r.success = true ↔ sc.variablesReference = 1000000 + scopesRequest.frameId) ∧
          (r.success = false → r.message = "Error retrieving variables".toList) :=
  ⟨rfl, by decide, scopes_handles nextOnly [mainFrame] (initial []) (initial []) scopesRequest
    localsRequest rfl (by decide)⟩

/-- The main chunk's frame: its scopes response lists Globals with the handle `3000000`, and a
variables request with that handle is answered with `success = false`. -/
theorem globals_handle_refused :
    ∃ scopes, handleScopesRequest nextOnly [mainFrame] (initial []) scopesRequest =
        (initial []).send (.response { makeSuccessResponse scopesRequest .scopesResponse with
          body := .scopes scopes }) ∧
      (⟨strncpy 16 "Globals".toList, 3000000, true⟩ : Scope) ∈ scopes ∧
      ∃ r, handleVariablesRequest nextOnly [mainFrame] (initial [])
          { localsRequest with variablesReference := 3000000 } = (initial []).send (.response r) ∧
        r.success = false :=
  ⟨_, rfl, by decide, _, rfl, rfl⟩

end RaviDebug
