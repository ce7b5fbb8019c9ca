import RaviDebug.Spec.Protocol

/-!
# Writing a message

Each `send_*` function of `ravidebug.c` serializes the message into `char buf [1024]` with
`vscode_serialize_response` or `vscode_serialize_event`, logs it with
`fprintf (log, "%s\n", buf)`, and writes it with `fprintf (out, buf)`. The two serializers are
in `protocol.c`, which is not among the sources: they are modelled from the spec's write
contract and its response and event schema (§4.1, §6). The adapter's sequence number is the
argument `seq`.
-/

namespace RaviDebug

/-! ## JSON text -/

/-- Modelled from the spec: a character of a JSON string, `"` and `\` escaped and control
characters written as `\u00XX`. -/
def jsonChar (c : Char) : List Char :=
  if c = '"' then ['\\', '"']
  else if c = '\\' then ['\\', '\\']
  else if c.toNat < 32 then
    ['\\', 'u', '0', '0', Nat.digitChar (c.toNat / 16), Nat.digitChar (c.toNat % 16)]
  else [c]

/-- Modelled from the spec: the JSON string of the C string `s`. -/
def jsonString (s : List Char) : List Char := '"' :: (cstr s).flatMap jsonChar ++ ['"']

/-- Modelled from the spec: a JSON integer. -/
def jsonInt (n : Int) : List Char :=
  if n < 0 then '-' :: Nat.toDigits 10 n.natAbs else Nat.toDigits 10 n.natAbs

/-- Modelled from the spec: a JSON boolean. -/
def jsonBool (b : Bool) : List Char := if b then "true".toList else "false".toList

/-- Modelled from the spec: `"key":value`. -/
def jsonField (key value : List Char) : List Char := jsonString key ++ ':' :: value

/-- Modelled from the spec: a JSON object of the fields given. -/
def jsonObject (fields : List (List Char)) : List Char :=
  '{' :: List.intercalate [','] fields ++ ['}']

/-- Modelled from the spec: a JSON array. -/
def jsonArray (items : List (List Char)) : List Char :=
  '[' :: List.intercalate [','] items ++ [']']

/-! ## The schema -/

/-- Modelled from the spec: a stack frame; `none` when a source field was filled by reading
past an array, which the serializer then reads. -/
def serializeStackFrame (f : StackFrame) : Option (List Char) := do
  let sourceName ← f.sourceName
  let sourcePath ← f.sourcePath
  return jsonObject [jsonField "id".toList (jsonInt f.id), jsonField "name".toList (jsonString f.name),
    jsonField "source".toList (jsonObject [jsonField "name".toList (jsonString sourceName),
      jsonField "path".toList (jsonString sourcePath)]),
    jsonField "line".toList (jsonInt f.line)]

/-- Modelled from the spec: a scope. -/
def serializeScope (sc : Scope) : List Char :=
  jsonObject [jsonField "name".toList (jsonString sc.name),
    jsonField "variablesReference".toList (jsonInt sc.variablesReference),
    jsonField "expensive".toList (jsonBool sc.expensive)]

/-- Modelled from the spec: the body of a response; the entries of `variables` whose name is
empty are not listed. -/
def serializeBody : ResponseBody → Option (List Char)
  | .none => some (jsonObject [])
  | .capabilities b =>
    some (jsonObject [jsonField "supportsConfigurationDoneRequest".toList (jsonBool b)])
  | .threads id name =>
    some (jsonObject [jsonField "threads".toList (jsonArray [jsonObject
      [jsonField "id".toList (jsonInt id), jsonField "name".toList (jsonString name)]])])
  | .stackTrace frames total => do
    let items ← frames.mapM serializeStackFrame
    return jsonObject [jsonField "stackFrames".toList (jsonArray items),
      jsonField "totalFrames".toList (jsonInt total)]
  | .scopes scopes =>
    some (jsonObject [jsonField "scopes".toList (jsonArray (scopes.map serializeScope))])
  | .variables names =>
    some (jsonObject [jsonField "variables".toList (jsonArray
      ((names.filter fun n => cstr n ≠ []).map fun n =>
        jsonObject [jsonField "name".toList (jsonString n)]))])

/-- Modelled from the spec: the JSON body of a response. -/
def serializeResponse (seq : Nat) (r : Response) : Option (List Char) := do
  let body ← serializeBody r.body
  return jsonObject ([jsonField "seq".toList (jsonInt seq),
    jsonField "type".toList (jsonString "response".toList),
    jsonField "request_seq".toList (jsonInt r.requestSeq),
    jsonField "command".toList (jsonString r.command),
    jsonField "success".toList (jsonBool r.success)] ++
    (if r.success then [] else [jsonField "message".toList (jsonString r.message)]) ++
    [jsonField "body".toList body])

/-- Modelled from the spec: the name and body of an event; `none` for an `output` event whose
text is a NULL pointer. -/
def eventFields : Event → Option (List Char × List Char)
  | .initialized => some ("initialized".toList, jsonObject [])
  | .stopped reason => some ("stopped".toList, jsonObject [jsonField "reason".toList
      (jsonString reason), jsonField "threadId".toList (jsonInt 1)])
  | .thread started => some ("thread".toList, jsonObject [jsonField "reason".toList
      (jsonString (if started then "started".toList else "exited".toList)),
      jsonField "threadId".toList (jsonInt 1)])
  | .terminated => some ("terminated".toList, jsonObject [])
  | .output text => text.map fun t => ("output".toList, jsonObject
      [jsonField "category".toList (jsonString "console".toList),
        jsonField "output".toList (jsonString t)])

/-- Modelled from the spec: the JSON body of an event. -/
def serializeEvent (seq : Nat) (e : Event) : Option (List Char) := do
  let (name, body) ← eventFields e
  return jsonObject [jsonField "seq".toList (jsonInt seq),
    jsonField "type".toList (jsonString "event".toList),
    jsonField "event".toList (jsonString name), jsonField "body".toList body]

/-- Modelled from the spec: the framed message, a `Content-Length` header before the JSON
body. -/
def serialize (seq : Nat) (m : Message) : Option (List Char) := do
  let body ← match m with
    | .response r => serializeResponse seq r
    | .event e => serializeEvent seq e
  return "Content-Length: ".toList ++ Nat.toDigits 10 body.length ++ "\r\n\r\n".toList ++ body

/-- Modelled from the spec: `vscode_serialize_response (buf, n, res)` and
`vscode_serialize_event (buf, n, res)`: the serialization written into `buf` of `n` bytes as
`snprintf` writes it, cut to `n - 1` bytes. -/
def vscodeSerialize (n seq : Nat) (m : Message) : Option (List Char) :=
  (serialize seq m).map (snprintf n)

/-! ## The two writes -/

/-- The bytes `send_*` writes to `out`: `fprintf (out, buf)`, `buf` the message serialized
into `char buf [1024]`. -/
def written (seq : Nat) (m : Message) : Option (List Char) :=
  (vscodeSerialize 1024 seq m).bind fun buf => printfNoArgs (cstr buf)

/-- The bytes `send_*` writes to the log: `fprintf (log, "%s\n", buf)`. -/
def logged (seq : Nat) (m : Message) : Option (List Char) :=
  (vscodeSerialize 1024 seq m).map fun buf => cstr buf ++ ['\n']

end RaviDebug
