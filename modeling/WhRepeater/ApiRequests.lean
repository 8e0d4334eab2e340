import WhRepeater.ApiStatus
import WhRepeater.ConfigRead

/-! The requests of the API server (`api_server.cpp`), from what `recv` gives to
the response and the members after it. What the machine does for a request, with
its files, its lines and its services, is a parameter. -/
namespace WhRepeater

open TextScan

namespace ApiServer

/-- What the machine answers, without an exception. -/
structure Machine where
  now : Time
  home : Option Bytes
  systemStats : Bytes → Bytes
  printDouble : DoubleBits → Bytes
  /-- The level, or the text of the error. -/
  gpioReadLine : Bytes → UInt32 → Bool → Except Bytes Bool
  /-- The text of the error, if there is one. -/
  gpioWriteLine : Bytes → UInt32 → Bool → Bool → Option Bytes
  /-- The names and paths of the regular files of a directory, and the error it ends with. -/
  directory : Bytes → List (Bytes × Bytes) × Option Bytes
  serviceActive : Bytes → Bool
  /-- The status of `systemctl` with an action and a service. -/
  serviceAction : Bytes → Bytes → Int
  /-- The text of the error, if the Pi was not restarted. -/
  restartService : PiStatusConfig → Option Bytes

/-- A response, always of `application/json`. -/
structure Response where
  status : Nat
  reason : String
  body : Bytes
  deriving DecidableEq

def Response.rejects (response : Response) : Prop := 400 ≤ response.status ∧ response.status < 500

def errorBody (message : Bytes) : Bytes := object [member "error" (jsonString message)] ++ bytes "\n"

def ok (body : Bytes) : Response := ⟨200, "OK", body⟩
def accepted (members : List Bytes) : Response :=
  ⟨202, "Accepted", object (member "accepted" (bytes "true") :: members) ++ bytes "\n"⟩
def badRequest (message : String) : Response := ⟨400, "Bad Request", errorBody (bytes message)⟩
def failure (message : Bytes) : Response := ⟨500, "Internal Server Error", errorBody message⟩

/-! ## Reading a request -/

def headerEnd : Bytes := bytes "\r\n\r\n"

/-- The digits behind the first header of that name. -/
def contentLengthDigits (request : Bytes) : Bytes :=
  match find request (bytes "Content-Length:") 0 with
  | none => []
  | some position =>
    ((request.drop (position + (bytes "Content-Length:").length)).dropWhile isSpace).takeWhile isDigit

def contentLength (request : Bytes) : Except String UInt64 :=
  match find request (bytes "Content-Length:") 0 with
  | none => return 0
  | some position =>
    let header := position + (bytes "Content-Length:").length
    let start := header + ((request.drop header).takeWhile isSpace).length
    let ends := start + ((request.drop start).takeWhile isDigit).length
    if ends = start then return 0
    else do stoul (← substr request start (ends - start))

/-- What `recv` gives in turn, until the body is complete or the client ends. -/
def readHttpRequest (request : Bytes) : List Bytes → Except String Bytes
  | [] => return request
  | [] :: _ => return request
  | chunk :: chunks =>
    let request := request ++ chunk
    match find request headerEnd 0 with
    | none => readHttpRequest request chunks
    | some bodyStart => do
      let expectedBody ← contentLength request
      if expectedBody.toNat ≤ request.length - (bodyStart + 4) then return request
      else readHttpRequest request chunks

/-- What is behind the headers. -/
def requestBody (request : Bytes) : Except String (Option Bytes) :=
  match find request headerEnd 0 with
  | none => return none
  | some bodyStart => return some (← substrFrom request (bodyStart + 4))

/-! ## Queries -/

def hexValue (ch : UInt8) : Option UInt8 :=
  if isDigit ch then some (ch - code '0')
  else if code 'a' ≤ ch ∧ ch ≤ code 'f' then some (10 + ch - code 'a')
  else if code 'A' ≤ ch ∧ ch ≤ code 'F' then some (10 + ch - code 'A')
  else none

def urlDecode : Bytes → Bytes
  | [] => []
  | ch :: high :: low :: rest =>
    if ch = code '+' then 32 :: urlDecode (high :: low :: rest)
    else if ch = code '%' then
      match hexValue high, hexValue low with
      | some high, some low => ((high <<< 4) ||| low) :: urlDecode rest
      | _, _ => ch :: urlDecode (high :: low :: rest)
    else ch :: urlDecode (high :: low :: rest)
  | ch :: rest => (if ch = code '+' then 32 else ch) :: urlDecode rest

/-- The key of an item, and what is behind its equals sign. -/
def queryItem (item : Bytes) : Except String (Bytes × Bytes) :=
  match find item [code '='] 0 with
  | none => return (item, [])
  | some equals => return (← substr item 0 equals, ← substrFrom item (equals + 1))

def queryFrom (path name : Bytes) (cursor : Nat) : Except String (Option Bytes) :=
  if _inside : cursor ≤ path.length then
    match _found : find path [code '&'] cursor with
    | none => do
      let (key, value) ← queryItem (← substrFrom path cursor)
      return if key = name then some (urlDecode value) else none
    | some next => do
      let (key, value) ← queryItem (← substr path cursor (next - cursor))
      if key = name then return some (urlDecode value) else queryFrom path name (next + 1)
  else return none
termination_by path.length + 1 - cursor
decreasing_by
  have := find_bounds _found
  omega

def queryParameter (path : Bytes) (name : String) : Except String (Option Bytes) :=
  match find path [code '?'] 0 with
  | none => return none
  | some queryStart => queryFrom path (bytes name) (queryStart + 1)

def queryBool (path : Bytes) (name : String) : Except String (Option Bool) := do
  match ← queryParameter path name with
  | none => return none
  | some value =>
    if value = bytes "true" ∨ value = bytes "1" ∨ value = bytes "yes" then return some true
    else if value = bytes "false" ∨ value = bytes "0" ∨ value = bytes "no" then return some false
    else return none

/-- `std::strtoul` of a C string, all of which has to be the number. -/
def strtoul (text : Bytes) : Option Nat :=
  let text := (text.takeWhile (· ≠ 0)).dropWhile isSpace
  let signed := if text.head? = some (code '-') ∨ text.head? = some (code '+') then text.tail else text
  let value := digitsValue (signed.takeWhile isDigit)
  if signed.takeWhile isDigit = [] ∨ signed.dropWhile isDigit ≠ [] then none
  else if 2 ^ 64 ≤ value then some (2 ^ 64 - 1)
  else some (if text.head? = some (code '-') then (2 ^ 64 - value) % 2 ^ 64 else value)

def queryUint32 (path : Bytes) (name : String) : Except String (Option UInt32) := do
  match ← queryParameter path name with
  | none => return none
  | some value =>
    match strtoul value with
    | none => return none
    | some parsed => return if 2 ^ 32 ≤ parsed then none else some (UInt32.ofNat parsed)

/-! ## Bodies -/

def jsonBoolValue (value : Bytes) : Except String (Option Bool) := do
  let value ← trimJson value
  return if value = bytes "true" then some true else if value = bytes "false" then some false else none

/-- Each character behind a backslash stands for itself. -/
def unescaped : Bytes → Bytes
  | [] => []
  | [ch] => [ch]
  | ch :: next :: rest => if ch = code '\\' then next :: unescaped rest else ch :: unescaped (next :: rest)

def unquotedJsonString (value : Bytes) : Except String Bytes := do
  let value ← trimJson value
  if value.length < 2 ∨ value.head? ≠ some (code '"') ∨ value.getLast? ≠ some (code '"') then return []
  else return unescaped value.tail.dropLast

/-- The text between the colons. -/
def partsFrom (text : Bytes) (start : Nat) : Except String (List Bytes) :=
  if _inside : start ≤ text.length then
    match _found : find text [code ':'] start with
    | none => return [← substrFrom text start]
    | some colon => return (← substr text start (colon - start)) :: (← partsFrom text (colon + 1))
  else return []
termination_by text.length + 1 - start
decreasing_by
  have := find_bounds _found
  omega

def parseWhole (value : Bytes) : Option Int64 :=
  if value = [] ∨ value.all isDigit = false then none else some (Int64.ofNat (digitsValue value))

/-- The seconds and the thousandths of them. -/
def parseSeconds (secondsText : Bytes) : Except String (Bytes × Int64) :=
  match find secondsText [code '.'] 0 with
  | none => return (secondsText, 0)
  | some dot => do
    let fraction ← substrFrom secondsText (dot + 1)
    let digits := (fraction.takeWhile isDigit).take 3
    return (← substr secondsText 0 dot, Int64.ofNat (digitsValue digits * 10 ^ (3 - digits.length)))

/-- In milliseconds. -/
def parseTimecode (text : Bytes) : Except String (Option Int64) := do
  let text ← trimJson text
  if text = [] then return none
  else do
    let parts ← partsFrom text 0
    if parts = [] ∨ 3 < parts.length then return none
    else do
      let (secondsText, fractionalMs) ← parseSeconds (parts.getLast?.getD [])
      let minutesText := if 2 ≤ parts.length then parts[parts.length - 2]? else none
      let hoursText := if parts.length = 3 then parts[0]? else none
      let total : Option Int64 := do
        let seconds ← parseWhole secondsText
        let minutes ← match minutesText with
          | none => some 0
          | some text => parseWhole text
        let hours ← match hoursText with
          | none => some 0
          | some text => parseWhole text
        return max 0 (seconds * 1000 + fractionalMs + minutes * 60 * 1000 + hours * 60 * 60 * 1000)
      return total

def padded (width : Nat) (value : Int) : Bytes :=
  List.replicate (width - (printInt value).length) (code '0') ++ printInt value

def formatTimecode (position : Int64) : Bytes :=
  let totalMs := max 0 position.toInt
  padded 2 (totalMs / 3600000) ++ code ':' :: padded 2 (totalMs % 3600000 / 60000) ++ code ':' ::
    padded 2 (totalMs % 60000 / 1000) ++ code '.' :: padded 3 (totalMs % 1000)

/-! ## Files -/

/-- `operator/` of paths. -/
def joinPath (base path : Bytes) : Bytes :=
  if path.head? = some (code '/') then path
  else if base.getLast? = some (code '/') then base ++ path
  else base ++ code '/' :: path

def expandUserPath (home : Option Bytes) (path : Bytes) : Except String Bytes :=
  match home.filter (· ≠ []) with
  | none => return path
  | some home =>
    if path = bytes "~" then return home
    else if 2 < path.length ∧ path.take 2 = bytes "~/" then return joinPath home (← substrFrom path 2)
    else return path

def toLower (ch : UInt8) : UInt8 := if code 'A' ≤ ch ∧ ch ≤ code 'Z' then ch + 32 else ch

/-- The name from its last point on, unless it starts with that. -/
def extension (name : Bytes) : Bytes :=
  let back := name.reverse.takeWhile (· ≠ code '.')
  if name.length ≤ back.length + 1 ∨ name = bytes ".." then [] else code '.' :: back.reverse

def supportedFallbackVideoFile (name : Bytes) : Bool :=
  (["mp4", "m4v", "mov", "mkv", "ts", "m2ts", "mpeg", "mpg"].map fun type => bytes ("." ++ type)).contains
    ((extension name).map toLower)

/-! ## Services -/

def serviceNameForMode (mode : Bytes) : Bytes :=
  if mode = bytes "pc-gateway" then bytes "wh-pc-gateway.service"
  else if mode = bytes "ts-gateway" then bytes "wh-pi-gateway.service"
  else bytes "wh-repeater.service"

def previewService : Bytes := bytes "wh-preview.service"

def state (name : String) : Bytes := member "state" (jsonString (bytes name))

/-! ## Routes -/

variable (arithmetic : Arithmetic) (printRational : Rat → Bytes) (machine : Machine) (server : ApiServer)

def readGpio (path : Bytes) : Except String Response := do
  let chip := (← queryParameter path "chip").getD (bytes "/dev/gpiochip0")
  let line ← queryUint32 path "line"
  let activeHigh := (← queryBool path "activeHigh").getD true
  match line with
  | none => return badRequest "missing or invalid GPIO line"
  | some line =>
    match machine.gpioReadLine chip line activeHigh with
    | .error error => return failure error
    | .ok active => return ok (object [
        member "chip" (jsonString chip),
        member "line" (printNat line.toNat),
        member "activeHigh" (boolean activeHigh),
        member "active" (boolean active)] ++ bytes "\n")

def memberValue (body : Bytes) (name : String) (read : Bytes → Except String (Option α)) : Except String (Option α) := do
  match ← jsonMember body (bytes name) with
  | none => return none
  | some value => read value

def writeGpio (request : Bytes) : Except String Response := do
  match ← requestBody request with
  | none => return badRequest "missing request body"
  | some body => do
    let chipValue ← jsonMember body (bytes "chip")
    let line ← memberValue body "line" jsonIntValue
    let activeHigh := (← memberValue body "activeHigh" jsonBoolValue).getD true
    let active ← memberValue body "active" jsonBoolValue
    match line, active with
    | some line, some active =>
      if line < 0 then return badRequest "missing or invalid GPIO write fields"
      else do
        let chip ← match chipValue with
          | none => pure (bytes "/dev/gpiochip0")
          | some value => unquotedJsonString value
        match machine.gpioWriteLine chip line.toInt.toNat.toUInt32 activeHigh active with
        | some error => return failure error
        | none => return accepted [
            member "chip" (jsonString chip),
            member "line" (printInt line.toInt),
            member "activeHigh" (boolean activeHigh),
            member "active" (boolean active)]
    | _, _ => return badRequest "missing or invalid GPIO write fields"

def previewStatus : Response :=
  let serviceActive := machine.serviceActive previewService
  ok (object [
    member "requested" (boolean server.previewRequested),
    member "active" (boolean (server.previewActive || serviceActive)),
    member "serviceActive" (boolean serviceActive)] ++ bytes "\n")

def fallbackVideos (path : Bytes) : Except String Response := do
  let configured := server.repeaterConfig.fallback.videoDirectory
  let configuredDirectory := match ← queryParameter path "directory" with
    | some (ch :: requested) => ch :: requested
    | _ => if configured = [] then bytes "/home/pi/Videos" else configured
  let directory ← expandUserPath machine.home configuredDirectory
  let (files, error) := machine.directory directory
  let videos := (files.filter fun file => supportedFallbackVideoFile file.1).mergeSort fun left right =>
    left.1 ≤ right.1
  return ok (object (member "directory" (jsonString directory) ::
    member "videos" (array (videos.map fun (name, path) =>
      object [member "name" (jsonString name), member "path" (jsonString path)])) ::
    (error.map fun error => member "error" (jsonString error)).toList) ++ bytes "\n")

def putConfig (request : Bytes) : Except String (ApiServer × Response) := do
  match ← requestBody request with
  | none => return (server, badRequest "missing request body")
  | some body =>
    -- Whatever the reader throws is caught.
    match configFromJson arithmetic body with
    | some (.ok config) => return ({ server with pendingConfig := some config, repeaterConfig := config }, accepted [])
    | some (.error message) => return (server, badRequest message)
    | none => return (server, badRequest "")

def playFallback (request : Bytes) : Except String (ApiServer × Response) := do
  let videoPath ← match ← requestBody request with
    | none => pure []
    | some body =>
      match find body (bytes "\"path\"") 0 with
      | none => pure []
      | some key =>
        match find body [code ':'] key with
        | none => pure []
        | some colon =>
          match find body [code '"'] colon with
          | none => pure []
          | some firstQuote =>
            match find body [code '"'] (firstQuote + 1) with
            | none => pure []
            | some secondQuote => substr body (firstQuote + 1) (secondQuote - firstQuote - 1)
  return ({ server with pendingFallbackVideo := some videoPath }, accepted [])

def seekFallback (request : Bytes) : Except String (ApiServer × Response) := do
  match ← requestBody request with
  | none => return (server, badRequest "missing request body")
  | some body => do
    let milliseconds ← memberValue body "positionMs" jsonInt64Value
    let position ← match milliseconds with
      | some parsed => pure (some (max 0 parsed))
      | none => memberValue body "timecode" fun value => do parseTimecode (← unquotedJsonString value)
    match position with
    | none => return (server, badRequest "invalid timecode")
    | some position => return ({ server with pendingFallbackVideoSeek := some position }, accepted [
        member "positionMs" (printInt position.toInt),
        member "timecode" (jsonString (formatTimecode position))])

def startService (service failed : Bytes) : Response :=
  if machine.serviceAction (bytes "start") service = 0 then accepted [state "start-requested"] else failure failed

def restartPi : Response :=
  if server.repeaterConfig.piStatus.enabled = false then
    ⟨409, "Conflict", errorBody (bytes "Pi status polling is disabled")⟩
  else
    match machine.restartService server.repeaterConfig.piStatus with
    | some error => ⟨502, "Bad Gateway", errorBody error⟩
    | none => accepted [state "pi-restart-requested"]

/-- The answer to a method and a path, in the order in which they are compared. -/
def route (request method path : Bytes) : Except String (ApiServer × Response) := do
  let config := server.repeaterConfig
  let get := method = bytes "GET"
  let post := method = bytes "POST"
  if ¬ get ∧ method ≠ bytes "PUT" ∧ ¬ post then
    return (server, ⟨405, "Method Not Allowed", errorBody (bytes "method not allowed")⟩)
  else if get ∧ path = bytes "/api/status" then
    return (server, ok (← statusJson machine.printDouble machine.systemStats machine.now server))
  else if get ∧ path = bytes "/api/system" then return (server, ok (machine.systemStats config.mode ++ bytes "\n"))
  else if get ∧ path = bytes "/api/config" then return (server, ok (← configToJson printRational config))
  else if get ∧ bytes "/api/gpio/read" <+: path then return (server, ← readGpio machine path)
  else if post ∧ path = bytes "/api/gpio/write" then return (server, ← writeGpio machine request)
  else if get ∧ path = bytes "/api/preview/status" then return (server, previewStatus machine server)
  else if get ∧ bytes "/api/fallback/videos" <+: path then return (server, ← fallbackVideos machine server path)
  else if method = bytes "PUT" ∧ path = bytes "/api/config" then putConfig arithmetic server request
  else if post ∧ path = bytes "/api/fallback/play" then playFallback server request
  else if post ∧ path = bytes "/api/fallback/stop" then
    return ({ server with pendingFallbackVideoStop := true }, accepted [])
  else if post ∧ path = bytes "/api/fallback/seek" then seekFallback server request
  else if post ∧ path = bytes "/api/preview/start" then
    return ({ server with pendingPreviewEnabled := some true }, accepted [member "preview" (bytes "true")])
  else if post ∧ path = bytes "/api/preview/stop" then
    return ({ server with pendingPreviewEnabled := some false }, accepted [member "preview" (bytes "false")])
  else if post ∧ path = bytes "/api/preview/service/start" then
    return (server, startService machine previewService (bytes "preview service start failed"))
  else if post ∧ path = bytes "/api/preview/service/stop" then return (server, accepted [state "stop-requested"])
  else if post ∧ path = bytes "/api/service/start" then
    return (server, startService machine (serviceNameForMode config.mode) (bytes "systemctl start failed"))
  else if post ∧ path = bytes "/api/service/stop" then return (server, accepted [state "stop-requested"])
  else if post ∧ path = bytes "/api/service/restart" then return (server, accepted [state "restart-requested"])
  else if post ∧ path = bytes "/api/pi/service/restart" then return (server, restartPi machine server)
  else if get ∧ path = bytes "/api/health" then return (server, ok (object [member "ok" (bytes "true")] ++ bytes "\n"))
  else return (server, ⟨404, "Not Found", errorBody (bytes "not found")⟩)

def answer (request : Bytes) : Except String (ApiServer × Response) := do
  let requestLine ← match find request (bytes "\r\n") 0 with
    | none => substrFrom request 0
    | some lineEnd => substr request 0 lineEnd
  match find requestLine [32] 0 with
  | none => return (server, badRequest "bad request")
  | some firstSpace =>
    match find requestLine [32] (firstSpace + 1) with
    | none => return (server, badRequest "bad request")
    | some secondSpace => do
      let method ← substr requestLine 0 firstSpace
      let path ← substr requestLine (firstSpace + 1) (secondSpace - firstSpace - 1)
      route arithmetic printRational machine server request method path

/-- A client, by what `recv` gives of it; one that sends nothing has no response. -/
def handleClient (chunks : List Bytes) : Except String (ApiServer × Option Response) := do
  let request ← readHttpRequest [] chunks
  if request = [] then return (server, none)
  else do
    let (server, response) ← answer arithmetic printRational machine server request
    return (server, some response)

/-! ## The thread -/

/-- No handler takes the lock more than once, so what other threads write is
between the clients. -/
inductive Event where
  | client (machine : Machine) (chunks : List Bytes)
  | others (server : ApiServer)

structure Exchange where
  before : ApiServer
  response : Option Response
  after : ApiServer

def serve (server : ApiServer) : List Event → Except String (List Exchange)
  | [] => return []
  | .others server :: events => serve server events
  | .client machine chunks :: events => do
    let (after, response) ← handleClient arithmetic printRational machine server chunks
    return ⟨server, response, after⟩ :: (← serve after events)

end ApiServer
end WhRepeater
