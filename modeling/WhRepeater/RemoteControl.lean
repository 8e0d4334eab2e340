import WhRepeater.GpioReadPath
import WhRepeater.GpioWriteBody
import WhRepeater.RemoteCalls

/-! What the PC does on the Pi through its API: it saves a configuration and reads it
back, and it reads and drives lines. Each call goes over the network as a text. -/
namespace WhRepeater

open TextScan
open RemoteReceiver (passes_scalar)
open ApiServer (Machine Response route handleClient object member boolean accepted failure queryUint32 queryBool)

namespace GatewayStatusClient

/-- The boolean that the text begins with, behind white space. -/
def flagAt (text : Bytes) : Option Bool :=
  let value := text.dropWhile isSpace
  if value.take 4 = bytes "true" then some true
  else if value.take 5 = bytes "false" then some false
  else none

def jsonBoolMember (object name : Bytes) : Option Bool :=
  let key := code '"' :: name ++ [code '"']
  match find object key 0 with
  | none => none
  | some keyPos =>
    match find object [code ':'] (keyPos + key.length) with
    | none => none
    | some pos => flagAt (object.drop (pos + 1))

/-- The level that `readGpio` has of the response. -/
def readGpio (response : Option HttpResponse) : Option Bool :=
  match response with
  | none => none
  | some response => if response.status ≠ 200 then none else jsonBoolMember response.body (bytes "active")

/-- Whether `writeGpio` takes the line for driven. -/
def writeGpio (response : Option HttpResponse) : Bool :=
  match response with
  | none => false
  | some response => response.status = 200 || response.status = 202

variable {arithmetic : Arithmetic} {printRational : Rat → Bytes} {machine : Machine} {server : ApiServer}
  {address text chip pattern : Bytes} {config : RepeaterConfig} {chunks : List Bytes} {line : UInt32} {activeHigh : Bool}
  {write : PiGpioWrite}

/-! ## Configurations -/

def configPath : Bytes := bytes "/api/config"

theorem callable_config (plain : Plain address) : Callable address put configPath json ∧ Callable address get configPath [] := by
  have path : Plain configPath ∧ 32 ∉ configPath := ⟨⟨by decide, by decide⟩, by decide⟩
  have put : Plain put ∧ 32 ∉ put := ⟨⟨by decide, by decide⟩, by decide⟩
  have get : Plain get ∧ 32 ∉ get := ⟨⟨by decide, by decide⟩, by decide⟩
  exact ⟨⟨plain, put, path, ⟨by decide, by decide⟩⟩, ⟨plain, get, path, ⟨by decide, by decide⟩⟩⟩

theorem route_put (request : Bytes) :
    route arithmetic printRational machine server request put configPath = ApiServer.putConfig arithmetic server request := by
  rw [route]
  iterate 8 rw [if_neg (by decide)]
  rw [if_pos (by decide)]

theorem route_get (request : Bytes) :
    route arithmetic printRational machine server request get configPath = (do
      return (server, ApiServer.ok (← configToJson printRational server.repeaterConfig))) := by
  rw [route]
  iterate 3 rw [if_neg (by decide)]
  rw [if_pos (by decide)]

theorem configToJson_brace (written : configToJson printRational config = .ok text) : text.head? = some (code '{') := by
  rw [configToJson] at written
  obtain ⟨mux, -, written⟩ := bind_eq_ok.mp written
  obtain ⟨video, -, written⟩ := bind_eq_ok.mp written
  cases written
  rfl

/-- A configuration that is put on the Pi is what its loop takes, and what is fetched from
the Pi afterwards. -/
theorem saved_is_fetched (plain : Plain address) (reloads : Reloads arithmetic printRational config) :
    ∃ text, configToJson printRational config = .ok text ∧ ∀ {chunks}, text.length < 2 ^ 64 →
      Requests chunks address put configPath text json → ∃ after response,
        handleClient arithmetic printRational machine server chunks = .ok (after, some response) ∧
          after.pendingConfig = some config ∧
          (∀ exchange, Delivers response exchange → putConfig (request exchange) = true) ∧
          ∀ {later : Machine} {fetches}, Requests fetches address get configPath [] [] → ∃ fetched,
            handleClient arithmetic printRational later after fetches = .ok (after, some fetched) ∧
              ∀ exchange, Delivers fetched exchange → fetchedConfig arithmetic (request exchange) = some config := by
  obtain ⟨text, written, again⟩ := reloads
  obtain ⟨puts, gets⟩ := callable_config plain
  refine ⟨text, written, fun short requests => ?_⟩
  have saved : route arithmetic printRational machine server (requestText address put configPath text json) put configPath =
      .ok ({ server with pendingConfig := some config, repeaterConfig := config }, accepted []) := by
    rw [route_put, ApiServer.putConfig, request_body puts, ok_bind]
    simp only [again]
    rfl
  obtain ⟨handled, delivered⟩ := called puts short requests saved
  refine ⟨_, _, handled, rfl, fun exchange delivers => ?_, fun {later fetches} fetching => ?_⟩
  · rw [delivered exchange delivers]
    rfl
  · have read : route arithmetic printRational later { server with pendingConfig := some config, repeaterConfig := config }
        (requestText address get configPath [] []) get configPath =
          .ok ({ server with pendingConfig := some config, repeaterConfig := config }, ApiServer.ok text) := by
      rw [route_get]
      dsimp only
      rw [written]
      rfl
    obtain ⟨handled, delivered⟩ := called gets (by decide) fetching read
    refine ⟨_, handled, fun exchange delivers => ?_⟩
    have brace := configToJson_brace written
    have fetched : fetchConfig (some ⟨(ApiServer.ok text).status, (ApiServer.ok text).body⟩) = some text := by
      simp [fetchConfig, ApiServer.ok, brace]
    rw [delivered exchange delivers, fetchedConfig, fetched]
    dsimp only
    rw [again]

/-- The transmitter's section alone, as a PC saves it. -/
theorem transmitter_saved :
    ∃ text, configToJson printWhole { pluto := { muxRateKbps := 333, videoBitrateKbps := 237 } } = .ok text ∧
      ∃ after response, handleClient wrapping printWhole ApiServer.bare { repeaterConfig := defaultConfig }
          [requestText (bytes "10.0.0.2") put configPath text json] = .ok (after, some response) ∧
        after.pendingConfig = some { pluto := { muxRateKbps := 333, videoBitrateKbps := 237 } } := by
  have parsed : JsonParser.parse (bytes "\x7b\"pluto\":\x7b\x7d,\"receivers\":[]\x7d") =
      some (.ok (.object [(bytes "pluto", .object []), (bytes "receivers", .array [])])) := rfl
  have accepted : configFromJson wrapping (bytes "\x7b\"pluto\":\x7b\x7d,\"receivers\":[]\x7d") =
      some (.ok { pluto := { muxRateKbps := 333, videoBitrateKbps := 237 } }) := configFromJson_of_parse parsed
  have read := Option.some.inj ((configFromJson_of_parse parsed).symm.trans accepted)
  rw [ok_bind] at read
  have legible : ConfigLegible (.object [(bytes "pluto", .object []), (bytes "receivers", .array [])]) := by
    constructor
    case pluto =>
      rintro pluto ⟨⟩
      exact fun _ _ => nofun
    case receivers =>
      rintro receivers ⟨⟩ items ⟨⟩
      exact nofun
    all_goals rintro section_ ⟨⟩
  have reloads := (reloads_iff read printWhole_thresholds).mpr ⟨legible, rfl, nofun⟩
  have plain : Plain (bytes "10.0.0.2") := ⟨by decide, by decide⟩
  obtain ⟨text, written, saved⟩ := @saved_is_fetched _ _ ApiServer.bare { repeaterConfig := defaultConfig } _ _ plain reloads
  have lengths : (configToJson printWhole { pluto := { muxRateKbps := 333, videoBitrateKbps := 237 } }).toOption.all
      (fun text => text.length < 2 ^ 64) = true := by decide +kernel
  have short : text.length < 2 ^ 64 := by
    rw [written] at lengths
    exact of_decide_eq_true lengths
  have requests : Requests [requestText (bytes "10.0.0.2") put configPath text json] (bytes "10.0.0.2") put configPath text json := by
    refine ⟨fun chunk among => ?_, List.append_nil _⟩
    rw [List.mem_singleton.mp among]
    exact List.append_ne_nil_of_right_ne_nil _ (List.append_ne_nil_of_left_ne_nil (by decide) _)
  obtain ⟨after, response, handled, pending, -⟩ := saved short requests
  exact ⟨text, written, after, response, handled, pending⟩

/-! ## Levels -/

/-- No reserved byte is left in what is encoded. -/
theorem reserved_encoded {ch : UInt8} (reserved : unreserved ch = false) (other : ch ≠ code '%') (value : Bytes) :
    ch ∉ urlEncode value := by
  have hexadecimal : ∀ {digit : UInt8}, digit < 16 → ch ≠ upperDigit digit := by
    rintro digit small rfl
    have letters : ∀ number : Fin 16, unreserved (upperDigit (UInt8.ofNat number)) = true := by decide
    have letter := letters ⟨digit.toNat, UInt8.lt_iff_toNat_lt.mp small⟩
    rw [UInt8.ofNat_toNat, reserved] at letter
    cases letter
  intro among
  obtain ⟨byte, -, written⟩ := List.mem_flatMap.mp among
  obtain ⟨high, low, -⟩ := nibbles byte
  unfold encodeByte at written
  split at written
  · rename_i kept
    obtain rfl := List.mem_singleton.mp written
    rw [reserved] at kept
    cases kept
  · simp only [List.mem_cons, List.not_mem_nil, or_false] at written
    rcases written with percent | first | second
    · exact other percent
    · exact hexadecimal high first
    · exact hexadecimal low second

theorem reserved_path {ch : UInt8} (reserved : unreserved ch = false) (other : ch ≠ code '%')
    (foreign : ch ∉ bytes "/api/gpio/read?chip=" ++ bytes "&line=" ++ bytes "&activeHigh=") :
    ch ∉ readGpioPath chip line activeHigh := by
  have digits : ch ∉ printNat line.toNat := by
    refine not_mem_digits (JsonParser.isDigit_printNat _) ?_
    by_contra digit
    have kept : unreserved ch = true := by
      have bounds : 48 ≤ ch ∧ ch ≤ 57 := by simpa [isDigit] using digit
      have zero : code '0' = 48 := rfl
      have nine : code '9' = 57 := rfl
      simp [unreserved, zero, nine, bounds]
    rw [reserved] at kept
    cases kept
  have flag : ch ∉ boolean activeHigh := by
    intro among
    have letters : ∀ flag : Bool, ∀ letter ∈ boolean flag, unreserved letter = true := by decide +kernel
    have kept := letters activeHigh ch among
    rw [reserved] at kept
    cases kept
  simp only [List.mem_append, not_or] at foreign
  obtain ⟨⟨start, between⟩, last⟩ := foreign
  simp only [readGpioPath, List.mem_append, not_or]
  exact ⟨⟨⟨⟨⟨start, reserved_encoded reserved other chip⟩, between⟩, digits⟩, last⟩, flag⟩

theorem callable_read (plain : Plain address) (chip : Bytes) (line : UInt32) (activeHigh : Bool) :
    Callable address get (readGpioPath chip line activeHigh) [] := by
  have ends : 13 ∉ readGpioPath chip line activeHigh := reserved_path (by decide) (by decide) (by decide)
  have colon : code ':' ∉ readGpioPath chip line activeHigh := reserved_path (by decide) (by decide) (by decide)
  have blank : 32 ∉ readGpioPath chip line activeHigh := reserved_path (by decide) (by decide) (by decide)
  have silent : ¬ ApiServer.lengthHeader <:+: readGpioPath chip line activeHigh := fun inside =>
    colon (inside.subset (by decide))
  have get : Plain get ∧ 32 ∉ get := ⟨⟨by decide, by decide⟩, by decide⟩
  exact ⟨plain, get, ⟨⟨ends, silent⟩, blank⟩, ⟨by decide, by decide⟩⟩

/-- What the Pi answers of a line. -/
def levelText (chip : Bytes) (line : UInt32) (activeHigh active : Bool) : Bytes := object [
  member "chip" (jsonString chip),
  member "line" (printNat line.toNat),
  member "activeHigh" (boolean activeHigh),
  member "active" (boolean active)] ++ bytes "\n"

theorem route_read (request : Bytes) :
    route arithmetic printRational machine server request get (readGpioPath chip line activeHigh) =
      .ok (server, match machine.gpioReadLine chip line activeHigh with
        | .error error => failure error
        | .ok active => ApiServer.ok (levelText chip line activeHigh active)) := by
  have start : bytes "/api/gpio/read" <+: readGpioPath chip line activeHigh :=
    ⟨_, (readGpioPath_items chip line activeHigh).symm⟩
  have question : code '?' ∈ readGpioPath chip line activeHigh := by simp [readGpioPath_items]
  have other : ∀ path : Bytes, code '?' ∉ path → readGpioPath chip line activeHigh ≠ path := by
    rintro path absent rfl
    exact absent question
  have level : queryUint32 (readGpioPath chip line activeHigh) "line" = .ok (some line) := by
    have bound := line.toNat_lt
    rw [queryUint32, line_parameter]
    simp only [ok_bind, strtoul_printNat, if_neg (by omega : ¬ 2 ^ 32 ≤ line.toNat), UInt32.ofNat_toNat]
    rfl
  have polarity : queryBool (readGpioPath chip line activeHigh) "activeHigh" = .ok (some activeHigh) := by
    rw [queryBool, activeHigh_parameter]
    cases activeHigh <;> rfl
  have known : ¬ (¬ get = bytes "GET" ∧ get ≠ bytes "PUT" ∧ ¬ get = bytes "POST") := by decide
  rw [route, if_neg known, if_neg fun same => other _ (by decide) same.2, if_neg fun same => other _ (by decide) same.2,
    if_neg fun same => other _ (by decide) same.2, if_pos ⟨rfl, start⟩, ApiServer.readGpio, chip_parameter, level, polarity]
  simp only [ok_bind, Option.getD_some]
  cases machine.gpioReadLine chip line activeHigh with
  | error error => rfl
  | ok active => rfl

/-- What is found from a position on. -/
theorem drop_find {start : Nat} (inside : start ≤ text.length) :
    (find text pattern start).map (fun position => text.drop (position + pattern.length)) = behind pattern (text.drop start) := by
  rw [find, if_neg (Nat.not_lt.mpr inside), behind]
  cases indexOf pattern (text.drop start) with
  | none => rfl
  | some position => simp [Nat.add_assoc]

theorem jsonBoolMember_eq (object name : Bytes) :
    jsonBoolMember object name = ((behind (key name []) object).bind (behind [code ':'])).bind flagAt := by
  have first := @drop_find object (key name []) 0 (Nat.zero_le _)
  rw [List.drop_zero] at first
  have same : code '"' :: name ++ [code '"'] = key name [] := rfl
  rw [jsonBoolMember, same, ← first]
  cases found : find object (key name []) 0 with
  | none => rfl
  | some keyPos =>
    have inside := find_bounds found
    have second := @drop_find object [code ':'] (keyPos + (key name []).length) inside.2
    rw [Option.map_some, Option.bind_some, ← second]
    dsimp only
    cases find object [code ':'] (keyPos + (key name []).length) with
    | none => rfl
    | some position => rfl

theorem flagAt_boolean (flag : Bool) (rest : Bytes) : flagAt (boolean flag ++ rest) = some flag := by
  cases flag <;> rfl

theorem flagAt_digits (value : Nat) (rest : Bytes) : flagAt (printNat value ++ rest) = none := by
  obtain ⟨first, digits, split⟩ := List.exists_cons_of_ne_nil (JsonParser.printNat_ne_nil value)
  have digit : isDigit first = true := List.all_eq_true.mp (JsonParser.isDigit_printNat value) first (by simp [split])
  have other : ∀ {ch : UInt8} {count : Nat} {word : Bytes}, isDigit ch = false →
      (first :: (digits ++ rest)).take (count + 1) ≠ ch :: word := by
    rintro ch count word letter same
    rw [List.take_succ_cons] at same
    obtain ⟨rfl, -⟩ := List.cons.inj same
    rw [digit] at letter
    cases letter
  have unspaced : (first :: (digits ++ rest)).dropWhile isSpace = first :: (digits ++ rest) :=
    List.dropWhile_cons_of_neg (by rw [JsonParser.not_space_of_digit digit]; exact Bool.false_ne_true)
  have true_absent : (first :: (digits ++ rest)).take 4 ≠ bytes "true" := other rfl
  have false_absent : (first :: (digits ++ rest)).take 5 ≠ bytes "false" := other rfl
  rw [split, flagAt, List.cons_append, unspaced, if_neg true_absent, if_neg false_absent]

theorem behind_object {name value left : Bytes} {front : List Bytes} (each : ∀ member ∈ front, Passes name [] member)
    (stops : Stops name value left) (back : List Bytes) (rest : Bytes) :
    behind (key name []) (object (front ++ value :: back) ++ rest) = some (left ++ others back ++ code '}' :: rest) := by
  have opening : code '{' ≠ code '"' := by decide
  rw [object, List.cons_append, List.cons_append, behind_key_cons opening, List.append_assoc, List.singleton_append,
    stops_separated each stops back _ _ (.inr (.inl rfl))]

/-- The level that is read back, unless the chip is taken for its name. -/
theorem jsonBoolMember_level (chip : Bytes) (line : UInt32) (activeHigh active : Bool) :
    jsonBoolMember (levelText chip line activeHigh active) (bytes "active") =
      if Hits (bytes "active") chip then none else some active := by
  have word : Word (bytes "active") := by decide
  have different : bytes "chip" ≠ bytes "active" := by decide
  rw [jsonBoolMember_eq, levelText]
  split
  · rename_i hit
    -- What is behind the chip is the number of the line.
    have stops := stops_member word rfl different (stops_string word hit)
    have found := @behind_object _ _ _ [] (fun _ among => absurd among List.not_mem_nil) stops
      [member "line" (printNat line.toNat), member "activeHigh" (boolean activeHigh), member "active" (boolean active)] (bytes "\n")
    have first : ([] : Bytes) ++ others [member "line" (printNat line.toNat), member "activeHigh" (boolean activeHigh),
        member "active" (boolean active)] ++ code '}' :: bytes "\n" = [code ','] ++ (member "line" (printNat line.toNat) ++
          (others [member "activeHigh" (boolean activeHigh), member "active" (boolean active)] ++ code '}' :: bytes "\n")) := by
      simp [others]
    rw [List.nil_append, first] at found
    rw [found, Option.bind_some, behind_colon_member (by decide) rfl, Option.bind_some, flagAt_digits]
  · rename_i missed
    have counted : Passes (bytes "active") [] (member "line" (printNat line.toNat)) :=
      passes_member word rfl (by decide) (passes_scalar (scalar_printNat _))
    have polarity : Passes (bytes "active") [] (member "activeHigh" (boolean activeHigh)) :=
      passes_member word rfl (by decide) (passes_scalar (scalar_boolean _))
    have named : Passes (bytes "active") [] (member "chip" (jsonString chip)) :=
      passes_member word rfl different (passes_string word (.inl missed))
    have found := @behind_object _ _ _ [member "chip" (jsonString chip), member "line" (printNat line.toNat),
      member "activeHigh" (boolean activeHigh)] (by simp [named, counted, polarity]) (stops_key word (boolean active)) [] (bytes "\n")
    rw [List.append_assoc, List.cons_append, List.cons_append, List.cons_append, List.nil_append] at found
    rw [found, Option.bind_some, List.cons_append, behind_colon, Option.bind_some, flagAt_boolean]

/-- The level that the PC has of a line is the one that the Pi read of it, and none at all
where the chip ends like the name of the level. -/
theorem remote_gpio_read (plain : Plain address) (chip : Bytes) (line : UInt32) (activeHigh : Bool)
    (requests : Requests chunks address get (readGpioPath chip line activeHigh) [] []) :
    ∃ response, handleClient arithmetic printRational machine server chunks = .ok (server, some response) ∧
      ∀ exchange, Delivers response exchange → readGpio (request exchange) =
        match machine.gpioReadLine chip line activeHigh with
        | .error _ => none
        | .ok active => if Hits (bytes "active") chip then none else some active := by
  obtain ⟨handled, delivered⟩ := called (callable_read plain chip line activeHigh) (by decide) requests (route_read _)
  refine ⟨_, handled, fun exchange delivers => ?_⟩
  rw [delivered exchange delivers]
  cases machine.gpioReadLine chip line activeHigh with
  | error error => rfl
  | ok active => exact jsonBoolMember_level chip line activeHigh active

/-- The squelch of a receiver, read through the Pi. -/
theorem squelch_read : ∃ response,
    handleClient wrapping printWhole { ApiServer.bare with gpioReadLine := fun _ _ _ => .ok true } { repeaterConfig := defaultConfig }
        [requestText (bytes "10.0.0.2") get (readGpioPath (bytes "/dev/gpiochip0") 22 false) [] []] =
      .ok ({ repeaterConfig := defaultConfig }, some response) ∧
    readGpio (request (.sent [.chunk response.sent, .closed])) = some true := by
  have requests : Requests [requestText (bytes "10.0.0.2") get (readGpioPath (bytes "/dev/gpiochip0") 22 false) [] []]
      (bytes "10.0.0.2") get (readGpioPath (bytes "/dev/gpiochip0") 22 false) [] [] := ⟨by decide +kernel, List.append_nil _⟩
  have plain : Plain (bytes "10.0.0.2") := ⟨by decide, by decide⟩
  obtain ⟨response, handled, level⟩ := @remote_gpio_read wrapping printWhole
    { ApiServer.bare with gpioReadLine := fun _ _ _ => .ok true } { repeaterConfig := defaultConfig } _ _ plain _ _ _ requests
  exact ⟨response, handled, (level _ (delivers_closed response)).trans (if_neg (by decide +kernel))⟩

/-! ## Driven lines -/

def writeGpioPath : Bytes := bytes "/api/gpio/write"

theorem callable_write (plain : Plain address) : Callable address post writeGpioPath json := by
  have path : Plain writeGpioPath ∧ 32 ∉ writeGpioPath := ⟨⟨by decide, by decide⟩, by decide⟩
  have post : Plain post ∧ 32 ∉ post := ⟨⟨by decide, by decide⟩, by decide⟩
  exact ⟨plain, post, path, ⟨by decide, by decide⟩⟩

theorem route_write (request : Bytes) :
    route arithmetic printRational machine server request post writeGpioPath =
      (ApiServer.writeGpio machine request).map (server, ·) := by
  rw [route]
  iterate 5 rw [if_neg (by decide)]
  rw [if_pos (by decide)]
  cases ApiServer.writeGpio machine request <;> rfl

/-- The PC has a line for driven exactly if the Pi drove a line without an error: the
same chip, line and level, with the polarity that it read. -/
theorem remote_gpio_write (plain : Plain address) (chip : PlainText write.line.chip)
    (short : (writeGpioBody write).length < 2 ^ 64)
    (requests : Requests chunks address post writeGpioPath (writeGpioBody write) json) :
    ∃ response, handleClient arithmetic printRational machine server chunks = .ok (server, some response) ∧
      ∀ exchange, Delivers response exchange → (writeGpio (request exchange) = true ↔
        write.line.chip ≠ bytes "active" ∧ write.line.offset.toNat < 2 ^ 31 ∧
          machine.gpioWriteLine write.line.chip write.line.offset (readActiveHigh write) write.active = none) := by
  have callable := callable_write plain
  have routed : route arithmetic printRational machine server (requestText address post writeGpioPath (writeGpioBody write) json)
      post writeGpioPath = .ok (server, ApiServer.answerWrite machine
        (if write.line.chip = bytes "active" ∨ 2 ^ 31 ≤ write.line.offset.toNat then none
          else some { write with activeHigh := readActiveHigh write })) := by
    rw [route_write, writeGpio_reads (request_body callable), gpioWrite_plain chip]
    rfl
  obtain ⟨handled, delivered⟩ := called callable short requests routed
  refine ⟨_, handled, fun exchange delivers => ?_⟩
  rw [delivered exchange delivers]
  split
  · rename_i refused
    have failed : ∀ body, writeGpio (some ⟨(400 : Nat), body⟩) = false := fun _ => rfl
    refine iff_of_false (ne_true_of_eq_false (failed _)) ?_
    rintro ⟨other, small, -⟩
    exact refused.elim other (Nat.not_le.mpr small)
  · rename_i taken
    have failed : ∀ body, writeGpio (some ⟨(500 : Nat), body⟩) = false := fun _ => rfl
    obtain ⟨other, large⟩ := not_or.mp taken
    simp only [ne_eq, other, not_false_eq_true, Nat.lt_of_not_le large, true_and, ApiServer.answerWrite]
    cases machine.gpioWriteLine write.line.chip write.line.offset (readActiveHigh write) write.active with
    | none => exact iff_of_true rfl rfl
    | some error => exact iff_of_false (ne_true_of_eq_false (failed _)) (Option.some_ne_none error)

/-- The transmitter's line, driven through a Pi that can drive it. -/
theorem ptt_driven : ∃ response,
    handleClient wrapping printWhole { ApiServer.bare with gpioWriteLine := fun _ _ _ _ => none } { repeaterConfig := defaultConfig }
        [requestText (bytes "10.0.0.2") post writeGpioPath (writeGpioBody ⟨⟨bytes "/dev/gpiochip0", 17⟩, true, true⟩) json] =
      .ok ({ repeaterConfig := defaultConfig }, some response) ∧
    writeGpio (request (.sent [.chunk response.sent, .closed])) = true := by
  have requests : Requests
      [requestText (bytes "10.0.0.2") post writeGpioPath (writeGpioBody ⟨⟨bytes "/dev/gpiochip0", 17⟩, true, true⟩) json]
      (bytes "10.0.0.2") post writeGpioPath (writeGpioBody ⟨⟨bytes "/dev/gpiochip0", 17⟩, true, true⟩) json :=
    ⟨by decide +kernel, List.append_nil _⟩
  have plain : Plain (bytes "10.0.0.2") := ⟨by decide, by decide⟩
  have chip : PlainText (bytes "/dev/gpiochip0") := by
    unfold PlainText
    decide +kernel
  obtain ⟨response, handled, driven⟩ := @remote_gpio_write wrapping printWhole
    { ApiServer.bare with gpioWriteLine := fun _ _ _ _ => none } { repeaterConfig := defaultConfig } _ _
    ⟨⟨bytes "/dev/gpiochip0", 17⟩, true, true⟩ plain chip (by decide +kernel) requests
  exact ⟨response, handled, (driven _ (delivers_closed response)).mpr ⟨by decide, by decide, rfl⟩⟩

end GatewayStatusClient
end WhRepeater
