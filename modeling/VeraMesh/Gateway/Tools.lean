import VeraMesh.Gateway.Facade
import VeraMesh.Lib.Except

/-!
# The public tools

`dispatchTool` of `mcp_server.go` and the functions it reads its arguments with.
-/

namespace VeraMesh.Gateway

/-- `argError`. -/
def argError (key message : String) : GoError := ⟨key ++ ": " ++ message, none⟩

/-- `reqString`. -/
def reqString (a : GoMap) (key : String) : Except GoError String :=
  match (a.index key).asString? with
  | none => .error (argError key "must be a non-empty string")
  | some value =>
    if trimSpace value.toList = [] then .error (argError key "must be a non-empty string")
    else .ok value

/-- `reqStringAllowEmpty`. -/
def reqStringAllowEmpty (a : GoMap) (key : String) : Except GoError String :=
  match (a.index key).asString? with
  | none => .error (argError key "must be a string")
  | some value => .ok value

/-- The loop of `reqStringSlice`, from the item with index `i` on. -/
def reqStrings (key : String) : ℕ → List GoValue → Except GoError (List String)
  | _, [] => .ok []
  | i, item :: items => do
    let value := item.asString
    if value = "" then throw (argError key s!"item {i} must be non-empty string")
    return value :: (← reqStrings key (i + 1) items)

/-- `reqStringSlice`. -/
def reqStringSlice (a : GoMap) (key : String) : Except GoError (List String) :=
  match a.index key with
  | .list (item :: items) => reqStrings key 0 (item :: items)
  | _ => .error (argError key "must be a non-empty string array")

/-- `optString`. -/
def optString (a : GoMap) (key default : String) : String :=
  (a.index key).asString?.getD default

/-- `optBool`. -/
def optBool (a : GoMap) (key : String) (default : Bool) : Except GoError Bool :=
  match a.get? key with
  | none => .ok default
  | some (.bool value) => .ok value
  | some _ => .error (argError key "must be boolean")

/-- `exactJSONInt64`. -/
def exactJSONInt64 : GoValue → Except GoError ℤ
  | .number literal => (parseInt64 literal).elim (.error ⟨"must be an integer", none⟩) .ok
  | .int n => .ok n
  | .float x =>
    if (Python.PyFloat.ofRat (toInt64 x)).eq x then .ok (toInt64 x)
    else .error ⟨"must be an integer", none⟩
  | _ => .error ⟨"must be an integer", none⟩

/-- `optInt64`, and `optInt`, which is the same where an `int` has 64 bits. -/
def optInt64 (a : GoMap) (key : String) (default : ℤ) : Except GoError ℤ :=
  match a.get? key with
  | none => .ok default
  | some raw => (exactJSONInt64 raw).mapError (GoError.wrap key)

/-- An optional argument whose absence `dispatchTool` passes on. -/
def optional {α : Type} (a : GoMap) (key : String) (read : GoValue → Except GoError α) :
    Except GoError (Option α) :=
  match a.get? key with
  | none => .ok none
  | some raw => ((read raw).mapError (GoError.wrap key)).map some

/-- A value that has to be a string. -/
def stringValue (raw : GoValue) : Except GoError String :=
  raw.asString?.elim (.error ⟨"must be string", none⟩) .ok

/-- The digits before the first character that is none, and the rest. -/
def spanDigits (s : List Char) : List Char × List Char := s.span Char.isDigit

/-- `v.Float64()` of a `json.Number`, whose literal has the form of a JSON number. -/
def parseFloat64 (literal : String) : Option Float64 := do
  let (sign, s) : ℚ × List Char := match literal.toList with
    | '-' :: s => (-1, s)
    | s => (1, s)
  let (whole, s) := spanDigits s
  let (fraction, s) := match s with
    | '.' :: s => spanDigits s
    | s => ([], s)
  let mantissa ← parseDigits (whole ++ fraction)
  let exponent : ℤ ← match s with
    | [] => some 0
    | e :: s =>
      if e ≠ 'e' ∧ e ≠ 'E' then none
      else match s with
        | '-' :: s => (parseDigits s).map fun n => -(n : ℤ)
        | '+' :: s => (parseDigits s).map Int.ofNat
        | s => (parseDigits s).map Int.ofNat
  match Python.PyFloat.ofRat (sign * mantissa * 10 ^ (exponent - fraction.length)) with
  | .finite q => some (.finite q)
  | _ => none

/-- `optFloat`. -/
def optFloat (a : GoMap) (key : String) (default : Float64) : Except GoError Float64 :=
  match a.get? key with
  | none => .ok default
  | some (.number literal) =>
    (parseFloat64 literal).elim (.error (argError key "must be numeric")) .ok
  | some (.float x) => .ok x
  | some (.int n) => .ok (.ofRat n)
  | some _ => .error (argError key "must be numeric")

/-- `applyDefault`. -/
def applyDefault (a : GoMap) (key : String) (value : GoValue) : GoMap :=
  if a.contains key then a else a.set key value

/-- A sequence of `applyDefault`. -/
def applyDefaults (a : GoMap) (defaults : List (String × GoValue)) : GoMap :=
  defaults.foldl (fun a e => applyDefault a e.1 e.2) a

/-- The defaults of `search_files`. -/
def searchFilesDefaults : List (String × GoValue) :=
  [("offset", .int 0), ("max_results", .int 100), ("max_entries", .int 10000),
    ("max_depth", .int 12), ("case_sensitive", .bool false)]

/-- The defaults of `search_content`. -/
def searchContentDefaults : List (String × GoValue) :=
  [("file_pattern", .str "*"), ("offset", .int 0), ("max_results", .int 100),
    ("max_entries", .int 10000), ("max_depth", .int 12),
    ("max_total_bytes", .int (8 * 1024 * 1024)), ("case_sensitive", .bool false)]

/-- The defaults of `replace_text`. -/
def replaceTextDefaults : List (String × GoValue) :=
  [("expected_count", .int 1), ("encoding", .str "utf-8")]

namespace Facade

variable {σ : Type} (api : ControllerAPI σ) (random : ℕ → String)

/-- What `dispatchTool` calls on the facade, once it has read the arguments. -/
def toolAction (name : String) (a : GoMap) :
    Except GoError (Facade σ → Except GoError GoMap × Facade σ) :=
  match name with
  | "computer_info" => return computerInfo api
  | "read_file" => do
    let p ← reqString a "path"
    return readFile api random p (optString a "encoding" "utf-8")
  | "read_bytes" => do
    let p ← reqString a "path"
    let offset ← optInt64 a "offset" 0
    let maxBytes ← optional a "max_bytes" exactJSONInt64
    let expected ← optional a "expected_file_version" stringValue
    return readBytes api random p offset maxBytes expected
  | "stat_path" => do
    let p ← reqString a "path"
    return statPath api random p
  | "list_directory" => do
    let p ← reqString a "path"
    let offset ← optInt64 a "offset" 0
    let maxEntries ← optInt64 a "max_entries" 200
    return listDirectory api random p offset maxEntries
  | "search_files" => do
    let _ ← reqString a "root"
    let _ ← reqString a "query"
    return searchFiles api random (applyDefaults a searchFilesDefaults)
  | "search_content" => do
    let _ ← reqString a "root"
    let _ ← reqString a "query"
    return searchContent api random (applyDefaults a searchContentDefaults)
  | "write_file" => do
    let p ← reqString a "path"
    let content ← reqStringAllowEmpty a "content"
    return writeFile api random p content (optString a "encoding" "utf-8")
  | "append_file" => do
    let p ← reqString a "path"
    let content ← reqStringAllowEmpty a "content"
    return appendFile api random p content (optString a "encoding" "utf-8")
  | "make_directory" => do
    let p ← reqString a "path"
    let parents ← optBool a "parents" true
    return makeDirectory api random p parents
  | "move_path" => do
    let source ← reqString a "source"
    let destination ← reqString a "destination"
    return movePath api random source destination
  | "replace_text" => do
    let _ ← reqString a "path"
    let _ ← reqStringAllowEmpty a "old_string"
    let _ ← reqStringAllowEmpty a "new_string"
    return replaceText api random (applyDefaults a replaceTextDefaults)
  | "run_process" => do
    let argv ← reqStringSlice a "argv"
    let cwd ← reqString a "cwd"
    let timeout ← optFloat a "timeout_s" 60
    return runProcess api random argv cwd timeout
  | "start_process" => do
    let argv ← reqStringSlice a "argv"
    let cwd ← reqString a "cwd"
    let maxRuntime ← optFloat a "max_runtime_s" 900
    return startProcess api random argv cwd maxRuntime
  | "list_processes" => return listProcesses api
  | "process_status" => do
    let handle ← reqString a "process_handle"
    return processStatus api handle
  | "process_output" => do
    let handle ← reqString a "process_handle"
    let stdoutOffset ← optInt64 a "stdout_offset" 0
    let stderrOffset ← optInt64 a "stderr_offset" 0
    let maxBytes ← optInt64 a "max_bytes" 16384
    return processOutput api handle stdoutOffset stderrOffset maxBytes
  | "process_input" => do
    let handle ← reqString a "process_handle"
    let input ← reqStringAllowEmpty a "input_text"
    let newline ← optBool a "append_newline" true
    return processInput api handle input newline
  | "terminate_process" => do
    let handle ← reqString a "process_handle"
    let grace ← optFloat a "grace_s" 2
    return terminateProcess api handle grace
  | "release_process" => do
    let handle ← reqString a "process_handle"
    return releaseProcess api handle
  | name => throw ⟨"unknown public tool: " ++ name, none⟩

/-- `dispatchTool`. -/
def dispatchTool (f : Facade σ) (name : String) (a : GoMap) : Except GoError GoMap × Facade σ :=
  match toolAction api random name a with
  | .error err => (.error err, f)
  | .ok action => action f

/-- What is asked of a facade: a tool call, or to close down. -/
inductive Event where
  | tool (name : String) (a : GoMap)
  | close

/-- The facade after an event. -/
def step (f : Facade σ) : Event → Facade σ
  | .tool name a => (f.dispatchTool api random name a).2
  | .close => (f.close api).2

/-- The facade after a run of events. -/
def run (f : Facade σ) (events : List Event) : Facade σ := events.foldl (step api random) f

end Facade

/-! ## What the tools do with their arguments -/

/-- The tools that hand their arguments on as the body of the operation. -/
def bodyTools : List String := ["search_files", "search_content", "replace_text"]

/-- The body sets neither the lane nor the fence. -/
def GoMap.LaneFree (body : GoMap) : Prop :=
  body.get? "lane_id" = none ∧ body.get? "fencing_token" = none

theorem laneFree_ofList {l : List (String × GoValue)}
    (h : ∀ e ∈ l, e.1 ≠ "lane_id" ∧ e.1 ≠ "fencing_token") : GoMap.LaneFree (.ofList l) :=
  ⟨Dict.get?_ofList_eq_none fun e he => (h e he).1,
    Dict.get?_ofList_eq_none fun e he => (h e he).2⟩

theorem index_of_reqString {a : GoMap} {key value : String} (h : reqString a key = .ok value) :
    a.index key = .str value := by
  unfold reqString at h
  cases hv : a.index key with
  | str s =>
    simp only [hv, GoValue.asString?] at h
    split_ifs at h
    injection h with h
    rw [h]
  | _ => simp [hv, GoValue.asString?] at h

namespace Facade

variable {σ : Type} (api : ControllerAPI σ) (random : ℕ → String)

/-- What the public tools do: the tool `name` with the arguments `a` can only bring about these
actions. -/
inductive ToolAction (a : GoMap) (name : String) :
    (Facade σ → Except GoError GoMap × Facade σ) → Prop
  | info : ToolAction a name (computerInfo api)
  /-- An operation under a lane of its own, with a body made of single arguments. -/
  | own {operation capabilities claims body task} (hname : name ∉ bodyTools)
      (hbody : body.LaneFree) :
      ToolAction a name (claimed api random operation capabilities claims body task)
  /-- An operation under a lane of its own, with the arguments as its body. -/
  | ownBody {operation capabilities claims task} (defaults : List (String × GoValue))
      (hname : name ∈ bodyTools)
      (hdefaults : ∀ e ∈ defaults, e.1 ≠ "lane_id" ∧ e.1 ≠ "fencing_token") :
      ToolAction a name
        (claimed api random operation capabilities claims (applyDefaults a defaults) task)
  | start {argv cwd maxRuntimeS} (hname : name ∉ bodyTools) :
      ToolAction a name (startProcess api random argv cwd maxRuntimeS)
  /-- An operation under the lane of the process with the given handle. -/
  | process {operation handle body} (hname : name ∉ bodyTools)
      (hhandle : a.index "process_handle" = .str handle) (hbody : body.LaneFree) :
      ToolAction a name (processOperation api operation handle body)
  | release {handle} (hname : name ∉ bodyTools)
      (hhandle : a.index "process_handle" = .str handle) :
      ToolAction a name (releaseProcess api handle)
  | list (hname : name = "list_processes") : ToolAction a name (listProcesses api)

variable {api random}

theorem toolAction_spec {a : GoMap} {name : String}
    {action : Facade σ → Except GoError GoMap × Facade σ}
    (h : toolAction api random name a = .ok action) : ToolAction api random a name action := by
  unfold toolAction at h
  split at h
  any_goals simp only [Except.bind_eq_ok, Except.pure_eq_ok] at h
  case h_1 =>
    subst h
    exact .info
  case h_2 =>
    obtain ⟨p, -, rfl⟩ := h
    exact .own (by simp [bodyTools]) (laneFree_ofList (by simp))
  case h_3 =>
    obtain ⟨p, -, offset, -, maxBytes, -, expected, -, rfl⟩ := h
    refine .own (by simp [bodyTools]) (laneFree_ofList ?_)
    cases maxBytes <;> cases expected <;> simp
  case h_4 =>
    obtain ⟨p, -, rfl⟩ := h
    exact .own (by simp [bodyTools]) (laneFree_ofList (by simp))
  case h_5 =>
    obtain ⟨p, -, offset, -, maxEntries, -, rfl⟩ := h
    exact .own (by simp [bodyTools]) (laneFree_ofList (by simp))
  case h_6 =>
    obtain ⟨root, -, query, -, rfl⟩ := h
    unfold searchFiles onPath
    exact .ownBody searchFilesDefaults (by simp [bodyTools]) (by simp [searchFilesDefaults])
  case h_7 =>
    obtain ⟨root, -, query, -, rfl⟩ := h
    unfold searchContent onPath
    exact .ownBody searchContentDefaults (by simp [bodyTools]) (by simp [searchContentDefaults])
  case h_8 =>
    obtain ⟨p, -, content, -, rfl⟩ := h
    exact .own (by simp [bodyTools]) (laneFree_ofList (by simp))
  case h_9 =>
    obtain ⟨p, -, content, -, rfl⟩ := h
    exact .own (by simp [bodyTools]) (laneFree_ofList (by simp))
  case h_10 =>
    obtain ⟨p, -, parents, -, rfl⟩ := h
    exact .own (by simp [bodyTools]) (laneFree_ofList (by simp))
  case h_11 =>
    obtain ⟨source, -, destination, -, rfl⟩ := h
    exact .own (by simp [bodyTools]) (laneFree_ofList (by simp))
  case h_12 =>
    obtain ⟨p, -, old, -, new, -, rfl⟩ := h
    unfold replaceText onPath
    exact .ownBody replaceTextDefaults (by simp [bodyTools]) (by simp [replaceTextDefaults])
  case h_13 =>
    obtain ⟨argv, -, cwd, -, timeout, -, rfl⟩ := h
    exact .own (by simp [bodyTools]) (laneFree_ofList (by simp))
  case h_14 =>
    obtain ⟨argv, -, cwd, -, maxRuntime, -, rfl⟩ := h
    exact .start (by simp [bodyTools])
  case h_15 =>
    subst h
    exact .list rfl
  case h_16 =>
    obtain ⟨handle, hh, rfl⟩ := h
    exact .process (by simp [bodyTools]) (index_of_reqString hh) ⟨rfl, rfl⟩
  case h_17 =>
    obtain ⟨handle, hh, stdoutOffset, -, stderrOffset, -, maxBytes, -, rfl⟩ := h
    exact .process (by simp [bodyTools]) (index_of_reqString hh) (laneFree_ofList (by simp))
  case h_18 =>
    obtain ⟨handle, hh, input, -, newline, -, rfl⟩ := h
    exact .process (by simp [bodyTools]) (index_of_reqString hh) (laneFree_ofList (by simp))
  case h_19 =>
    obtain ⟨handle, hh, grace, -, rfl⟩ := h
    exact .process (by simp [bodyTools]) (index_of_reqString hh) (laneFree_ofList (by simp))
  case h_20 =>
    obtain ⟨handle, hh, rfl⟩ := h
    exact .release (by simp [bodyTools]) (index_of_reqString hh)
  case h_21 => cases h

/-! ## The facade reaches the controller through its interface only -/

section Controller

/-- The action keeps a property of the controller's state. -/
def Keeps (P : σ → Prop) (action : Facade σ → Except GoError GoMap × Facade σ) : Prop :=
  ∀ f : Facade σ, P f.controller → P (action f).2.controller

variable {P : σ → Prop} (hcall : ∀ s operation body, P s → P (api.call s operation body).2)

include hcall

theorem openLane_keeps {f f' : Facade σ} {capabilities : List String} {claims : List GoValue}
    {ttlS : Float64} {task : String} {opened : Except GoError (String × ℤ)} (h : P f.controller)
    (hres : f.openLane api random capabilities claims ttlS task = (opened, f')) :
    P f'.controller := by
  have hopen : P (f.openLane api random capabilities claims ttlS task).2.controller :=
    hcall _ _ _ h
  rw [hres] at hopen
  exact hopen

theorem keeps_claimed {operation : String} {capabilities : List String}
    {claims : Except GoError (List GoValue)} {body : GoMap} {task : String} :
    Keeps P (claimed api random operation capabilities claims body task) := by
  intro f h
  unfold claimed
  split
  · exact h
  · unfold ephemeral
    split
    next hres => exact openLane_keeps hcall h hres
    next hres =>
      have hopen := openLane_keeps hcall h hres
      dsimp only
      split
      · exact hcall _ _ _ (hcall _ _ _ hopen)
      · split <;> exact hcall _ _ _ (hcall _ _ _ hopen)

theorem keeps_startProcess {argv : List String} {cwd : String} {maxRuntimeS : Float64} :
    Keeps P (startProcess api random argv cwd maxRuntimeS) := by
  intro f h
  unfold startProcess
  split
  · exact h
  · split
    next hres => exact openLane_keeps hcall h hres
    next hres =>
      have hopen := openLane_keeps hcall h hres
      dsimp only
      split
      · exact hcall _ _ _ (hcall _ _ _ hopen)
      · exact hcall _ _ _ hopen

theorem keeps_processOperation {operation handle : String} {body : GoMap} :
    Keeps P (processOperation api operation handle body) := by
  intro f h
  unfold processOperation
  split
  · exact h
  · exact hcall _ _ _ h

theorem keeps_releaseProcess (handle : String) : Keeps P (releaseProcess api handle) := by
  intro f h
  unfold releaseProcess
  split
  · exact h
  · dsimp only
    split <;> exact hcall _ _ _ h

theorem statusOf_keeps (handles : List String) {f : Facade σ} (h : P f.controller) :
    P (statusOf api handles f).2.controller := by
  induction handles generalizing f with
  | nil => exact h
  | cons handle handles ih => exact ih (keeps_processOperation hcall f h)

theorem releaseAll_keeps (handles : List String) {f : Facade σ} (h : P f.controller) :
    P (releaseAll api handles f).2.2.controller := by
  induction handles generalizing f with
  | nil => exact h
  | cons handle handles ih =>
    have hrest := ih (keeps_releaseProcess hcall handle f h)
    unfold releaseAll
    dsimp only
    split <;> exact hrest

variable (hinfo : ∀ s, P s → P (api.machineInfo s).2)

include hinfo

theorem ToolAction.keeps {a : GoMap} {name : String}
    {action : Facade σ → Except GoError GoMap × Facade σ} (h : ToolAction api random a name action) :
    Keeps P action := by
  cases h with
  | info => exact fun f hf => hinfo _ hf
  | own => exact keeps_claimed hcall
  | ownBody => exact keeps_claimed hcall
  | start => exact keeps_startProcess hcall
  | process => exact keeps_processOperation hcall
  | release => exact keeps_releaseProcess hcall _
  | list => exact fun f hf => statusOf_keeps hcall _ hf

/-- What the calls of the controller's interface keep, every run of the facade keeps. -/
theorem run_keeps (events : List Event) {f : Facade σ} (h : P f.controller) :
    P (f.run api random events).controller := by
  induction events generalizing f with
  | nil => exact h
  | cons event events ih =>
    refine ih (f := f.step api random event) ?_
    cases event with
    | close => exact releaseAll_keeps hcall _ h
    | tool name a =>
      show P (f.dispatchTool api random name a).2.controller
      unfold dispatchTool
      split
      · exact h
      next hact => exact (toolAction_spec hact).keeps hcall hinfo f h

end Controller

end Facade

end VeraMesh.Gateway
