import VeraMesh.Lib.Quoting
import VeraMesh.Tunnel.Runtime

/-!
# The commands of the service

Every command that the tunnel runtime service runs is the tunnel client whose digest was checked, in
an environment without API keys. The MCP command that a connection asks for reads back as exactly
the words of the configuration (`issued_commands`).
-/

namespace VeraMesh.Tunnel

open Python Except Coroutine Quoting

/-! ## The MCP command -/

theorem tunnelQuoteArgument_ok {value quotedValue : String}
    (h : tunnelQuoteArgument value = .ok quotedValue) :
    '\'' ∉ value.toList ∧ quotedValue.toList = quoted '\'' value.toList := by
  rw [tunnelQuoteArgument] at h
  split_ifs at h with hvalue
  obtain ⟨-, hquotable⟩ := not_or.mp hvalue
  refine ⟨fun hmem => hquotable ?_, ?_⟩
  · exact List.any_eq_true.mpr ⟨'\'', hmem, by simp⟩
  · rw [← Except.ok.inj h]
    simp [quoted]

theorem mapM_tunnelQuoteArgument_ok {words quotedWords : List String}
    (h : words.mapM tunnelQuoteArgument = .ok quotedWords) :
    (∀ word ∈ words.map String.toList, '\'' ∉ word) ∧
      quotedWords.map String.toList = (words.map String.toList).map (quoted '\'') := by
  induction words generalizing quotedWords with
  | nil =>
    rw [← Except.ok.inj (show Except.ok [] = Except.ok quotedWords from h)]
    simp
  | cons word words ih =>
    rw [List.mapM_cons] at h
    obtain ⟨first, hfirst, h⟩ := bind_eq_ok.mp h
    obtain ⟨rest, hrest, h⟩ := bind_eq_ok.mp h
    rw [← pure_eq_ok.mp h]
    obtain ⟨hword, hquoted⟩ := tunnelQuoteArgument_ok hfirst
    obtain ⟨hwords, hquotedRest⟩ := ih hrest
    refine ⟨?_, by simp [hquoted, hquotedRest]⟩
    rw [List.map_cons, List.forall_mem_cons]
    exact ⟨hword, hwords⟩

namespace TunnelRuntimeServiceConfig

variable {c : TunnelRuntimeServiceConfig}

/-- The MCP command reads back as its words. -/
theorem readWords_mcpCommand {command : String} (h : c.mcpCommand = .ok command) :
    readWords '\'' ' ' command.toList = some (c.mcpWords.map String.toList) := by
  obtain ⟨quotedWords, hquoted, rfl⟩ := map_eq_ok.mp h
  obtain ⟨hwords, hmap⟩ := mapM_tunnelQuoteArgument_ok hquoted
  have htext : (" ".intercalate quotedWords).toList =
      quoteWords '\'' ' ' (c.mcpWords.map String.toList) := by
    rw [String.toList_intercalate, hmap]
    rfl
  rw [htext]
  exact readWords_quoteWords (by simp [mcpWords]) hwords

/-- The API keys of the service are not handed on. -/
theorem get?_runtimeEnvironment (base : Dict String String) {key : String}
    (hkey : key = "CONTROL_PLANE_API_KEY" ∨ key = "OPENAI_API_KEY") :
    (c.runtimeEnvironment base).get? key = none := by
  rw [runtimeEnvironment]
  rcases hkey with rfl | rfl
  · split_ifs <;> simp [Dict.get?_set, Dict.get?_erase]
  · split_ifs <;> simp [Dict.get?_set, Dict.get?_erase]

end TunnelRuntimeServiceConfig

/-! ## Runs -/

/-- The programs on the disk are the configured ones. -/
structure Checked (host : TunnelHost) (c : TunnelRuntimeServiceConfig) : Prop where
  client : host.sha256 c.tunnelClient = .ok c.tunnelClientSha256
  executable : host.sha256 c.mcpExecutable = .ok c.mcpExecutableSha256
  entrypoint : ∀ path ∈ c.mcpEntrypoint, ∀ digest ∈ c.mcpEntrypointSha256,
    host.sha256 path = .ok digest

/-- A command of the service. -/
structure Issued (host : TunnelHost) (c : TunnelRuntimeServiceConfig) (command : Command) :
    Prop where
  checked : Checked host c
  env : ∀ key, key = "CONTROL_PLANE_API_KEY" ∨ key = "OPENAI_API_KEY" →
    command.env.get? key = none
  client : command.args.head? = some c.tunnelClient
  cwd : command.cwd = c.stateDir
  /-- A connection names the words of the MCP command. -/
  args : command.args = c.statusArgs ∨ command.args = c.stopArgs ∨
    c.connectArgs = .ok command.args ∧ ∃ mcp, command.args.getLast? = some mcp ∧
      readWords '\'' ' ' mcp.toList = some (c.mcpWords.map String.toList)

/-- What the service waits for is a command in order, or the stop event. -/
def Orderly (host : TunnelHost) (c : TunnelRuntimeServiceConfig) : TunnelAwait → Prop
  | .command command => Issued host c command
  | .stopEvent _ => True

theorem forM_eq_ok {α : Type} {f : α → Except TunnelError Unit} {l : List α}
    (h : l.forM f = .ok ()) : ∀ a ∈ l, f a = .ok () := by
  induction l with
  | nil => simp
  | cons a l ih =>
    obtain ⟨_, ha, hl⟩ := bind_eq_ok.mp (show f a >>= (fun _ => l.forM f) = .ok () from h)
    rw [List.forall_mem_cons]
    exact ⟨ha, ih hl⟩

namespace TunnelHost

variable {host : TunnelHost} {c : TunnelRuntimeServiceConfig}

/-- A program that passes has the digest it should have. -/
theorem sha256_of_check {path expected label : String}
    (h : (do
      let digest ← (host.sha256 path).mapError TunnelError.raised
      require (digest = expected) (.service (label ++ " SHA-256 mismatch"))) = .ok ()) :
    host.sha256 path = .ok expected := by
  obtain ⟨digest, hdigest, hrequire⟩ := bind_eq_ok.mp h
  have hsame : digest = expected := require_eq_ok.mp hrequire
  cases hpath : host.sha256 path with
  | ok digest' =>
    rw [hpath] at hdigest
    rw [← hsame, ← Except.ok.inj hdigest]
  | error err =>
    rw [hpath] at hdigest
    cases hdigest

/-- What was prepared was checked. -/
theorem checked_of_prepare {validateAcl : Bool} (h : host.prepare validateAcl = .ok c) :
    Checked host c := by
  obtain ⟨c', -, h⟩ := bind_eq_ok.mp h
  obtain ⟨_, hfiles, h⟩ := bind_eq_ok.mp h
  have hc : c' = c := by
    cases validateAcl with
    | false => exact pure_eq_ok.mp h
    | true =>
      obtain ⟨_, -, h⟩ := bind_eq_ok.mp h
      exact pure_eq_ok.mp h
  subst hc
  obtain ⟨_, -, hfiles⟩ := bind_eq_ok.mp hfiles
  obtain ⟨_, hhashed, -⟩ := bind_eq_ok.mp hfiles
  refine ⟨sha256_of_check (forM_eq_ok hhashed (_, _, "tunnel-client executable") (by simp)),
    sha256_of_check (forM_eq_ok hhashed (_, _, "managed MCP runtime executable") (by simp)),
    fun path hpath digest hdigest => ?_⟩
  refine sha256_of_check (forM_eq_ok hhashed (path, digest, "managed MCP entrypoint") ?_)
  rw [hpath, hdigest]
  simp

theorem issued {args : List String} (hchecked : Checked host c)
    (hclient : args.head? = some c.tunnelClient)
    (hargs : args = c.statusArgs ∨ args = c.stopArgs ∨ c.connectArgs = .ok args) :
    Issued host c ⟨args, c.runtimeEnvironment host.environ, c.stateDir⟩ := by
  refine ⟨hchecked, fun key hkey => c.get?_runtimeEnvironment _ hkey, hclient, rfl, ?_⟩
  rcases hargs with hstatus | hstop | hconnect
  · exact .inl hstatus
  · exact .inr (.inl hstop)
  · obtain ⟨mcp, hmcp, rfl⟩ := map_eq_ok.mp hconnect
    exact .inr (.inr ⟨hconnect, mcp, rfl, c.readWords_mcpCommand hmcp⟩)

theorem awaits_run {args : List String}
    (h : Issued host c ⟨args, c.runtimeEnvironment host.environ, c.stateDir⟩) :
    Awaits (Orderly host c) (host.run c args) := by
  refine Awaits.bind (.answer h) fun result => ?_
  cases result with
  | raised err => exact .throw _
  | completed returncode stdout =>
    show Awaits _ (if returncode ≠ 0 then _ else _)
    split_ifs
    · exact .throw _
    · exact .pure _

theorem awaits_recorded {α : Type} {event : Except TunnelError α → TunnelEvent}
    {step : TunnelTask α} (h : Awaits (Orderly host c) step) :
    Awaits (Orderly host c) (recorded event step) := by
  refine Awaits.bind ?_ fun outcome => (Awaits.update _).bind fun _ => .ofResult outcome
  exact Awaits.tryCatch (h.bind fun _ => .pure _) fun _ => .pure _

theorem awaits_orElse {α : Type} {step : TunnelTask α} {default : α}
    (h : Awaits (Orderly host c) step) : Awaits (Orderly host c) (orElse step default) := by
  refine h.tryCatch fun err => ?_
  cases err with
  | service message => exact .pure _
  | raised cause => exact .throw _

variable (hchecked : Checked host c)
include hchecked

theorem awaits_readStatus (fresh : Bool) : Awaits (Orderly host c) (host.readStatus c fresh) :=
  awaits_recorded ((awaits_run (issued hchecked rfl (.inl rfl))).bind fun _ => .ofResult _)

theorem awaits_stopRuntime : Awaits (Orderly host c) (host.stopRuntime c) :=
  awaits_recorded ((awaits_run (issued hchecked rfl (.inr (.inl rfl)))).bind fun _ => .pure _)

theorem awaits_connectRuntime : Awaits (Orderly host c) (host.connectRuntime c) := by
  refine awaits_recorded ?_
  cases hargs : c.connectArgs with
  | error err => exact .throw_bind
  | ok args =>
    obtain ⟨mcp, -, rfl⟩ := map_eq_ok.mp hargs
    exact (awaits_run (issued hchecked rfl (.inr (.inr hargs)))).bind fun _ => .pure _

theorem awaits_check (message : String) : Awaits (Orderly host c) (host.check c message) := by
  refine (awaits_orElse ((awaits_readStatus hchecked false).map)).bind fun status => ?_
  split_ifs
  · exact .pure _
  · have hreconnect : Awaits (Orderly host c)
        (do
          host.connectRuntime c
          let status ← host.readStatus c true
          if ¬status.usable then throw (.service message)) := by
      refine (awaits_connectRuntime hchecked).bind fun _ =>
        (awaits_readStatus hchecked true).bind fun status => ?_
      split_ifs
      · exact .pure _
      · exact .throw _
    rw [restore]
    split_ifs
    · exact (awaits_orElse (awaits_stopRuntime hchecked)).bind fun _ => hreconnect
    · exact hreconnect

theorem awaits_serve (rounds : ℕ) : Awaits (Orderly host c) (host.serve c rounds) := by
  induction rounds with
  | zero => exact .pure _
  | succ rounds ih =>
    refine Awaits.bind (.answer (i := TunnelAwait.stopEvent _) trivial) fun stopped => ?_
    refine (Awaits.update _).bind fun _ => ?_
    split_ifs
    · exact .pure _
    · exact (awaits_check hchecked _).bind fun _ => ih

theorem awaits_supervise (rounds : ℕ) : Awaits (Orderly host c) (host.supervise c rounds) := by
  have hfinish : ∀ outcome : Except TunnelError Bool,
      Awaits (Orderly host c) (do host.finish c; ofResult outcome) := fun outcome =>
    ((awaits_stopRuntime hchecked).tryCatch fun _ => .pure _).bind fun _ => .ofResult outcome
  refine Awaits.bind (Awaits.tryCatch (Awaits.bind ?_ fun _ => .pure _) fun _ => .pure _)
    fun outcome => ?_
  · exact (awaits_check hchecked _).bind fun _ => awaits_serve hchecked rounds
  · cases outcome with
    | error err => exact hfinish _
    | ok told =>
      cases told with
      | false => exact .pure _
      | true => exact hfinish _

omit hchecked

/-- Whatever happens, the service runs no command before its files were checked, and then only
commands in order. -/
theorem issued_commands (host : TunnelHost) (validateAcl : Bool) (rounds : ℕ) :
    Awaits (fun i => ∃ c, host.prepare validateAcl = .ok c ∧ Orderly host c i)
      (host.runUntilStop validateAcl rounds) := by
  rw [runUntilStop]
  cases hprepare : host.prepare validateAcl with
  | error err => exact .throw_bind
  | ok c =>
    exact (awaits_supervise (checked_of_prepare hprepare) rounds).imp fun i h => ⟨c, rfl, h⟩

end TunnelHost

end VeraMesh.Tunnel
