import Catalog.Command.Run
import Catalog.Proofs.AcceptedSettings
import Catalog.Proofs.GrantedOrigins
import Catalog.Proofs.Steps

set_option autoImplicit false

namespace Catalog

namespace OriginPolicy

variable {origins : List String}

theorem ofConfigured_eq_error (wildcard : "*" ∈ origins) :
    ofConfigured origins = .error .wildcard := by
  have named : origins ≠ [] := List.ne_nil_of_mem wildcard
  have legal : "*" ∈ origins.filter isLegal := List.mem_filter.mpr ⟨wildcard, rfl⟩
  simp only [ofConfigured, List.isEmpty_iff, named, List.contains_iff_mem, legal, if_false, if_true]

theorem exists_ofConfigured (noWildcard : "*" ∉ origins) :
    ∃ policy, ofConfigured origins = .ok policy := by
  by_cases named : origins = []
  · subst named
    exact ⟨.any, rfl⟩
  · exact ⟨_, ofConfigured_eq_listed named noWildcard⟩

end OriginPolicy

namespace Command

structure Starts (s : Settings) (store : Store) : Prop where
  built : "*" ∉ s.corsOrigins → ∃ policy, OriginPolicy.ofConfigured s.corsOrigins = .ok policy ∧
    Server.build s store =
      if Address.isValid s.address then .ok ⟨s.address, policy, store⟩
      else .error (.command (.bootFailed "HTTP server failed: invalid socket address syntax"))
  stopped : "*" ∈ s.corsOrigins → OriginPolicy.ofConfigured s.corsOrigins = .error .wildcard ∧
    Server.build s store = .error (.origins .wildcard)

theorem starts (s : Settings) (store : Store) : Starts s store where
  built noWildcard := by
    obtain ⟨policy, configured⟩ := OriginPolicy.exists_ofConfigured noWildcard
    refine ⟨policy, configured, ?_⟩
    rw [Server.build, configured]
    rfl
  stopped wildcard := by
    have stop := OriginPolicy.ofConfigured_eq_error wildcard
    refine ⟨stop, ?_⟩
    rw [Server.build, stop]
    rfl

theorem build_eq_error_origins_iff {s : Settings} {store : Store} {error : OriginError} :
    Server.build s store = .error (.origins error) ↔ "*" ∈ s.corsOrigins := by
  constructor
  · intro stopped
    by_contra noWildcard
    obtain ⟨policy, -, built⟩ := (starts s store).built noWildcard
    rw [built] at stopped
    split at stopped <;> cases stopped
  · intro wildcard
    cases error
    exact ((starts s store).stopped wildcard).2

theorem settingsOfFile_eq_ok_iff {path : String} {answer : FileAnswer} {s : Settings} :
    settingsOfFile path answer = .ok s ↔
      ∃ text, answer = .ok text ∧ Settings.ofText path text = .ok s := by
  cases answer with
  | error message => simp [settingsOfFile]
  | ok text => simp [settingsOfFile, Steps.mapError_eq_ok]

structure Reaches (files : String → FileAnswer) (now : Instant) (config : String) (s : Settings)
    (store : Store) : Prop where
  accepted : ∃ text, files config = .ok text ∧ Settings.ofText config text = .ok s
  loaded : loadStore (m := Id) files now s.seedPath = .ok store

variable {files : String → FileAnswer} {now : Instant} {config : String} {port : Option Nat}

theorem prepare_eq : prepare (m := Id) files now config port =
    match settingsOfFile config (files config) with
    | .error error => .error (.command error)
    | .ok s =>
      match loadStore (m := Id) files now s.seedPath with
      | .error error => .error (.command error)
      | .ok store => Server.build { s with port := port.getD s.port } store := rfl

theorem prepare_eq_error_origins_iff {error : OriginError} :
    prepare (m := Id) files now config port = .error (.origins error) ↔
      ∃ s store, Reaches files now config s store ∧ "*" ∈ s.corsOrigins := by
  rw [prepare_eq]
  constructor
  · intro stopped
    split at stopped
    next => cases stopped
    next s read =>
      split at stopped
      next => cases stopped
      next store loaded =>
        have wildcard := build_eq_error_origins_iff.mp stopped
        exact ⟨s, store, ⟨settingsOfFile_eq_ok_iff.mp read, loaded⟩, wildcard⟩
  · rintro ⟨s, store, reaches, wildcard⟩
    rw [settingsOfFile_eq_ok_iff.mpr reaches.accepted]
    simp only [reaches.loaded]
    exact build_eq_error_origins_iff.mpr wildcard

end Command

namespace Outcome

def crashCode : Nat := 101

theorem code_ofUsage (error : UsageError) : (ofUsage error).code ≠ crashCode := by
  cases error <;> simp [ofUsage, crashCode]

theorem code_ofCompile (result : Except CommandError Json) :
    (ofCompile result).code ≠ crashCode := by
  cases result <;> simp [ofCompile, ofError, crashCode]

theorem code_ofServe_iff {result : Except ServeFailure Server} :
    (ofServe result).code = crashCode ↔ ∃ error, result = .error (.origins error) := by
  rcases result with (error | error) | server
  · simp [ofServe, ofError, crashCode]
  · exact iff_of_true rfl ⟨error, rfl⟩
  · simp [ofServe, ofError, crashCode]

end Outcome

theorem run_eq (files : String → FileAnswer) (now : Instant) (args : List String) :
    run (m := Id) files now args =
      match Command.read args with
      | .error error => Outcome.ofUsage error
      | .ok (.serve config port) => Outcome.ofServe (Command.prepare (m := Id) files now config port)
      | .ok (.compile entity seed query) =>
        Outcome.ofCompile (Command.compileQuery (m := Id) files now entity seed query) := rfl

theorem code_run_iff {files : String → FileAnswer} {now : Instant} {args : List String} :
    (run (m := Id) files now args).code = Outcome.crashCode ↔
      ∃ config port s store, Command.read args = .ok (.serve config port) ∧
        Command.Reaches files now config s store ∧ "*" ∈ s.corsOrigins := by
  rw [run_eq]
  split
  next error read => simp [Outcome.code_ofUsage, read]
  next config port read =>
    rw [Outcome.code_ofServe_iff]
    constructor
    · rintro ⟨error, stopped⟩
      obtain ⟨s, store, reaches, wildcard⟩ := Command.prepare_eq_error_origins_iff.mp stopped
      exact ⟨config, port, s, store, read, reaches, wildcard⟩
    · rintro ⟨config', port', s, store, same, reaches, wildcard⟩
      cases read.symm.trans same
      exact ⟨.wildcard, Command.prepare_eq_error_origins_iff.mpr ⟨s, store, reaches, wildcard⟩⟩
  next read => simp [Outcome.code_ofCompile, read]

namespace Settings

variable {path text : String} {s : Settings}

-- Any other list of origins could stand in the place of these, and a run that gets as far as the
-- origins crashes on just a lone asterisk.
structure BuildsRouter (path : String) (s : Settings) : Prop where
  router : (∃ policy, OriginPolicy.ofConfigured s.corsOrigins = .ok policy) ↔ "*" ∉ s.corsOrigins
  server : ∀ store, Command.Starts s store
  others : ∀ origins, ∃ other, ofText path other = .ok { s with corsOrigins := origins }
  crash : ∀ files now args port store, Command.read args = .ok (.serve path port) →
    Command.Reaches files now path s store →
    ((run (m := Id) files now args).code = Outcome.crashCode ↔ "*" ∈ s.corsOrigins)

theorem router_built_unless_wildcard (accepted : ofText path text = .ok s) :
    BuildsRouter path s where
  router := by
    constructor
    · rintro ⟨policy, configured⟩ wildcard
      rw [OriginPolicy.ofConfigured_eq_error wildcard] at configured
      cases configured
    · exact OriginPolicy.exists_ofConfigured
  server := Command.starts s
  others origins := by
    have valid : s.Valid := exists_text_iff.mp ⟨text, accepted⟩
    exact exists_text_iff.mpr (valid.withOrigins origins)
  crash files now args port store read reaches := by
    rw [code_run_iff]
    constructor
    · rintro ⟨config, port', s', store', same, reaches', wildcard⟩
      cases read.symm.trans same
      obtain ⟨text, found, given⟩ := reaches.accepted
      obtain ⟨text', found', given'⟩ := reaches'.accepted
      cases found.symm.trans found'
      cases given.symm.trans given'
      exact wildcard
    · intro wildcard
      exact ⟨path, port, s, store, read, reaches, wildcard⟩

def oddOriginsText : String :=
  "\x7b\"cors_origins\": [\"**\", \" *\", \"*\\n\", \"\"]\x7d"

def oddOrigins : Settings := { corsOrigins := ["**", " *", "*\n", ""] }

theorem router_built_unless_wildcard_oddOrigins :
    ofText "catalogd.json" oddOriginsText = .ok oddOrigins ∧ "*" ∉ oddOrigins.corsOrigins ∧
      BuildsRouter "catalogd.json" oddOrigins := by
  have accepted : ofText "catalogd.json" oddOriginsText = .ok oddOrigins := by decide +kernel
  exact ⟨accepted, by decide, router_built_unless_wildcard accepted⟩

def wildcardText : String := "\x7b\"cors_origins\": [\"*\"]\x7d"

theorem wildcard_stops_router :
    (∃ s, ofText "./catalogd.json" wildcardText = .ok s ∧
      ¬∃ policy, OriginPolicy.ofConfigured s.corsOrigins = .ok policy) ∧
    ∀ now, run (m := Id) (fun _ => .ok wildcardText) now ["serve"] =
      ⟨101, "", OriginError.wildcard.message ++ "\n"⟩ := by
  have accepted : ofText "./catalogd.json" wildcardText = .ok { corsOrigins := ["*"] } := by
    decide +kernel
  refine ⟨⟨_, accepted, ?_⟩, ?_⟩
  · rintro ⟨policy, configured⟩
    cases configured
  · intro now
    have read : Command.read ["serve"] = .ok (.serve "./catalogd.json" none) := by decide +kernel
    have reaches : Command.Reaches (fun _ => .ok wildcardText) now "./catalogd.json"
        { corsOrigins := ["*"] } .empty := ⟨⟨_, rfl, accepted⟩, rfl⟩
    have stopped : Command.prepare (m := Id) (fun _ => .ok wildcardText) now "./catalogd.json" none =
        .error (.origins .wildcard) :=
      Command.prepare_eq_error_origins_iff.mpr ⟨_, _, reaches, List.mem_singleton.mpr rfl⟩
    rw [run_eq, read]
    exact congrArg Outcome.ofServe stopped

end Settings
end Catalog
