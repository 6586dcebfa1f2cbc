import RecordQuery.Json.Decode
import RecordQuery.Log.Placing

/-!
Loading the settings.

Defaults are overridden by a JSON file and then by variables of the environment. A file that is
missing or cannot be read counts as empty. The first use of the shared settings also applies them
to the logger.
-/

namespace RecordQuery.Settings

/-- A way to write entries. -/
abbrev Recorder := Log.Severity → String → Entries → Action Unit

/-- The component of entries about settings. -/
def component : String := "config"

def log : Recorder := Log.record component

def sections (values : Entries) : Value := .list (values.map Prod.fst)

/-- The values of the file over the defaults. Some texts are nested too deep to be followed. -/
def loadFileWith (log : Recorder) (exhausts : String → Bool) (file : String) : Action Entries := do
  let path := plainPath file
  let unreadable (reason : String) : Action Entries := do
    log .error "config_file_load_error"
      [(.text "path", .text path), (.text "error", .text reason),
        (.text "using_defaults", .bool true)]
    return defaults
  let session ← get
  match session.files.get? path with
  | none =>
      if session.files.isDirectory path then unreadable "is a directory"
      else
        log .debug "config_file_not_found"
          [(.text "path", .text path), (.text "using_defaults", .bool true)]
        return defaults
  | some text =>
      if exhausts text then throw .endless
      else
        match Json.decode text with
        | .error .malformed => unreadable "malformed text"
        | .error .oversized => throw .invalidValue
        | .ok (.mapping entries) =>
            log .info "config_file_loaded"
              [(.text "path", .text path), (.text "sections", sections entries)]
            return merge defaults entries
        | .ok _ => throw (.settings (.notObject path))

def applyOverridesWith (log : Recorder) (values : Entries) : List Override → Action Entries
  | [] => return values
  | override :: rest => do
      match (← get).environmentText? override.variableName with
      | none => applyOverridesWith log values rest
      | some text =>
          let value := convert text
          let changed ← Action.lift (writeInto values override.sectionName override.valueName value)
          log .debug "env_override_applied"
            [(.text "env_var", .text override.variableName),
              (.text "config_path", .text override.path), (.text "value", value)]
          applyOverridesWith log changed rest

/-- The file to load: the given one, the one that a variable names, or the usual one. -/
def chooseFile (file : String) (session : Session) : String :=
  if file.isEmpty then (session.environmentText? fileVariable).getD defaultFile else file

def loadWith (log : Recorder) (exhausts : String → Bool) (file : String) : Action Settings := do
  let chosen := chooseFile file (← get)
  let fromFile ← loadFileWith log exhausts chosen
  let values ← applyOverridesWith log fromFile overrides
  log .info "unified_config_loaded"
    [(.text "config_file", .text chosen), (.text "config_sections", sections values)]
  return { file := chosen, values }

def loadFile (file : String) : Action Entries := loadFileWith log (fun _ => false) file

def applyOverrides (values : Entries) (listed : List Override) : Action Entries :=
  applyOverridesWith log values listed

/-- Loads settings where nothing is refused. -/
def load (file : String) : Action Settings := loadWith log (fun _ => false) file

def loadOn (host : Host) (file : String) : Action Settings := do
  modify fun session => { session with environment := session.environment ++ host.presets }
  loadWith (Log.recordOn host component) host.exhausts file

def shared : Action Settings := do
  match (← get).settings? with
  | some settings => return settings
  | none =>
      let settings ← load ""
      modify fun session => { session with settings? := some settings }
      Log.configure (.text settings.logDirectory) settings.logLevel
      return settings

def sharedOn (host : Host) : Action Settings := do
  match (← get).settings? with
  | some settings => return settings
  | none =>
      let settings ← loadOn host ""
      modify fun session => { session with settings? := some settings }
      Log.configureOn host (.text settings.logDirectory) settings.logLevel
      return settings

def reset : Action Unit := modify fun session => { session with settings? := none }

end RecordQuery.Settings
