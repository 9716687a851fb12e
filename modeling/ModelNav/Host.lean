import ModelNav.Settings.Sources

/-!
# The surroundings of the program

Settings that nobody gave are loaded once and then kept.  Loading that fails keeps nothing, so it is
tried again the next time.  Every load has a serial number, by which two loads of equal settings are
told apart.
-/

namespace ModelNav

/-- What the program finds around it: the files, the process environment, and the settings that were
loaded before, with the serial number of that load. -/
structure Host where
  files : FileSystem
  environment : Environment := []
  loaded : Option (Nat × Settings) := none
  loadCount : Nat := 0

namespace Host

/-- Loads the settings anew and keeps them. -/
def reloadSettings (host : Host) : Host × Except Failure (Nat × Settings) :=
  match Settings.current host.files host.environment with
  | .ok settings =>
    ({ host with loaded := some (host.loadCount, settings), loadCount := host.loadCount + 1 },
      .ok (host.loadCount, settings))
  | .error failure => ({ host with loaded := none }, .error failure)

/-- The settings that were kept, or else loaded now. -/
def settings (host : Host) : Host × Except Failure (Nat × Settings) :=
  match host.loaded with
  | some kept => (host, .ok kept)
  | none => host.reloadSettings

/-- The settings that were given, or else those of the host. -/
def settingsOr (host : Host) (given : Option Settings) : Host × Except Failure Settings :=
  match given with
  | some settings => (host, .ok settings)
  | none => (host.settings.1, host.settings.2.map (·.2))

@[simp]
theorem settingsOr_some (host : Host) (settings : Settings) :
    host.settingsOr (some settings) = (host, .ok settings) := rfl

/-- Settings that were kept are given again. -/
@[simp]
theorem settings_of_loaded
    {host : Host}
    {kept : Nat × Settings}
    (loaded : host.loaded = some kept) :
    host.settings = (host, .ok kept) := by
  simp [settings, loaded]

end Host
end ModelNav
