import PamMvp.BinaryRounding
import PamMvp.DomainModel

/-!
# Runtime settings

The command line names a runtime directory and a number of seconds. The files in the
directory have fixed names, and the seconds become a duration in microseconds, which
must be positive.
-/
namespace PamMvp.RuntimeConfiguration
open BinaryRounding PythonText DomainModel

/-- A Python `float`. -/
inductive PyFloat where
  | nan
  | infinity (negative : Bool)
  | finite (value : ℚ)

/-- One day in microseconds. -/
def dayMicroseconds : ℤ := 86400000000

/-- `timedelta(seconds=seconds)`, in microseconds. -/
def timedelta : PyFloat → Except PyExn ℤ
  | .nan => .error (raised .valueError (py "cannot convert float NaN to integer"))
  | .infinity _ =>
    .error (raised .overflowError (py "cannot convert float infinity to integer"))
  | .finite seconds =>
    -- the fraction is multiplied as a `float`, the whole seconds as an `int`
    let fraction := seconds - truncate seconds
    let microseconds := roundHalfEven (truncate seconds * 1000000 + double (fraction * 1000000))
    if -999999999 * dayMicroseconds ≤ microseconds ∧
        microseconds < 1000000000 * dayMicroseconds then .ok microseconds
    else .error (raised .overflowError (py "must have magnitude <= 999999999"))

/-- `runtime_dir / name`. -/
structure RuntimePath where
  directory : PyStr
  name : PyStr
  deriving DecidableEq

structure RuntimeSettings where
  authDbPath : RuntimePath
  configDbPath : RuntimePath
  vaultDbPath : RuntimePath
  auditDbPath : RuntimePath
  vaultKeyPath : RuntimePath
  auditIntegrityKeyPath : RuntimePath
  maxSessionDuration : ℤ
  maxSessionDuration_pos : 0 < maxSessionDuration

/-- `_runtime_settings`. -/
def runtimeSettings (runtimeDir : PyStr) (maxSessionSeconds : PyFloat) :
    Except PyExn RuntimeSettings := do
  let maxSessionDuration ← timedelta maxSessionSeconds
  if h : 0 < maxSessionDuration then
    return {
      authDbPath := ⟨runtimeDir, py "auth.db"⟩
      configDbPath := ⟨runtimeDir, py "config.db"⟩
      vaultDbPath := ⟨runtimeDir, py "vault.db"⟩
      auditDbPath := ⟨runtimeDir, py "audit.db"⟩
      vaultKeyPath := ⟨runtimeDir, py "vault.key"⟩
      auditIntegrityKeyPath := ⟨runtimeDir, py "audit.key"⟩
      maxSessionDuration := maxSessionDuration
      maxSessionDuration_pos := h }
  else .error (raised .valueError (py "max_session_duration must be positive"))

end PamMvp.RuntimeConfiguration
