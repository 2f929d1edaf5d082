import VoxelStream.Store
import VoxelStream.Notice

/-!
# The token scope

Requests to a store need an access token.  Issuing and refreshing tokens is up to the application,
which offers both as actions.  `withToken` runs an operation with the current token.  If the store
does not accept the token, a fresh one is obtained and the operation runs once more.  No other
failure leads to a second run, and there is never a third.

Actions read and change a state of any type.
-/

namespace VoxelStream

/-- How tokens are obtained in a state of type `σ`. -/
structure TokenPorts (σ : Type) where
  token : StateM σ (Except AuthError String)
  /-- A fresh token instead of the current one. -/
  refresh : StateM σ (Except AuthError String)
  note : Notice → StateM σ Unit

variable {σ α : Type}

/-- Runs an operation with a fresh token. -/
def withFreshToken (ports : TokenPorts σ) (operation : String → StateM σ (Except FetchError α)) :
    StateM σ (Except FetchError α) := do
  match ← ports.refresh with
  | .error e => return .error (.auth e)
  | .ok token => operation token

/-- Runs an operation with the current token, and once more with a fresh one if the current one
was not accepted. -/
def withToken (ports : TokenPorts σ) (operation : String → StateM σ (Except FetchError α)) :
    StateM σ (Except FetchError α) := do
  match ← ports.token with
  | .error e => return .error (.auth e)
  | .ok token =>
    match ← operation token with
    | .ok value => return .ok value
    | .error e =>
      if e.isAuthorizationFailure then
        ports.note .tokenRefused
        withFreshToken ports operation
      else return .error e

end VoxelStream
