import PlatformArchitecture.ControlApi.Operators
import PlatformArchitecture.Foundations.Json
import PlatformArchitecture.PolicyEngine.PlatformPolicy

/-!
# Secret metadata

The secrets page holds metadata only.  A body with a field that could carry
secret material, at any depth, is refused, and such fields are redacted in what
is read.
-/

namespace PlatformArchitecture.ControlApi

open PlatformArchitecture.Foundations
open PlatformArchitecture.PolicyEngine

def forbiddenSecretFields : List String :=
  ["secret", "secretvalue", "value", "plaintext", "password", "passphrase", "token",
    "accesstoken", "refreshtoken", "authorization", "credential", "credentials",
    "apikey", "clientsecret", "privatekey", "privatekeypem"]

/-- `key.toLowerCase().replace(/[^a-z0-9]/g, '')`. -/
def normalizedKey (key : String) : String :=
  String.ofList
    ((key.toList.flatMap toLowerCase).filter fun c =>
      ('a' ≤ c && c ≤ 'z') || ('0' ≤ c && c ≤ '9'))

mutual

def assertSecretMetadataOnly (path : String) : Json → Except ApiError Unit
  | .arr items => assertItems path 0 items
  | .obj fields => assertFields path fields
  | _ => .ok ()

def assertItems (path : String) (index : Nat) : List Json → Except ApiError Unit
  | [] => .ok ()
  | item :: rest => do
      assertSecretMetadataOnly (path ++ "[" ++ toString index ++ "]") item
      assertItems path (index + 1) rest

def assertFields (path : String) : List (String × Json) → Except ApiError Unit
  | [] => .ok ()
  | (key, nested) :: rest => do
      throwIf (normalizedKey key ∈ forbiddenSecretFields)
        ⟨400, "PLAINTEXT_SECRET_FORBIDDEN",
          "Plaintext secret material is forbidden at " ++ path ++ "." ++ key⟩
      assertSecretMetadataOnly (path ++ "." ++ key) nested
      assertFields path rest

end

mutual

def redactSecretMaterial (key : String) (value : Json) : Json :=
  if normalizedKey key ∈ forbiddenSecretFields then
    .str "[REDACTED]"
  else
    match value with
    | .arr items => .arr (redactItems items)
    | .obj fields => .obj (redactFields fields)
    | other => other

def redactItems : List Json → List Json
  | [] => []
  | item :: rest => redactSecretMaterial "" item :: redactItems rest

def redactFields : List (String × Json) → List (String × Json)
  | [] => []
  | (key, nested) :: rest => (key, redactSecretMaterial key nested) :: redactFields rest

end

end PlatformArchitecture.ControlApi
