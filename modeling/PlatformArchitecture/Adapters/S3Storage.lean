import Mathlib.Data.List.DropRight
import PlatformArchitecture.Adapters.ScopedFiles
import PlatformArchitecture.Foundations.StatementProtocols

/-!
# Tenants in one bucket

The calls of `TenantScopedObjectStorage` run over `S3ObjectStorageAdapter` and one
bucket.  Keys of a bucket are texts and nothing resolves them, so contexts with
any ids stay apart here: an id that is a step on a file system is a name in a key,
or the adapter refuses it.
-/

namespace PlatformArchitecture.Adapters

open PlatformArchitecture.Foundations
open PlatformArchitecture.Security

/-! ## The adapter -/

/-- The options of an adapter to the one bucket. -/
structure S3ObjectStorageOptions where
  keyPrefix : Option String
  kmsKeyId : Option String

inductive ServerSideEncryption where
  | aes256
  | awsKms (keyId : String)

structure S3Object where
  body : List UInt8
  metadata : Metadata
  encryption : ServerSideEncryption

/-- The commands of the client; each names its key. -/
inductive S3Command where
  | putObject (key : String) (object : S3Object)
  | getObject (key : String)
  | deleteObject (key : String)
  | signGetObject (key : String) (expiresIn : JsNumber)

/-- An answer to `GetObject` has a body or none; a signature is a text. -/
abbrev S3Command.Reply : S3Command → Type
  | .getObject _ => Option (List UInt8)
  | .signGetObject _ _ => String
  | _ => Unit

def S3Command.key : S3Command → String
  | .putObject key _ => key
  | .getObject key => key
  | .deleteObject key => key
  | .signGetObject key _ => key

inductive S3Error where
  | thrown (message : String)
  | client (name : String)

inductive S3Reply where
  | done
  | bytes (body : List UInt8)
  | url (key : String) (expiresIn : JsNumber) (signature : String)

abbrev S3Program :=
  Program S3Command S3Command.Reply S3Error S3Reply

abbrev awaitClient (command : S3Command) :
    Program S3Command S3Command.Reply S3Error command.Reply :=
  Program.call command

def keyOrThrow {Value : Type} (verdict : Except String Value) :
    Program S3Command S3Command.Reply S3Error Value :=
  Program.check (verdict.mapError .thrown)

def safeKey (key : String) : Except String String :=
  let normalized := stripLeadingSlashes key
  if normalized.isEmpty || (segments normalized).any (· == "..".toList) then
    .error "INVALID_STORAGE_KEY"
  else
    .ok normalized

namespace S3ObjectStorageOptions

variable (options : S3ObjectStorageOptions)

/-- `options.prefix?.replace(/^\/+|\/+$/g, '') ?? ''`. -/
def trimmedPrefix : String :=
  match options.keyPrefix with
  | some given => String.ofList ((given.toList.dropWhile (· == '/')).rdropWhile (· == '/'))
  | none => ""

/-- A key of the bucket. -/
def bucketKey (value : String) : String :=
  if options.trimmedPrefix.isEmpty then value else options.trimmedPrefix ++ "/" ++ value

/-- An empty `kmsKeyId` is falsy. -/
def encryption : ServerSideEncryption :=
  match options.kmsKeyId with
  | some keyId => if keyId.isEmpty then .aes256 else .awsKms keyId
  | none => .aes256

end S3ObjectStorageOptions

namespace S3ObjectStorageAdapter

variable (options : S3ObjectStorageOptions)

def key (key : String) : Except String String :=
  (safeKey key).map options.bucketKey

def put (key : String) (body : List UInt8) (metadata : Metadata) : S3Program := do
  let stored ← keyOrThrow (S3ObjectStorageAdapter.key options key)
  awaitClient (.putObject stored ⟨body, metadata, options.encryption⟩)
  return .done

def get (key : String) : S3Program := do
  let stored ← keyOrThrow (S3ObjectStorageAdapter.key options key)
  let body ← awaitClient (.getObject stored)
  match body with
  | some bytes => return .bytes bytes
  | none => throw (.thrown "OBJECT_NOT_FOUND")

def delete (key : String) : S3Program := do
  let stored ← keyOrThrow (S3ObjectStorageAdapter.key options key)
  awaitClient (.deleteObject stored)
  return .done

/-- `Math.min(3600, Math.max(1, expiresSeconds))`. -/
def withinHour : JsNumber → JsNumber
  | .finite value => .finite (min 3600 (max 1 value))
  | .infinite true => .finite 1
  | .infinite false => .finite 3600

def signedUrl (key : String) (expiresSeconds : JsNumber) : S3Program := do
  let stored ← keyOrThrow (S3ObjectStorageAdapter.key options key)
  let signature ← awaitClient (.signGetObject stored (withinHour expiresSeconds))
  return .url stored (withinHour expiresSeconds) signature

def perform (key : String) : ObjectOperation → S3Program
  | .put body metadata => put options key body metadata
  | .get => get options key
  | .delete => delete options key
  | .signedUrl expiresSeconds => signedUrl options key expiresSeconds

end S3ObjectStorageAdapter

/-- A call of `TenantScopedObjectStorage` over the adapter. -/
def scopedObjectProgram (options : S3ObjectStorageOptions) (ctx : TenantScope)
    (call : ObjectCall) : S3Program := do
  let request ← keyOrThrow (call.delegated ctx)
  S3ObjectStorageAdapter.perform options request.1 request.2

/-! ## The bucket -/

/-- How one command goes: how it and its answer travel, whether the answer to
`GetObject` has its body, the text of a signature and the name of an error. -/
structure ClientChoice where
  delivery : Delivery
  hasBody : Bool
  signature : String
  error : String

abbrev Bucket :=
  String → Option S3Object

def ClientChoice.answer (choice : ClientChoice) (bucket : Bucket) :
    (command : S3Command) → Except S3Error command.Reply
  | .putObject _ _ => .ok ()
  | .getObject key =>
      match bucket key with
      | some object => .ok (if choice.hasBody then some object.body else none)
      | none => .error (.client "NoSuchKey")
  | .deleteObject _ => .ok ()
  | .signGetObject _ _ => .ok choice.signature

def storeObject (bucket : Bucket) : S3Command → Bucket
  | .putObject key object => Function.update bucket key (some object)
  | .deleteObject key => Function.update bucket key none
  | _ => bucket

section Calls

variable {Pid : Type}

def bucketServer : Server Pid ClientChoice Bucket S3Command S3Command.Reply S3Error where
  outcome _ choice command bucket :=
    match choice.delivery with
    | .answered => some (choice.answer bucket command, storeObject bucket command)
    | .refused => some (.error (.client choice.error), bucket)
    | .unacknowledged => some (.error (.client choice.error), storeObject bucket command)
  disconnect _ bucket := bucket

abbrev BucketWorld (Pid : Type) :=
  World Pid Bucket S3Command S3Command.Reply S3Error S3Reply

/-- Every call at its beginning, over any bucket. -/
def bucketStart (options : S3ObjectStorageOptions) (bucket : Bucket)
    (scopes : Pid → TenantScope) (calls : Pid → ObjectCall) : BucketWorld Pid :=
  World.start bucket fun pid => scopedObjectProgram options (scopes pid) (calls pid)

/-! ## Keys apart -/

/-- The key is of a context, below the prefix of the adapter. -/
def IsKeyOf (options : S3ObjectStorageOptions) (ctx : TenantScope) (key : String) : Prop :=
  ∃ rest, key = options.bucketKey (storagePrefix ctx ++ rest)

theorem bucketKey_injective (options : S3ObjectStorageOptions) :
    Function.Injective options.bucketKey := by
  intro first second same
  unfold S3ObjectStorageOptions.bucketKey at same
  split at same
  · exact same
  · have sameChars := congrArg String.toList same
    simp only [String.toList_append] at sameChars
    exact String.toList_injective (List.append_cancel_left sameChars)

theorem toList_storagePrefix_append (ctx : TenantScope) (rest : String) :
    (storagePrefix ctx ++ rest).toList =
      "tenants/".toList ++ ((encodeURIComponent ctx.tenantId).toList ++
        '/' :: ("workspaces/".toList ++ ((encodeURIComponent ctx.workspace).toList ++
          '/' :: rest.toList))) := by
  have middle : "/workspaces/".toList = '/' :: "workspaces/".toList := by decide
  have last : "/".toList = ['/'] := by decide
  rw [storagePrefix]
  simp only [String.toList_append, List.append_assoc, middle, last, List.cons_append,
    List.nil_append]

/-- The tenant and the workspace can be read back from a key. -/
theorem IsKeyOf.sameScope {options : S3ObjectStorageOptions} {first second : TenantScope}
    {key : String} (ofFirst : IsKeyOf options first key) (ofSecond : IsKeyOf options second key) :
    SameScope first second := by
  obtain ⟨rest, rfl⟩ := ofFirst
  obtain ⟨others, same⟩ := ofSecond
  have sameChars := congrArg String.toList (bucketKey_injective options same)
  rw [toList_storagePrefix_append, toList_storagePrefix_append] at sameChars
  obtain ⟨sameTenant, behindTenant⟩ :=
    segment_inj (slash_notMem_encodeURIComponent _) (slash_notMem_encodeURIComponent _)
      (List.append_cancel_left sameChars)
  obtain ⟨sameWorkspace, -⟩ :=
    segment_inj (slash_notMem_encodeURIComponent _) (slash_notMem_encodeURIComponent _)
      (List.append_cancel_left behindTenant)
  exact Prod.ext (encodeURIComponent_injective (String.toList_injective sameTenant))
    (encodeURIComponent_injective (String.toList_injective sameWorkspace))

theorem isKeyOf_of_sameScope {options : S3ObjectStorageOptions} {first second : TenantScope}
    {key : String} (same : SameScope first second) (isKey : IsKeyOf options first key) :
    IsKeyOf options second key := by
  obtain ⟨sameTenant, sameWorkspace⟩ := Prod.mk.inj same
  obtain ⟨rest, rfl⟩ := isKey
  refine ⟨rest, ?_⟩
  rw [storagePrefix, storagePrefix, sameTenant, sameWorkspace]

/-- What the adapter takes from a wrapper is a key of its context. -/
theorem isKeyOf_of_key {options : S3ObjectStorageOptions} {ctx : TenantScope}
    {normalized stored : String}
    (isStored : S3ObjectStorageAdapter.key options (storagePrefix ctx ++ normalized) =
      .ok stored) :
    IsKeyOf options ctx stored := by
  obtain ⟨safe, isSafe, rfl⟩ := map_eq_ok.mp isStored
  unfold safeKey at isSafe
  dsimp only at isSafe
  split at isSafe
  · cases isSafe
  · have isStripped := Except.ok.inj isSafe
    refine ⟨normalized, congrArg options.bucketKey ?_⟩
    apply String.toList_injective
    rw [← isStripped]
    obtain ⟨rest, begins⟩ := toList_scoped ctx normalized
    rw [stripLeadingSlashes, String.toList_ofList, begins]
    exact List.dropWhile_cons_of_neg (by decide)

/-! ## A call of a context -/

/-- A context issues commands under its own keys. -/
def ownKeys (options : S3ObjectStorageOptions) (ctx : TenantScope) :
    StatementProtocol Unit S3Command S3Command.Reply S3Error where
  allowed _ command := IsKeyOf options ctx command.key
  expected _ _ := True
  advance _ _ _ := ()

section Programs

variable {options : S3ObjectStorageOptions} {ctx : TenantScope}

theorem obeys_keyOrThrow {Value : Type} {verdict : Except String Value}
    {rest : Value → S3Program}
    (goesOn : ∀ value, verdict = .ok value →
      (rest value).Obeys (ownKeys options ctx) (fun _ _ => True) ()) :
    (keyOrThrow verdict >>= rest).Obeys (ownKeys options ctx) (fun _ _ => True) () := by
  cases verdict with
  | error message => trivial
  | ok value => exact goesOn value rfl

/-- One command under a key of the context, and no more. -/
theorem obeys_awaitClient {command : S3Command} {rest : command.Reply → S3Program}
    (isKey : IsKeyOf options ctx command.key)
    (ends : ∀ reply, (rest reply).Obeys (ownKeys options ctx) (fun _ _ => True) ()) :
    (awaitClient command >>= rest).Obeys (ownKeys options ctx) (fun _ _ => True) () := by
  apply Program.obeys_bind
  refine Program.obeys_call isKey ?_
  intro reply _
  cases reply with
  | ok value => exact ends value
  | error error => trivial

theorem obeys_perform {key : String}
    (isKey : ∀ stored, S3ObjectStorageAdapter.key options key = .ok stored →
      IsKeyOf options ctx stored)
    (operation : ObjectOperation) :
    (S3ObjectStorageAdapter.perform options key operation).Obeys (ownKeys options ctx)
      (fun _ _ => True) () := by
  cases operation with
  | put body metadata =>
      apply obeys_keyOrThrow
      intro stored isStored
      exact obeys_awaitClient (isKey stored isStored) fun _ => trivial
  | get =>
      apply obeys_keyOrThrow
      intro stored isStored
      refine obeys_awaitClient (isKey stored isStored) ?_
      intro body
      cases body with
      | some bytes => trivial
      | none => trivial
  | delete =>
      apply obeys_keyOrThrow
      intro stored isStored
      exact obeys_awaitClient (isKey stored isStored) fun _ => trivial
  | signedUrl expiresSeconds =>
      apply obeys_keyOrThrow
      intro stored isStored
      exact obeys_awaitClient (isKey stored isStored) fun _ => trivial

theorem obeys_scopedObjectProgram (call : ObjectCall) :
    (scopedObjectProgram options ctx call).Obeys (ownKeys options ctx) (fun _ _ => True) () := by
  apply obeys_keyOrThrow
  rintro ⟨key, operation⟩ delegated
  obtain ⟨normalized, -, isKey⟩ := ObjectCall.delegated_key delegated
  refine obeys_perform ?_ operation
  intro stored isStored
  rw [isKey] at isStored
  exact isKeyOf_of_key isStored

end Programs

/-! ## One command -/

/-- The buckets have the same objects under the keys of a context. -/
def HoldAlike (options : S3ObjectStorageOptions) (ctx : TenantScope) (first second : Bucket) :
    Prop :=
  ∀ key, IsKeyOf options ctx key → first key = second key

section Commands

variable {options : S3ObjectStorageOptions} {ctx : TenantScope} {first second : Bucket}

theorem HoldAlike.update (alike : HoldAlike options ctx first second) (stored : String)
    (object : Option S3Object) :
    HoldAlike options ctx (Function.update first stored object)
      (Function.update second stored object) := by
  intro key isKey
  by_cases same : key = stored
  · subst stored
    rw [Function.update_self, Function.update_self]
  · rw [Function.update_of_ne same, Function.update_of_ne same]
    exact alike key isKey

theorem HoldAlike.storeObject (alike : HoldAlike options ctx first second) (command : S3Command) :
    HoldAlike options ctx (storeObject first command) (storeObject second command) := by
  cases command with
  | putObject stored object => exact alike.update stored (some object)
  | deleteObject stored => exact alike.update stored none
  | getObject _ => exact alike
  | signGetObject _ _ => exact alike

/-- A command changes only what is under its key. -/
theorem storeObject_of_ne {bucket : Bucket} {command : S3Command} {key : String}
    (isOther : key ≠ command.key) : storeObject bucket command key = bucket key := by
  cases command with
  | getObject _ => rfl
  | signGetObject _ _ => rfl
  | putObject stored object => exact Function.update_of_ne isOther _ _
  | deleteObject stored => exact Function.update_of_ne isOther _ _

theorem HoldAlike.answer (alike : HoldAlike options ctx first second) {command : S3Command}
    (isKey : IsKeyOf options ctx command.key) (choice : ClientChoice) :
    choice.answer first command = choice.answer second command := by
  cases command with
  | getObject key =>
      have sameObject : first key = second key := alike key isKey
      simp only [ClientChoice.answer, sameObject]
  | putObject _ _ => rfl
  | deleteObject _ => rfl
  | signGetObject _ _ => rfl

end Commands

/-- Every call obeys its context. -/
def bucketPoint (options : S3ObjectStorageOptions) (scopes : Pid → TenantScope) (pid : Pid)
    (_bucket : Bucket) (program : S3Program) : Prop :=
  program.Obeys (ownKeys options (scopes pid)) (fun _ _ => True) ()

theorem unwinds_bucket (options : S3ObjectStorageOptions) (scopes : Pid → TenantScope)
    (observer : TenantScope) :
    World.Unwinds bucketServer (fun pid => SameScope (scopes pid) observer)
      (HoldAlike options observer) (bucketPoint options scopes) where
  own := by
    intro pid choice command next first second isMine alike obeys _
    have isKey := isKeyOf_of_sameScope isMine obeys.1
    have stored := alike.storeObject command
    obtain ⟨delivery, hasBody, signature, error⟩ := choice
    cases delivery with
    | answered => exact Option.Rel.some ⟨alike.answer isKey _, stored⟩
    | refused => exact Option.Rel.some ⟨rfl, alike⟩
    | unacknowledged => exact Option.Rel.some ⟨rfl, stored⟩
  others := by
    intro pid choice command next first second reply after notMine alike obeys answered
    have stored : HoldAlike options observer (storeObject first command) second := by
      intro key isKey
      have isOther : key ≠ command.key := by
        rintro rfl
        exact notMine (obeys.1.sameScope isKey)
      rw [storeObject_of_ne isOther]
      exact alike key isKey
    obtain ⟨delivery, hasBody, signature, error⟩ := choice
    cases delivery with
    | answered | unacknowledged =>
        cases answered
        exact stored
    | refused =>
        cases answered
        exact alike
  ownLost := fun _ alike => alike
  othersLost := fun _ alike => alike

variable [DecidableEq Pid]

theorem bucketPoint_step {options : S3ObjectStorageOptions} {scopes : Pid → TenantScope}
    (world : BucketWorld Pid) (event : Event Pid ClientChoice)
    (consistent : world.Consistent (fun _ => True) (bucketPoint options scopes)) :
    (world.step bucketServer event).Consistent (fun _ => True) (bucketPoint options scopes) := by
  refine @World.Consistent.step _ _ _ _ _ _ _ _ _ _ _ (fun _ _ => True) ?_ ?_ world event
    consistent trivial
  · intro world pid choice command next reply after consistent current _ _
    have obeys := consistent.points pid _ current
    exact ⟨trivial, obeys.2 reply trivial, fun _ _ _ standing => standing⟩
  · exact fun _ _ _ => ⟨trivial, fun _ _ standing => standing⟩

/-- Over one bucket and for every interleaving, with commands that fail or whose
answers are lost, the calls of a context return and throw as they do when only the
calls of that context are made, and leave the same objects under its keys. -/
theorem scopedBuckets_isolated (options : S3ObjectStorageOptions) (bucket : Bucket)
    (scopes : Pid → TenantScope) (calls : Pid → ObjectCall) (observer : TenantScope)
    (schedule : List (Event Pid ClientChoice)) :
    let start := bucketStart options bucket scopes calls
    let whole := run (World.step bucketServer) start schedule
    let alone := run (World.step bucketServer) start
      (schedule.filter fun event => SameScope (scopes (processOf event)) observer)
    (∀ pid, SameScope (scopes pid) observer → whole.programs pid = alone.programs pid) ∧
      ∀ key, IsKeyOf options observer key → whole.shared key = alone.shared key := by
  intro start whole alone
  have consistent : start.Consistent (fun _ => True) (bucketPoint options scopes) := by
    refine ⟨trivial, ?_⟩
    intro pid program starting
    cases starting
    exact obeys_scopedObjectProgram (calls pid)
  have same := World.run_looksAlike (unwinds_bucket options scopes observer) bucketPoint_step
    schedule consistent consistent ⟨fun _ _ => rfl, fun _ _ => rfl⟩
  exact ⟨same.programs, same.shared⟩

end Calls

end PlatformArchitecture.Adapters
