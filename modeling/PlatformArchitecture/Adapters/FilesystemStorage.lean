import PlatformArchitecture.Foundations.JsNumbers
import PlatformArchitecture.Security.TenantScopedStorage

/-!
# Tenant-scoped storage on a file system

The adapter resolves the key it is given from its root and refuses what leads
out of the root.  The prefix of a tenant and workspace is percent-encoded,
which leaves `.`, `..` and the empty text alone, so resolution takes such an
id for a step and not for a name.  A tenant stays in its own directory exactly
when its ids are names.
-/

namespace PlatformArchitecture.Adapters

open PlatformArchitecture.Foundations
open PlatformArchitecture.Security

/-- The directory that the root of the adapter resolves to. -/
def baseDirectory (workingDirectory : AbsolutePath) (root : String) : AbsolutePath :=
  workingDirectory.resolve root

def safePath (workingDirectory : AbsolutePath) (root key : String) :
    Except String AbsolutePath :=
  let base := baseDirectory workingDirectory root
  let target := base.resolve (stripLeadingSlashes key)
  if target.text != base.text &&
      !(base.text ++ "/").toList.isPrefixOf target.text.toList then
    .error "INVALID_STORAGE_KEY"
  else
    .ok target

/-- What the adapter asks of the file system, in order. -/
inductive FileCall where
  | mkdir (directory : AbsolutePath)
  | writeFile (file : AbsolutePath) (body : List UInt8)
  | readFile (file : AbsolutePath)
  | rm (file : AbsolutePath)
  | fileUrl (file : AbsolutePath) (expiresSeconds : JsNumber)

namespace FilesystemObjectStorageAdapter

def put (workingDirectory : AbsolutePath) (root key : String) (body : List UInt8) :
    Except String (List FileCall) :=
  (safePath workingDirectory root key).map fun target =>
    [.mkdir (target.resolve ".."), .writeFile target body]

/-- Every error of `get` is reported as a missing object. -/
def get (workingDirectory : AbsolutePath) (root key : String) :
    Except String (List FileCall) :=
  match safePath workingDirectory root key with
  | .error _ => .error "OBJECT_NOT_FOUND"
  | .ok target => .ok [.readFile target]

def delete (workingDirectory : AbsolutePath) (root key : String) :
    Except String (List FileCall) :=
  (safePath workingDirectory root key).map fun target => [.rm target]

/-- `Math.max(1, expiresSeconds)`. -/
def atLeastOne : JsNumber → JsNumber
  | .finite value => .finite (max 1 value)
  | .infinite true => .finite 1
  | .infinite false => .infinite false

def signedUrl (workingDirectory : AbsolutePath) (root key : String)
    (expiresSeconds : JsNumber) : Except String (List FileCall) :=
  (safePath workingDirectory root key).map fun target =>
    [.fileUrl target (atLeastOne expiresSeconds)]

/-- The adapter ignores the metadata of a `put`. -/
def perform (workingDirectory : AbsolutePath) (root key : String) :
    ObjectOperation → Except String (List FileCall)
  | .put body _metadata => put workingDirectory root key body
  | .get => get workingDirectory root key
  | .delete => delete workingDirectory root key
  | .signedUrl expiresSeconds => signedUrl workingDirectory root key expiresSeconds

end FilesystemObjectStorageAdapter

/-- The file a call reads, writes, removes or hands out the address of. -/
def FileCall.file : FileCall → Option AbsolutePath
  | .mkdir _ => none
  | .writeFile file _ => some file
  | .readFile file => some file
  | .rm file => some file
  | .fileUrl file _ => some file

/-- `TenantScopedObjectStorage` over the adapter. -/
def scopedFileCalls (workingDirectory : AbsolutePath) (root : String) (ctx : TenantScope)
    (call : ObjectCall) : Except String (List FileCall) := do
  let request ← call.delegated ctx
  FilesystemObjectStorageAdapter.perform workingDirectory root request.1 request.2

/-- Some call of a context touches the file. -/
def Touches (workingDirectory : AbsolutePath) (root : String) (ctx : TenantScope)
    (file : AbsolutePath) : Prop :=
  ∃ call calls, scopedFileCalls workingDirectory root ctx call = .ok calls ∧
    ∃ fileCall ∈ calls, fileCall.file = some file

/-- The segments of a context's prefix. -/
def scopeSegments (ctx : TenantScope) : List Segment :=
  ["tenants".toList, (encodeURIComponent ctx.tenantId).toList,
    "workspaces".toList, (encodeURIComponent ctx.workspace).toList]

theorem length_scopeSegments (ctx : TenantScope) : (scopeSegments ctx).length = 4 :=
  rfl

/-- Every file a context touches is in the root and in the directory that is
named after the tenant and the workspace. -/
def StaysInDirectory (workingDirectory : AbsolutePath) (root : String) (ctx : TenantScope) :
    Prop :=
  ∀ file, Touches workingDirectory root ctx file →
    (baseDirectory workingDirectory root).names <+: file.names ∧
      (baseDirectory workingDirectory root).names ++ scopeSegments ctx <+: file.names

/-- No file is touched by both contexts. -/
def FilesDisjoint (workingDirectory : AbsolutePath) (root : String)
    (first second : TenantScope) : Prop :=
  ∀ file, Touches workingDirectory root first file →
    ¬ Touches workingDirectory root second file

/-- What the comparison of texts lets through: the directory itself or, unless
it is `/`, what is further down. -/
theorem textInside_iff {base target : AbsolutePath} :
    target.text = base.text ∨ (base.text ++ "/").toList <+: target.text.toList ↔
      target = base ∨ base ≠ AbsolutePath.root ∧ base.names <+: target.names := by
  constructor
  · rintro (sameText | begins)
    · exact Or.inl (AbsolutePath.text_injective sameText)
    · right
      have notRoot : base ≠ AbsolutePath.root := by
        rintro rfl
        exact AbsolutePath.not_text_root_slash_prefix target begins
      exact ⟨notRoot, ((AbsolutePath.text_slash_prefix_iff notRoot target).mp begins).1⟩
  · rintro (same | ⟨notRoot, isPrefix⟩)
    · exact Or.inl (congrArg AbsolutePath.text same)
    · by_cases same : base = target
      · exact Or.inl (congrArg AbsolutePath.text same.symm)
      · exact Or.inr ((AbsolutePath.text_slash_prefix_iff notRoot target).mpr ⟨isPrefix, same⟩)

theorem safePath_ok_iff {workingDirectory : AbsolutePath} {root key : String}
    {file : AbsolutePath} :
    safePath workingDirectory root key = .ok file ↔
      file = (baseDirectory workingDirectory root).resolve (stripLeadingSlashes key) ∧
        (file = baseDirectory workingDirectory root ∨
          baseDirectory workingDirectory root ≠ AbsolutePath.root ∧
            (baseDirectory workingDirectory root).names <+: file.names) := by
  unfold safePath
  dsimp only
  rw [← textInside_iff]
  split
  · next outside =>
    rw [Bool.and_eq_true, bne_iff_ne, Bool.not_eq_true', ← Bool.not_eq_true,
      List.isPrefixOf_iff_prefix] at outside
    constructor
    · intro impossible
      cases impossible
    · rintro ⟨rfl, sameText | begins⟩
      · exact absurd sameText outside.1
      · exact absurd begins outside.2
  · next inside =>
    rw [Bool.and_eq_true, bne_iff_ne, Bool.not_eq_true', ← Bool.not_eq_true,
      List.isPrefixOf_iff_prefix, not_and_or, not_not, not_not] at inside
    constructor
    · intro isFile
      cases isFile
      exact ⟨rfl, inside⟩
    · rintro ⟨rfl, _⟩
      rfl

theorem relativeStorageKey_ok {key normalized : String}
    (accepted : relativeStorageKey key = .ok normalized) :
    ['.', '.'] ∉ segments normalized := by
  unfold relativeStorageKey at accepted
  dsimp only at accepted
  split at accepted
  · cases accepted
  · next passes =>
    cases accepted
    intro dotDot
    apply passes
    rw [Bool.or_eq_true]
    right
    exact List.any_eq_true.mpr ⟨['.', '.'], dotDot, by decide⟩

private theorem perform_file {workingDirectory : AbsolutePath} {root key : String}
    {operation : ObjectOperation} {calls : List FileCall}
    (performed :
      FilesystemObjectStorageAdapter.perform workingDirectory root key operation = .ok calls)
    {fileCall : FileCall} (member : fileCall ∈ calls) {file : AbsolutePath}
    (touched : fileCall.file = some file) :
    safePath workingDirectory root key = .ok file := by
  have isTarget : ∀ {target : AbsolutePath}, safePath workingDirectory root key = .ok target →
      target = file → safePath workingDirectory root key = .ok file := by
    intro target isSafe same
    rw [isSafe, same]
  cases operation with
  | put body metadata =>
      dsimp only [FilesystemObjectStorageAdapter.perform,
        FilesystemObjectStorageAdapter.put] at performed
      obtain ⟨target, isSafe, rfl⟩ := map_eq_ok.mp performed
      rcases List.mem_cons.mp member with isMkdir | isWrite
      · rw [isMkdir] at touched
        cases touched
      · rw [List.mem_singleton.mp isWrite] at touched
        exact isTarget isSafe (Option.some.inj touched)
  | get =>
      dsimp only [FilesystemObjectStorageAdapter.perform,
        FilesystemObjectStorageAdapter.get] at performed
      split at performed
      · cases performed
      · next target isSafe =>
        cases performed
        rw [List.mem_singleton.mp member] at touched
        exact isTarget isSafe (Option.some.inj touched)
  | delete =>
      dsimp only [FilesystemObjectStorageAdapter.perform,
        FilesystemObjectStorageAdapter.delete] at performed
      obtain ⟨target, isSafe, rfl⟩ := map_eq_ok.mp performed
      rw [List.mem_singleton.mp member] at touched
      exact isTarget isSafe (Option.some.inj touched)
  | signedUrl expiresSeconds =>
      dsimp only [FilesystemObjectStorageAdapter.perform,
        FilesystemObjectStorageAdapter.signedUrl] at performed
      obtain ⟨target, isSafe, rfl⟩ := map_eq_ok.mp performed
      rw [List.mem_singleton.mp member] at touched
      exact isTarget isSafe (Option.some.inj touched)

private theorem perform_get {workingDirectory : AbsolutePath} {root key : String}
    {file : AbsolutePath} (isSafe : safePath workingDirectory root key = .ok file) :
    FilesystemObjectStorageAdapter.perform workingDirectory root key .get =
      .ok [.readFile file] := by
  unfold FilesystemObjectStorageAdapter.perform FilesystemObjectStorageAdapter.get
  dsimp only
  rw [isSafe]

/-- The files a context touches are those its accepted keys resolve to. -/
theorem touches_iff {workingDirectory : AbsolutePath} {root : String} {ctx : TenantScope}
    {file : AbsolutePath} :
    Touches workingDirectory root ctx file ↔
      ∃ key normalized, relativeStorageKey key = .ok normalized ∧
        safePath workingDirectory root (storagePrefix ctx ++ normalized) = .ok file := by
  constructor
  · rintro ⟨call, calls, made, fileCall, member, touched⟩
    obtain ⟨⟨key, operation⟩, delegated, performed⟩ := bind_eq_ok.mp made
    obtain ⟨normalized, isRelative, rfl⟩ := ObjectCall.delegated_key delegated
    exact ⟨call.given, normalized, isRelative, perform_file performed member touched⟩
  · rintro ⟨key, normalized, isRelative, isSafe⟩
    refine ⟨.get key, [.readFile file], ?_, .readFile file, List.mem_singleton_self _, rfl⟩
    have delegated :
        (ObjectCall.get key).delegated ctx = .ok (storagePrefix ctx ++ normalized, .get) :=
      map_eq_ok.mpr ⟨_, map_eq_ok.mpr ⟨normalized, isRelative, rfl⟩, rfl⟩
    exact bind_eq_ok.mpr ⟨_, delegated, perform_get isSafe⟩

private theorem storagePrefix_eq (ctx : TenantScope) (normalized : String) :
    storagePrefix ctx ++ normalized =
      "tenants" ++ "/" ++ (encodeURIComponent ctx.tenantId ++ "/" ++
        ("workspaces" ++ "/" ++ (encodeURIComponent ctx.workspace ++ "/" ++ normalized))) := by
  have tenants : "tenants/" = "tenants" ++ "/" := by decide
  have workspaces : "/workspaces/" = "/" ++ ("workspaces" ++ "/") := by decide
  rw [storagePrefix, tenants, workspaces]
  simp only [String.append_assoc]

private theorem segments_scoped (ctx : TenantScope) (normalized : String) :
    segments (storagePrefix ctx ++ normalized) = scopeSegments ctx ++ segments normalized := by
  rw [storagePrefix_eq, segments_append_slash, segments_append_slash, segments_append_slash,
    segments_append_slash, segments_of_noSlash (slash_notMem_encodeURIComponent ctx.tenantId),
    segments_of_noSlash (slash_notMem_encodeURIComponent ctx.workspace)]
  rfl

theorem toList_scoped (ctx : TenantScope) (normalized : String) :
    ∃ rest, (storagePrefix ctx ++ normalized).toList = 't' :: rest := by
  rw [storagePrefix_eq, String.append_assoc, String.toList_append]
  exact ⟨_, rfl⟩

/-- The names a scoped key resolves to. -/
theorem names_resolve_scoped (base : AbsolutePath) (ctx : TenantScope) (normalized : String) :
    (base.resolve (stripLeadingSlashes (storagePrefix ctx ++ normalized))).names =
      walk base.names (scopeSegments ctx ++ segments normalized) := by
  obtain ⟨rest, begins⟩ := toList_scoped ctx normalized
  have stripped :
      stripLeadingSlashes (storagePrefix ctx ++ normalized) = storagePrefix ctx ++ normalized := by
    apply String.toList_injective
    rw [stripLeadingSlashes, String.toList_ofList, begins]
    exact List.dropWhile_cons_of_neg (by decide)
  have relative : (storagePrefix ctx ++ normalized).toList.head? ≠ some '/' := by
    rw [begins, List.head?_cons]
    decide
  rw [stripped, AbsolutePath.names_resolve relative, segments_scoped]

/-- Ids that the encoding turns into a name. -/
def IsPlainId (id : String) : Prop :=
  id ≠ "" ∧ id ≠ "." ∧ id ≠ ".."

instance (id : String) : Decidable (IsPlainId id) :=
  inferInstanceAs (Decidable (_ ∧ _ ∧ _))

theorem toList_encodeURIComponent_eq {id kept : String}
    (unescaped : encodeURIComponent kept = kept) :
    (encodeURIComponent id).toList = kept.toList ↔ id = kept := by
  constructor
  · intro sameChars
    apply encodeURIComponent_injective
    rw [unescaped]
    exact String.toList_injective sameChars
  · rintro rfl
    rw [unescaped]

theorem isName_encodeURIComponent_iff (id : String) :
    IsName (encodeURIComponent id).toList ↔ IsPlainId id := by
  have empty := @toList_encodeURIComponent_eq id "" (by decide)
  have dot := @toList_encodeURIComponent_eq id "." (by decide)
  have dotDot := @toList_encodeURIComponent_eq id ".." (by decide)
  constructor
  · intro isName
    exact ⟨fun same => isName.nonempty (empty.mpr same), fun same => isName.notDot (dot.mpr same),
      fun same => isName.notDotDot (dotDot.mpr same)⟩
  · rintro ⟨notEmpty, notDot, notDotDot⟩
    exact ⟨fun same => notEmpty (empty.mp same), fun same => notDot (dot.mp same),
      fun same => notDotDot (dotDot.mp same), slash_notMem_encodeURIComponent id⟩

private theorem isName_tenants : IsName "tenants".toList := by decide

private theorem isName_workspaces : IsName "workspaces".toList := by decide

/-- The prefix of a context does not lead out of the directory it is resolved
from. -/
theorem prefix_walk_scope (names : List Segment) (ctx : TenantScope) :
    names <+: walk names (scopeSegments ctx) :=
  prefix_walk_named isName_tenants isName_workspaces names _ _

/-- The prefix leads back to where it is resolved from only by two `..`. -/
theorem walk_scope_eq {names : List Segment} {ctx : TenantScope}
    (back : walk names (scopeSegments ctx) = names) :
    ctx.tenantId = ".." ∧ ctx.workspace = ".." := by
  have dotDot : ∀ id : String, (encodeURIComponent id).toList = ['.', '.'] → id = ".." :=
    fun id => (@toList_encodeURIComponent_eq id ".." (by decide)).mp
  obtain ⟨tenant, workspace⟩ := walk_named_eq isName_tenants isName_workspaces back
  exact ⟨dotDot _ tenant, dotDot _ workspace⟩

/-- A key below the prefix that has no `..` stays below what the prefix
resolves to. -/
theorem touches_names {workingDirectory : AbsolutePath} {root : String} {ctx : TenantScope}
    {file : AbsolutePath} (touched : Touches workingDirectory root ctx file) :
    walk (baseDirectory workingDirectory root).names (scopeSegments ctx) <+: file.names ∧
      (file = baseDirectory workingDirectory root ∨
        baseDirectory workingDirectory root ≠ AbsolutePath.root) := by
  obtain ⟨key, normalized, isRelative, isSafe⟩ := touches_iff.mp touched
  obtain ⟨isFile, inside⟩ := safePath_ok_iff.mp isSafe
  constructor
  · rw [isFile, names_resolve_scoped, walk_append]
    exact prefix_walk (relativeStorageKey_ok isRelative)
  · exact inside.imp_right And.left

/-- Where the root is not `/`, an accepted key reaches what it resolves to if
that is in the root. -/
theorem touches_of_names {workingDirectory : AbsolutePath} {root : String} {ctx : TenantScope}
    {key normalized : String} {file : AbsolutePath}
    (notRoot : baseDirectory workingDirectory root ≠ AbsolutePath.root)
    (isRelative : relativeStorageKey key = .ok normalized)
    (names : file.names =
      walk (baseDirectory workingDirectory root).names (scopeSegments ctx ++ segments normalized))
    (inside : (baseDirectory workingDirectory root).names <+: file.names) :
    Touches workingDirectory root ctx file := by
  refine touches_iff.mpr ⟨key, normalized, isRelative, safePath_ok_iff.mpr ⟨?_, ?_⟩⟩
  · apply AbsolutePath.ext
    rw [names, names_resolve_scoped]
  · exact Or.inr ⟨notRoot, inside⟩

/-- Where the root is not `/`, every context reaches some file. -/
theorem touches_name {workingDirectory : AbsolutePath} {root : String}
    (notRoot : baseDirectory workingDirectory root ≠ AbsolutePath.root) (ctx : TenantScope) :
    ∃ file, Touches workingDirectory root ctx file ∧
      file.names = walk (baseDirectory workingDirectory root).names (scopeSegments ctx) ++
        [['o']] := by
  have single : segments "o" = [['o']] := by decide
  have isName : IsName ['o'] := by decide
  have names := names_resolve_scoped (baseDirectory workingDirectory root) ctx "o"
  have below := names
  rw [walk_append, single, walk_names (List.forall_mem_singleton.mpr isName)] at below
  refine ⟨_, touches_of_names notRoot (by decide : relativeStorageKey "o" = .ok "o") names ?_,
    below⟩
  rw [below]
  exact (prefix_walk_scope _ ctx).trans (List.prefix_append _ _)

theorem areNames_scopeSegments_iff (ctx : TenantScope) :
    (∀ segment ∈ scopeSegments ctx, IsName segment) ↔
      IsPlainId ctx.tenantId ∧ IsPlainId ctx.workspace := by
  rw [← isName_encodeURIComponent_iff, ← isName_encodeURIComponent_iff]
  constructor
  · intro areNames
    exact ⟨areNames _ (List.mem_cons_of_mem _ List.mem_cons_self),
      areNames _ (List.mem_cons_of_mem _ (List.mem_cons_of_mem _
        (List.mem_cons_of_mem _ List.mem_cons_self)))⟩
  · rintro ⟨tenantName, workspaceName⟩ segment member
    rcases List.mem_cons.mp member with isTenants | afterTenants
    · exact isTenants ▸ isName_tenants
    rcases List.mem_cons.mp afterTenants with isTenant | afterTenant
    · exact isTenant ▸ tenantName
    rcases List.mem_cons.mp afterTenant with isWorkspaces | afterWorkspaces
    · exact isWorkspaces ▸ isName_workspaces
    · exact List.mem_singleton.mp afterWorkspaces ▸ workspaceName

/-- The condition on one context: at `/` that its prefix does not lead back,
elsewhere that both ids are names. -/
def KeepsDirectory (base : AbsolutePath) (ctx : TenantScope) : Prop :=
  if base = AbsolutePath.root then ¬ (ctx.tenantId = ".." ∧ ctx.workspace = "..")
  else IsPlainId ctx.tenantId ∧ IsPlainId ctx.workspace

/-- At `/` only the directory itself passes, and only a prefix that leads back
to it reaches it. -/
private theorem touches_at_root_iff {workingDirectory : AbsolutePath} {root : String}
    (isRoot : baseDirectory workingDirectory root = AbsolutePath.root) (ctx : TenantScope) :
    (∃ file, Touches workingDirectory root ctx file) ↔
      ctx.tenantId = ".." ∧ ctx.workspace = ".." := by
  constructor
  · rintro ⟨file, touched⟩
    obtain ⟨below, same | notRoot⟩ := touches_names touched
    · rw [same, isRoot] at below
      exact walk_scope_eq (List.prefix_nil.mp below)
    · exact absurd isRoot notRoot
  · rintro ⟨tenantUp, workspaceUp⟩
    have isScope : scopeSegments ctx =
        ["tenants".toList, ['.', '.'], "workspaces".toList, ['.', '.']] := by
      rw [scopeSegments, tenantUp, workspaceUp]
      decide
    have names := names_resolve_scoped AbsolutePath.root ctx "."
    rw [isScope] at names
    have atRoot : AbsolutePath.root.resolve (stripLeadingSlashes (storagePrefix ctx ++ ".")) =
        AbsolutePath.root := by
      apply AbsolutePath.ext
      rw [names]
      decide
    refine ⟨AbsolutePath.root, touches_iff.mpr ⟨".", ".", by decide, ?_⟩⟩
    rw [safePath_ok_iff, isRoot]
    exact ⟨atRoot.symm, Or.inl rfl⟩

theorem staysInDirectory_iff (workingDirectory : AbsolutePath) (root : String)
    (ctx : TenantScope) :
    StaysInDirectory workingDirectory root ctx ↔
      KeepsDirectory (baseDirectory workingDirectory root) ctx := by
  unfold KeepsDirectory
  split
  · next isRoot =>
    rw [← touches_at_root_iff isRoot ctx]
    constructor
    · rintro stays ⟨file, touched⟩
      obtain ⟨below, same | notRoot⟩ := touches_names touched
      · have inside := (stays file touched).2
        rw [same, isRoot] at inside
        exact absurd (List.prefix_nil.mp inside) (List.cons_ne_nil _ _)
      · exact notRoot isRoot
    · intro untouched file touched
      exact absurd ⟨file, touched⟩ untouched
  · next notRoot =>
    rw [← areNames_scopeSegments_iff]
    constructor
    · intro stays segment member
      obtain ⟨file, touched, _names⟩ := touches_name notRoot ctx
      obtain ⟨rest, split⟩ := (stays file touched).2
      apply file.areNames
      rw [← split]
      exact List.mem_append_left _ (List.mem_append_right _ member)
    · intro areNames file touched
      have below := (touches_names touched).1
      rw [walk_names areNames] at below
      exact ⟨(List.prefix_append _ _).trans below, below⟩

/-- Both contexts stay in their directories and, if they differ, share no
file. -/
def ContextsKeptApart (workingDirectory : AbsolutePath) (root : String)
    (first second : TenantScope) : Prop :=
  StaysInDirectory workingDirectory root first ∧
    StaysInDirectory workingDirectory root second ∧
      ((first.tenantId, first.workspaceId) ≠ (second.tenantId, second.workspaceId) →
        FilesDisjoint workingDirectory root first second)

theorem scope_of_prefixes {names : List Segment} {first second : TenantScope}
    {file : List Segment} (firstBelow : names ++ scopeSegments first <+: file)
    (secondBelow : names ++ scopeSegments second <+: file) :
    (first.tenantId, first.workspace) = (second.tenantId, second.workspace) := by
  have sameLength :
      (names ++ scopeSegments first).length = (names ++ scopeSegments second).length := by
    rw [List.length_append, List.length_append, length_scopeSegments, length_scopeSegments]
  have sameDirectory :=
    (List.prefix_of_prefix_length_le firstBelow secondBelow sameLength.le).eq_of_length sameLength
  have afterTenants := (List.cons.inj (List.append_cancel_left sameDirectory)).2
  have afterTenant := (List.cons.inj afterTenants).2
  have afterWorkspaces := (List.cons.inj afterTenant).2
  have sameTenant :=
    encodeURIComponent_injective (String.toList_injective (List.cons.inj afterTenants).1)
  have sameWorkspace :=
    encodeURIComponent_injective (String.toList_injective (List.cons.inj afterWorkspaces).1)
  rw [sameTenant, sameWorkspace]

private theorem filesDisjoint_iff {workingDirectory : AbsolutePath} {root : String}
    {first second : TenantScope} (firstStays : StaysInDirectory workingDirectory root first)
    (secondStays : StaysInDirectory workingDirectory root second) :
    FilesDisjoint workingDirectory root first second ↔
      baseDirectory workingDirectory root = AbsolutePath.root ∨
        (first.tenantId, first.workspace) ≠ (second.tenantId, second.workspace) := by
  constructor
  · intro disjoint
    by_contra shared
    obtain ⟨notRoot, different⟩ := not_or.mp shared
    have sameScope : scopeSegments first = scopeSegments second := by
      obtain ⟨sameTenant, sameWorkspace⟩ := Prod.mk.inj (not_not.mp different)
      rw [scopeSegments, scopeSegments, sameTenant, sameWorkspace]
    obtain ⟨file, touched, names⟩ := touches_name notRoot first
    obtain ⟨otherFile, otherTouched, otherNames⟩ := touches_name notRoot second
    rw [← sameScope, ← names] at otherNames
    rw [AbsolutePath.ext otherNames] at otherTouched
    exact disjoint file touched otherTouched
  · rintro (isRoot | different) file touched otherTouched
    · have keeps := (staysInDirectory_iff workingDirectory root first).mp firstStays
      rw [KeepsDirectory, if_pos isRoot] at keeps
      exact keeps ((touches_at_root_iff isRoot first).mp ⟨file, touched⟩)
    · exact different
        (scope_of_prefixes (firstStays file touched).2 (secondStays file otherTouched).2)

/-- Contexts are kept apart exactly when their ids are names and, with the
default workspace filled in, differ; at `/` nothing is reached but the root. -/
theorem contextsKeptApart_iff (workingDirectory : AbsolutePath) (root : String)
    (first second : TenantScope) :
    ContextsKeptApart workingDirectory root first second ↔
      KeepsDirectory (baseDirectory workingDirectory root) first ∧
        KeepsDirectory (baseDirectory workingDirectory root) second ∧
          ((first.tenantId, first.workspaceId) ≠ (second.tenantId, second.workspaceId) →
            baseDirectory workingDirectory root = AbsolutePath.root ∨
              (first.tenantId, first.workspace) ≠ (second.tenantId, second.workspace)) := by
  rw [← staysInDirectory_iff, ← staysInDirectory_iff]
  constructor
  · rintro ⟨firstStays, secondStays, disjoint⟩
    exact ⟨firstStays, secondStays, fun different =>
      (filesDisjoint_iff firstStays secondStays).mp (disjoint different)⟩
  · rintro ⟨firstStays, secondStays, different⟩
    exact ⟨firstStays, secondStays, fun contexts =>
      (filesDisjoint_iff firstStays secondStays).mpr (different contexts)⟩

/-- A tenant and a workspace named `..` reach the file of another tenant. -/
theorem crossTenantFileShared :
    ¬ ∀ (workingDirectory : AbsolutePath) (root : String) (first second : TenantScope),
        root.toList.head? = some '/' →
          ContextsKeptApart workingDirectory root first second := by
  intro keepsApart
  have disjoint :=
    (keepsApart AbsolutePath.root "/data" ⟨"..", some ".."⟩ ⟨"victim", some "w"⟩ (by decide)).2.2
      (by decide)
  have notRoot : baseDirectory AbsolutePath.root "/data" ≠ AbsolutePath.root := by decide
  have isFirst : relativeStorageKey "tenants/victim/workspaces/w/secret" =
      .ok "tenants/victim/workspaces/w/secret" := by decide
  have isSecond : relativeStorageKey "secret" = .ok "secret" := by decide
  have firstNames : (AbsolutePath.root.resolve "/data/tenants/victim/workspaces/w/secret").names =
      walk (baseDirectory AbsolutePath.root "/data").names
        (scopeSegments ⟨"..", some ".."⟩ ++ segments "tenants/victim/workspaces/w/secret") := by
    decide
  have secondNames : (AbsolutePath.root.resolve "/data/tenants/victim/workspaces/w/secret").names =
      walk (baseDirectory AbsolutePath.root "/data").names
        (scopeSegments ⟨"victim", some "w"⟩ ++ segments "secret") := by
    decide
  have inside : (baseDirectory AbsolutePath.root "/data").names <+:
      (AbsolutePath.root.resolve "/data/tenants/victim/workspaces/w/secret").names := by
    decide
  exact disjoint _ (touches_of_names notRoot isFirst firstNames inside)
    (touches_of_names notRoot isSecond secondNames inside)

end PlatformArchitecture.Adapters
