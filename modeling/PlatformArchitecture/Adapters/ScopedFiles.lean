import PlatformArchitecture.Adapters.FilesystemStorage
import PlatformArchitecture.Foundations.FileTrees
import PlatformArchitecture.Foundations.Unwinding

/-!
# Tenants on one file system

The calls of `TenantScopedObjectStorage` run over `FilesystemObjectStorageAdapter`
and one tree of files.  Each call awaits its file system calls one at a time, any
of which may break half-way, and calls interleave between them.  A tenant whose
directory is its own gets the answers and the errors it would get alone: files,
directories and failures of others are not seen.
-/

namespace PlatformArchitecture.Adapters

open PlatformArchitecture.Foundations
open PlatformArchitecture.Security

abbrev StoredFiles := FileTree Segment (List UInt8)

/-- What the adapter awaits. -/
inductive FileStatement where
  | mkdir (directory : AbsolutePath)
  | writeFile (file : AbsolutePath) (body : List UInt8)
  | readFile (file : AbsolutePath)
  | rm (file : AbsolutePath)

abbrev FileStatement.Reply : FileStatement → Type
  | .readFile _ => List UInt8
  | _ => Unit

inductive StorageError where
  | thrown (message : String)
  | file (error : FileError)

/-- What a storage call returns.  A URL is the file and the seconds it names. -/
inductive ObjectReply where
  | done
  | bytes (body : List UInt8)
  | url (file : AbsolutePath) (expiresSeconds : JsNumber)

abbrev StorageProgram :=
  Program FileStatement FileStatement.Reply StorageError ObjectReply

/-- A check that throws an `Error` with a message. -/
def orThrow {Value : Type} (verdict : Except String Value) :
    Program FileStatement FileStatement.Reply StorageError Value :=
  Program.check (verdict.mapError .thrown)

/-- Issue one call to the file system and await its reply. -/
abbrev awaitFile (statement : FileStatement) :
    Program FileStatement FileStatement.Reply StorageError statement.Reply :=
  Program.call statement

namespace FilesystemObjectStorageAdapter

variable (workingDirectory : AbsolutePath) (root key : String)

def putting (body : List UInt8) : StorageProgram := do
  let target ← orThrow (safePath workingDirectory root key)
  awaitFile (.mkdir (target.resolve ".."))
  awaitFile (.writeFile target body)
  return .done

/-- Every error of `get` is reported as a missing object. -/
def getting : StorageProgram :=
  let read : StorageProgram := do
    let target ← orThrow (safePath workingDirectory root key)
    let body ← awaitFile (.readFile target)
    return .bytes body
  read.orElse fun _ => throw (.thrown "OBJECT_NOT_FOUND")

def deleting : StorageProgram := do
  let target ← orThrow (safePath workingDirectory root key)
  awaitFile (.rm target)
  return .done

def signing (expiresSeconds : JsNumber) : StorageProgram := do
  let target ← orThrow (safePath workingDirectory root key)
  return .url target (atLeastOne expiresSeconds)

def running : ObjectOperation → StorageProgram
  | .put body _metadata => putting workingDirectory root key body
  | .get => getting workingDirectory root key
  | .delete => deleting workingDirectory root key
  | .signedUrl expiresSeconds => signing workingDirectory root key expiresSeconds

end FilesystemObjectStorageAdapter

/-- A call of `TenantScopedObjectStorage` over the adapter. -/
def scopedProgram (workingDirectory : AbsolutePath) (root : String) (ctx : TenantScope)
    (call : ObjectCall) : StorageProgram := do
  let request ← orThrow (call.delegated ctx)
  FilesystemObjectStorageAdapter.running workingDirectory root request.1 request.2

/-- The disk does what it is asked, or gives up on the way. -/
inductive DiskChoice where
  | works
  | breaks (progress : Nat)

/-- What one call to the file system does.  `mkdir` that breaks has made the first
directories on the way, and a write that breaks has not opened its file or has
left the first bytes in it. -/
def fileOutcome (choice : DiskChoice) :
    (statement : FileStatement) → StoredFiles →
      Except StorageError statement.Reply × StoredFiles
  | .mkdir directory, files =>
      match choice with
      | .works =>
          let made := files.makeDirectories directory.names
          (made.1.mapError .file, made.2)
      | .breaks progress =>
          (.error (.file .inputOutput),
            (files.makeDirectories (directory.names.take progress)).2)
  | .writeFile file body, files =>
      match choice with
      | .works =>
          let written := files.writeFile file.names body
          (written.1.mapError .file, written.2)
      | .breaks 0 => (.error (.file .inputOutput), files)
      | .breaks (kept + 1) =>
          (.error (.file .inputOutput), (files.writeFile file.names (body.take kept)).2)
  | .readFile file, files =>
      match choice with
      | .works => ((files.readFile file.names).mapError .file, files)
      | .breaks _ => (.error (.file .inputOutput), files)
  | .rm file, files =>
      match choice with
      | .works =>
          let removed := files.removeFile file.names
          (removed.1.mapError .file, removed.2)
      | .breaks _ => (.error (.file .inputOutput), files)

section Calls

variable {Pid : Type}

def fileServer :
    Server Pid DiskChoice StoredFiles FileStatement FileStatement.Reply StorageError where
  outcome _ choice statement files := some (fileOutcome choice statement files)
  disconnect _ files := files

abbrev StorageWorld (Pid : Type) :=
  World Pid StoredFiles FileStatement FileStatement.Reply StorageError ObjectReply

/-- Every call at its beginning, over any tree of files. -/
def storageStart (workingDirectory : AbsolutePath) (root : String) (files : StoredFiles)
    (scopes : Pid → TenantScope) (calls : Pid → ObjectCall) : StorageWorld Pid :=
  World.start files fun pid => scopedProgram workingDirectory root (scopes pid) (calls pid)

/-! ## Where a call stands -/

inductive StorageStage where
  | making (target : AbsolutePath) (body : List UInt8)
  | writing (target : AbsolutePath) (body : List UInt8)
  | reading (target : AbsolutePath)
  | removing (target : AbsolutePath)
  | returned (reply : ObjectReply)
  | threw (error : StorageError)

def StorageStage.program : StorageStage → StorageProgram
  | .making target body =>
      .branch (.mkdir (target.resolve ".."))
        (fun _ => .branch (.writeFile target body) (fun _ => .done .done) .fail) .fail
  | .writing target body => .branch (.writeFile target body) (fun _ => .done .done) .fail
  | .reading target =>
      .branch (.readFile target) (fun body => .done (.bytes body))
        fun _ => .fail (.thrown "OBJECT_NOT_FOUND")
  | .removing target => .branch (.rm target) (fun _ => .done .done) .fail
  | .returned reply => .done reply
  | .threw error => .fail error

/-- The call stays in a directory, and writes where it has made one. -/
def StorageStage.Holds (directory : List Segment) (files : StoredFiles) : StorageStage → Prop
  | .making target _ | .reading target | .removing target => directory <+: target.names
  | .writing target _ =>
      directory <+: target.names ∧ files.entries target.names.dropLast = some .directory
  | .returned _ | .threw _ => True

def StorageAt (directory : List Segment) (files : StoredFiles) (program : StorageProgram) :
    Prop :=
  ∃ stage : StorageStage, stage.program = program ∧ stage.Holds directory files

theorem names_parent (target : AbsolutePath) :
    (target.resolve "..").names = target.names.dropLast := by
  rw [AbsolutePath.names_resolve (by decide)]
  have isUp : segments ".." = [['.', '.']] := by decide
  rw [isUp]
  rfl

/-- A call on a key that leads into the directory. -/
theorem storageAt_running {workingDirectory : AbsolutePath} {root key : String}
    {directory : List Segment}
    (inside : ∀ target, safePath workingDirectory root key = .ok target →
      directory <+: target.names)
    (files : StoredFiles) (operation : ObjectOperation) :
    StorageAt directory files
      (FilesystemObjectStorageAdapter.running workingDirectory root key operation) := by
  cases isSafe : safePath workingDirectory root key with
  | error message =>
      cases operation with
      | put body metadata =>
          refine ⟨.threw (.thrown message), ?_, trivial⟩
          simp only [FilesystemObjectStorageAdapter.running,
            FilesystemObjectStorageAdapter.putting, orThrow, isSafe]
          rfl
      | get =>
          refine ⟨.threw (.thrown "OBJECT_NOT_FOUND"), ?_, trivial⟩
          simp only [FilesystemObjectStorageAdapter.running,
            FilesystemObjectStorageAdapter.getting, orThrow, isSafe]
          rfl
      | delete =>
          refine ⟨.threw (.thrown message), ?_, trivial⟩
          simp only [FilesystemObjectStorageAdapter.running,
            FilesystemObjectStorageAdapter.deleting, orThrow, isSafe]
          rfl
      | signedUrl expiresSeconds =>
          refine ⟨.threw (.thrown message), ?_, trivial⟩
          simp only [FilesystemObjectStorageAdapter.running,
            FilesystemObjectStorageAdapter.signing, orThrow, isSafe]
          rfl
  | ok target =>
      cases operation with
      | put body metadata =>
          refine ⟨.making target body, ?_, inside target isSafe⟩
          simp only [FilesystemObjectStorageAdapter.running,
            FilesystemObjectStorageAdapter.putting, orThrow, awaitFile, isSafe,
            Except.mapError, Program.check_ok, Program.done_bind, Program.call_bind]
          rfl
      | get =>
          refine ⟨.reading target, ?_, inside target isSafe⟩
          simp only [FilesystemObjectStorageAdapter.running,
            FilesystemObjectStorageAdapter.getting, orThrow, awaitFile, isSafe,
            Except.mapError, Program.check_ok, Program.done_bind, Program.call_bind,
            Program.branch_orElse]
          rfl
      | delete =>
          refine ⟨.removing target, ?_, inside target isSafe⟩
          simp only [FilesystemObjectStorageAdapter.running,
            FilesystemObjectStorageAdapter.deleting, orThrow, awaitFile, isSafe,
            Except.mapError, Program.check_ok, Program.done_bind, Program.call_bind]
          rfl
      | signedUrl expiresSeconds =>
          let seconds := FilesystemObjectStorageAdapter.atLeastOne expiresSeconds
          refine ⟨.returned (.url target seconds), ?_, trivial⟩
          simp only [FilesystemObjectStorageAdapter.running,
            FilesystemObjectStorageAdapter.signing, orThrow, isSafe]
          rfl

/-! ## One call to the file system -/

theorem keepsDirectories_fileOutcome (choice : DiskChoice) (statement : FileStatement)
    (files : StoredFiles) :
    FileTree.KeepsDirectories files (fileOutcome choice statement files).2 := by
  have same : FileTree.KeepsDirectories files files := fun _ isDirectory => isDirectory
  cases statement with
  | mkdir directory =>
      cases choice with
      | works => exact FileTree.keepsDirectories_makeDirectories files _
      | breaks progress => exact FileTree.keepsDirectories_makeDirectories files _
  | writeFile file body =>
      cases choice with
      | works => exact FileTree.keepsDirectories_writeFile files _ _
      | breaks progress =>
          cases progress with
          | zero => exact same
          | succ kept => exact FileTree.keepsDirectories_writeFile files _ _
  | readFile file => cases choice <;> exact same
  | rm file =>
      cases choice with
      | works => exact FileTree.keepsDirectories_removeFile files _
      | breaks progress => exact same

theorem StorageAt.frame {directory : List Segment} {before after : StoredFiles}
    {program : StorageProgram} (standing : StorageAt directory before program)
    (keeps : FileTree.KeepsDirectories before after) :
    StorageAt directory after program := by
  obtain ⟨stage, same, holds⟩ := standing
  refine ⟨stage, same, ?_⟩
  cases stage with
  | making | reading | removing => exact holds
  | writing target body => exact ⟨holds.1, keeps _ holds.2⟩
  | returned | threw => trivial

/-- A call to the file system leads to the next stage. -/
theorem StorageAt.advance {directory : List Segment} {files : StoredFiles}
    {statement : FileStatement}
    {next : Except StorageError statement.Reply → StorageProgram}
    (standing : StorageAt directory files (.perform statement next)) (choice : DiskChoice) :
    StorageAt directory (fileOutcome choice statement files).2
      (next (fileOutcome choice statement files).1) := by
  obtain ⟨stage, same, holds⟩ := standing
  cases stage with
  | making target body =>
      cases same
      cases choice with
      | breaks progress => exact ⟨.threw (.file .inputOutput), rfl, trivial⟩
      | works =>
          simp only [fileOutcome]
          cases made : files.makeDirectories (target.resolve "..").names with
          | mk reply after =>
              cases reply with
              | error error => exact ⟨.threw (.file error), rfl, trivial⟩
              | ok _ =>
                  have isDirectory := FileTree.isDirectory_makeDirectories made
                  rw [names_parent] at isDirectory
                  exact ⟨.writing target body, rfl, holds, isDirectory⟩
  | writing target body =>
      cases same
      cases answer : (fileOutcome choice (.writeFile target body) files).1 with
      | ok _ => exact ⟨.returned .done, rfl, trivial⟩
      | error error => exact ⟨.threw error, rfl, trivial⟩
  | reading target =>
      cases same
      cases answer : (fileOutcome choice (.readFile target) files).1 with
      | ok body => exact ⟨.returned (.bytes body), rfl, trivial⟩
      | error error => exact ⟨.threw (.thrown "OBJECT_NOT_FOUND"), rfl, trivial⟩
  | removing target =>
      cases same
      cases answer : (fileOutcome choice (.rm target) files).1 with
      | ok _ => exact ⟨.returned .done, rfl, trivial⟩
      | error error => exact ⟨.threw error, rfl, trivial⟩
  | returned reply => cases same
  | threw error => cases same

/-! ## Directories apart -/

/-- The directory of a context below the root of the adapter. -/
def scopeDirectory (base : AbsolutePath) (ctx : TenantScope) : List Segment :=
  base.names ++ scopeSegments ctx

def SameScope (first second : TenantScope) : Prop :=
  (first.tenantId, first.workspace) = (second.tenantId, second.workspace)

instance (first second : TenantScope) : Decidable (SameScope first second) :=
  inferInstanceAs (Decidable (_ = _))

theorem scopeDirectory_of_sameScope {first second : TenantScope}
    (same : SameScope first second) (base : AbsolutePath) :
    scopeDirectory base first = scopeDirectory base second := by
  obtain ⟨sameTenant, sameWorkspace⟩ := Prod.mk.inj same
  rw [scopeDirectory, scopeDirectory, scopeSegments, scopeSegments, sameTenant, sameWorkspace]

/-- What is in the directory of one context is neither in that of another nor on
the way to it. -/
theorem apart_of_scopes {base : AbsolutePath} {first second : TenantScope}
    (different : ¬ SameScope first second) {names : List Segment}
    (isBelow : scopeDirectory base first <+: names) :
    ¬ scopeDirectory base second <+: names ∧ ¬ names <+: scopeDirectory base second :=
  ⟨fun other => different (scope_of_prefixes isBelow other),
    fun onTheWay => different (scope_of_prefixes (isBelow.trans onTheWay) (List.prefix_refl _))⟩

theorem storageAt_start {workingDirectory : AbsolutePath} {root : String} {ctx : TenantScope}
    (keeps : KeepsDirectory (baseDirectory workingDirectory root) ctx) (call : ObjectCall)
    (files : StoredFiles) :
    StorageAt (scopeDirectory (baseDirectory workingDirectory root) ctx) files
      (scopedProgram workingDirectory root ctx call) := by
  cases delegated : call.delegated ctx with
  | error message =>
      refine ⟨.threw (.thrown message), ?_, trivial⟩
      rw [scopedProgram, delegated]
      rfl
  | ok request =>
      have isRunning : scopedProgram workingDirectory root ctx call =
          FilesystemObjectStorageAdapter.running workingDirectory root request.1 request.2 := by
        rw [scopedProgram, delegated]
        rfl
      rw [isRunning]
      apply storageAt_running
      intro target isSafe
      obtain ⟨normalized, isRelative, isKey⟩ := ObjectCall.delegated_key delegated
      rw [isKey] at isSafe
      have touched := touches_iff.mpr ⟨call.given, normalized, isRelative, isSafe⟩
      exact ((staysInDirectory_iff workingDirectory root ctx).mpr keeps target touched).2

/-- A call of the same context, on trees that look alike from its directory. -/
theorem fileOutcome_own {directory : List Segment} {first second : StoredFiles}
    {statement : FileStatement} {next : Except StorageError statement.Reply → StorageProgram}
    (alike : FileTree.SeenAlike directory first second)
    (standing : StorageAt directory first (.perform statement next))
    (otherStanding : StorageAt directory second (.perform statement next))
    (choice : DiskChoice) :
    (fileOutcome choice statement first).1 = (fileOutcome choice statement second).1 ∧
      FileTree.SeenAlike directory (fileOutcome choice statement first).2
        (fileOutcome choice statement second).2 := by
  obtain ⟨stage, same, holds⟩ := standing
  cases stage with
  | making target body =>
      cases same
      have near : ∀ names, names <+: target.names →
          names <+: directory ∨ directory <+: names :=
        fun names isAbove => List.prefix_or_prefix_of_prefix isAbove holds
      have isParent : (target.resolve "..").names <+: target.names := by
        rw [names_parent]
        exact List.dropLast_prefix _
      cases choice with
      | works =>
          obtain ⟨sameReply, after⟩ := alike.makeDirectories (near _ isParent)
          exact ⟨congrArg (Except.mapError _) sameReply, after⟩
      | breaks progress =>
          exact ⟨rfl, (alike.makeDirectories
            (near _ ((List.take_prefix progress _).trans isParent))).2⟩
  | writing target body =>
      cases same
      obtain ⟨otherStage, otherSame, otherHolds⟩ := otherStanding
      cases otherStage with
      | writing _ _ =>
          cases otherSame
          cases choice with
          | works =>
              obtain ⟨sameReply, after⟩ := alike.writeFile holds.1 body holds.2 otherHolds.2
              exact ⟨congrArg (Except.mapError _) sameReply, after⟩
          | breaks progress =>
              cases progress with
              | zero => exact ⟨rfl, alike⟩
              | succ kept =>
                  exact ⟨rfl, (alike.writeFile holds.1 _ holds.2 otherHolds.2).2⟩
      | making | reading | removing | returned | threw => cases otherSame
  | reading target =>
      cases same
      cases choice with
      | works => exact ⟨congrArg (Except.mapError _) (alike.readFile holds), alike⟩
      | breaks progress => exact ⟨rfl, alike⟩
  | removing target =>
      cases same
      cases choice with
      | works =>
          obtain ⟨sameReply, after⟩ := alike.removeFile holds
          exact ⟨congrArg (Except.mapError _) sameReply, after⟩
      | breaks progress => exact ⟨rfl, alike⟩
  | returned reply => cases same
  | threw error => cases same

/-- A call of another context is not seen. -/
theorem fileOutcome_others {base : AbsolutePath} {ctx observer : TenantScope}
    {first second : StoredFiles} {statement : FileStatement}
    {next : Except StorageError statement.Reply → StorageProgram}
    (different : ¬ SameScope ctx observer)
    (alike : FileTree.SeenAlike (scopeDirectory base observer) first second)
    (standing : StorageAt (scopeDirectory base ctx) first (.perform statement next))
    (choice : DiskChoice) :
    FileTree.SeenAlike (scopeDirectory base observer) (fileOutcome choice statement first).2
      second := by
  obtain ⟨stage, same, holds⟩ := standing
  cases stage with
  | making target body =>
      cases same
      have notInside : ∀ names, names <+: target.names →
          ¬ scopeDirectory base observer <+: names :=
        fun names isAbove inside => (apart_of_scopes different holds).1 (inside.trans isAbove)
      have isParent : (target.resolve "..").names <+: target.names := by
        rw [names_parent]
        exact List.dropLast_prefix _
      cases choice with
      | works => exact alike.makeDirectories_elsewhere (notInside _ isParent)
      | breaks progress =>
          exact alike.makeDirectories_elsewhere
            (notInside _ ((List.take_prefix progress _).trans isParent))
  | writing target body =>
      cases same
      have apart := apart_of_scopes different holds.1
      cases choice with
      | works => exact alike.writeFile_elsewhere apart body
      | breaks progress =>
          cases progress with
          | zero => exact alike
          | succ kept => exact alike.writeFile_elsewhere apart _
  | reading target =>
      cases same
      cases choice <;> exact alike
  | removing target =>
      cases same
      cases choice with
      | works => exact alike.removeFile_elsewhere (apart_of_scopes different holds)
      | breaks progress => exact alike
  | returned reply => cases same
  | threw error => cases same

/-! ## Whole runs -/

/-- Where each process stands. -/
def storagePoint (base : AbsolutePath) (scopes : Pid → TenantScope) (pid : Pid)
    (files : StoredFiles) (program : StorageProgram) : Prop :=
  StorageAt (scopeDirectory base (scopes pid)) files program

theorem unwinds_storage (base : AbsolutePath) (scopes : Pid → TenantScope)
    (observer : TenantScope) :
    World.Unwinds fileServer (fun pid => SameScope (scopes pid) observer)
      (FileTree.SeenAlike (scopeDirectory base observer)) (storagePoint base scopes) where
  own := by
    intro pid choice statement next first second isMine alike standing otherStanding
    unfold storagePoint at standing otherStanding
    rw [scopeDirectory_of_sameScope isMine] at standing otherStanding
    exact Option.Rel.some (fileOutcome_own alike standing otherStanding choice)
  others := by
    intro pid choice statement next first second reply after notMine alike standing answer
    have isAfter : (fileOutcome choice statement first).2 = after :=
      congrArg Prod.snd (Option.some.inj answer)
    rw [← isAfter]
    exact fileOutcome_others notMine alike standing choice
  ownLost := fun _ alike => alike
  othersLost := fun _ alike => alike

variable [DecidableEq Pid]

theorem storagePoint_step {base : AbsolutePath} {scopes : Pid → TenantScope}
    (world : StorageWorld Pid) (event : Event Pid DiskChoice)
    (consistent : world.Consistent (fun _ => True) (storagePoint base scopes)) :
    (world.step fileServer event).Consistent (fun _ => True) (storagePoint base scopes) := by
  refine @World.Consistent.step _ _ _ _ _ _ _ _ _ _ _ (fun _ _ => True) ?_ ?_ world event
    consistent trivial
  · intro world pid choice statement next reply after consistent current _ outcome
    obtain ⟨isReply, isAfter⟩ := Prod.mk.inj (Option.some.inj outcome)
    rw [← isReply, ← isAfter]
    refine ⟨trivial, (consistent.points pid _ current).advance choice, ?_⟩
    intro other program _ standing
    exact standing.frame (keepsDirectories_fileOutcome choice statement world.shared)
  · exact fun pid files _ => ⟨trivial, fun other program standing => standing⟩

/-- Over one file system and for every interleaving, with calls that break
half-way, the calls of a context return, throw and wait as they do when only the
calls of that context are made, and leave the same files in its directory. -/
theorem scopedStorages_isolated (workingDirectory : AbsolutePath) (root : String)
    (files : StoredFiles) (scopes : Pid → TenantScope) (calls : Pid → ObjectCall)
    (keeps : ∀ pid, KeepsDirectory (baseDirectory workingDirectory root) (scopes pid))
    (observer : TenantScope) (schedule : List (Event Pid DiskChoice)) :
    let start := storageStart workingDirectory root files scopes calls
    let whole := run (World.step fileServer) start schedule
    let alone := run (World.step fileServer) start
      (schedule.filter fun event => SameScope (scopes (processOf event)) observer)
    (∀ pid, SameScope (scopes pid) observer → whole.programs pid = alone.programs pid) ∧
      ∀ names, scopeDirectory (baseDirectory workingDirectory root) observer <+: names →
        whole.shared.entries names = alone.shared.entries names := by
  intro start whole alone
  have consistent : start.Consistent (fun _ => True)
      (storagePoint (baseDirectory workingDirectory root) scopes) := by
    refine ⟨trivial, ?_⟩
    intro pid program starting
    cases starting
    exact storageAt_start (keeps pid) (calls pid) files
  have same := World.run_looksAlike
    (unwinds_storage (baseDirectory workingDirectory root) scopes observer)
    storagePoint_step schedule consistent consistent
    ⟨FileTree.SeenAlike.refl _ _, fun _ _ => rfl⟩
  exact ⟨same.programs, same.shared.below⟩

end Calls

/-- A file system with nothing on it. -/
def emptyFiles : StoredFiles where
  entries names := if names = [] then some .directory else none
  root := rfl
  nested := by
    intro names name found
    simp at found

/-- Two tenants, one of which puts a file where its directory would be. -/
def twoScopes (isFirst : Bool) : TenantScope :=
  if isFirst then ⟨"acme", some "w"⟩ else ⟨"other", none⟩

def twoPuts (isFirst : Bool) : ObjectCall :=
  if isFirst then .put "report.csv" [1] [] else .put "." [2] []

theorem scopedStorages_isolated_twoTenants :
    (run (World.step fileServer)
        (storageStart AbsolutePath.root "/data" emptyFiles twoScopes twoPuts)
        [.statement false .works, .statement true (.breaks 1)]).programs true =
      (run (World.step fileServer)
        (storageStart AbsolutePath.root "/data" emptyFiles twoScopes twoPuts)
        ([.statement false .works, .statement true (.breaks 1)].filter fun event =>
          SameScope (twoScopes (processOf event)) (twoScopes true))).programs true := by
  have keeps : ∀ isFirst, KeepsDirectory (baseDirectory AbsolutePath.root "/data")
      (twoScopes isFirst) := by
    have notRoot : baseDirectory AbsolutePath.root "/data" ≠ AbsolutePath.root := by decide
    intro isFirst
    rw [KeepsDirectory, if_neg notRoot]
    cases isFirst with
    | true => exact (by decide : IsPlainId "acme" ∧ IsPlainId "w")
    | false => exact (by decide : IsPlainId "other" ∧ IsPlainId "_root")
  have isMine : SameScope (twoScopes true) (twoScopes true) := Eq.refl _
  exact (scopedStorages_isolated AbsolutePath.root "/data" emptyFiles twoScopes twoPuts keeps
    (twoScopes true) [.statement false .works, .statement true (.breaks 1)]).1 true isMine

end PlatformArchitecture.Adapters
