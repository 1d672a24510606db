import PlatformArchitecture.Documents.UploadPipeline
import PlatformArchitecture.Foundations.PosixPaths

/-!
# Storage keys of uploads

A key is an area followed by a path, and the path names the tenant, the
workspace if there is one and the upload.  Every segment has passed
`safeSegment`, so a key can be taken apart again.
-/

namespace PlatformArchitecture.Documents

open PlatformArchitecture.Foundations

theorem safeSegment_ok {value segment : String} (accepted : safeSegment value = .ok segment) :
    segment = value ∧ '/' ∉ value.toList := by
  unfold safeSegment at accepted
  split at accepted
  · cases accepted
  · next passes =>
    cases accepted
    refine ⟨rfl, ?_⟩
    intro slash
    apply passes
    refine Or.inr (Or.inr (Or.inr (Or.inr ?_)))
    intro allChars
    have slashAllowed := List.all_eq_true.mp allChars '/' slash
    revert slashAllowed
    decide

/-- The part of a key behind its area. -/
abbrev uploadPath (d : DocumentUpload) (uploadId : String) : Except String String :=
  uploadKey "" d uploadId

/-- What follows the tenant in a key. -/
inductive BehindTenant (d : DocumentUpload) (uploadId : String) : List Char → Prop
  | bare (noWorkspace : d.workspace = none) : BehindTenant d uploadId uploadId.toList
  | workspace {workspaceId : String} (hasWorkspace : d.workspace = some workspaceId)
      (workspaceSafe : '/' ∉ workspaceId.toList) :
      BehindTenant d uploadId
        ("workspaces".toList ++ '/' :: (workspaceId.toList ++ '/' :: uploadId.toList))

/-- The segments of a key. -/
theorem uploadKey_ok {area key uploadId : String} {d : DocumentUpload}
    (isKey : uploadKey area d uploadId = .ok key) :
    '/' ∉ d.tenantId.toList ∧ '/' ∉ uploadId.toList ∧
      ∃ rest, BehindTenant d uploadId rest ∧
        key.toList = (area ++ "/tenants/").toList ++ (d.tenantId.toList ++ '/' :: rest) := by
  obtain ⟨start, isStart, afterStart⟩ := bind_eq_ok.mp isKey
  obtain ⟨upload, isUpload, final⟩ := bind_eq_ok.mp afterStart
  obtain ⟨tenant, isTenant, afterTenant⟩ := bind_eq_ok.mp isStart
  obtain ⟨workspace, isWorkspace, made⟩ := bind_eq_ok.mp afterTenant
  obtain ⟨rfl, tenantSafe⟩ := safeSegment_ok isTenant
  obtain ⟨rfl, uploadSafe⟩ := safeSegment_ok isUpload
  cases made
  cases final
  refine ⟨tenantSafe, uploadSafe, ?_⟩
  unfold workspaceSegment at isWorkspace
  split at isWorkspace
  · next noWorkspace =>
    cases isWorkspace
    refine ⟨_, BehindTenant.bare noWorkspace, ?_⟩
    simp [List.append_assoc]
  · next workspaceId hasWorkspace =>
    obtain ⟨segment, isSegment, joined⟩ := bind_eq_ok.mp isWorkspace
    obtain ⟨rfl, workspaceSafe⟩ := safeSegment_ok isSegment
    cases joined
    refine ⟨_, BehindTenant.workspace hasWorkspace workspaceSafe, ?_⟩
    simp [List.append_assoc]

/-- A key is its area and its path. -/
theorem uploadKey_eq (area : String) (d : DocumentUpload) (uploadId : String) :
    uploadKey area d uploadId = (uploadPath d uploadId).map fun path => area ++ path := by
  unfold uploadPath uploadKey keyPrefix
  cases safeSegment d.tenantId with
  | error error => rfl
  | ok tenant =>
      cases workspaceSegment d with
      | error error => rfl
      | ok workspace =>
          cases safeSegment uploadId with
          | error error => rfl
          | ok upload =>
              simp only [ok_bind, Except.map, pure, Except.pure, String.append_assoc,
                String.empty_append]

theorem path_of_uploadKey {area key uploadId : String} {d : DocumentUpload}
    (isKey : uploadKey area d uploadId = .ok key) :
    ∃ path, uploadPath d uploadId = .ok path ∧ key = area ++ path := by
  rw [uploadKey_eq] at isKey
  cases isPath : uploadPath d uploadId with
  | error error =>
      rw [isPath] at isKey
      cases isKey
  | ok path =>
      rw [isPath] at isKey
      cases isKey
      exact ⟨path, rfl, rfl⟩

theorem areaKey_injective {area path other : String} (same : area ++ path = area ++ other) :
    path = other := by
  have sameChars := congrArg String.toList same
  rw [String.toList_append, String.toList_append] at sameChars
  exact String.toList_injective (List.append_cancel_left sameChars)

/-- An approved key is not a quarantine key. -/
theorem approved_ne_quarantine (path other : String) :
    "approved" ++ path ≠ "quarantine" ++ other := by
  intro same
  have sameChars := congrArg String.toList same
  rw [String.toList_append, String.toList_append] at sameChars
  have sameHead : 'a' = 'q' := (List.cons.inj sameChars).1
  revert sameHead
  decide

theorem not_isQuarantineKey_approved (path : String) :
    ¬ IsQuarantineKey ("approved" ++ path) := by
  rintro ⟨rest, same⟩
  rw [String.toList_append] at same
  have sameHead : 'q' = 'a' := (List.cons.inj same).1
  revert sameHead
  decide

theorem BehindTenant.inj {d other : DocumentUpload} {uploadId otherId : String}
    {rest : List Char} (uploadSafe : '/' ∉ uploadId.toList) (otherSafe : '/' ∉ otherId.toList)
    (behind : BehindTenant d uploadId rest) (behindOther : BehindTenant other otherId rest) :
    d.workspace = other.workspace ∧ uploadId = otherId := by
  generalize isRest : rest = others at behindOther
  cases behind with
  | bare noWorkspace =>
      cases behindOther with
      | bare otherNone =>
          exact ⟨noWorkspace.trans otherNone.symm, String.toList_injective isRest⟩
      | workspace otherHas otherWorkspaceSafe =>
          rw [isRest] at uploadSafe
          exact absurd (List.mem_append_right _ List.mem_cons_self) uploadSafe
  | workspace hasWorkspace workspaceSafe =>
      cases behindOther with
      | bare otherNone =>
          rw [← isRest] at otherSafe
          exact absurd (List.mem_append_right _ List.mem_cons_self) otherSafe
      | workspace otherHas otherWorkspaceSafe =>
          have sameTail := (List.cons.inj (List.append_cancel_left isRest)).2
          obtain ⟨sameWorkspace, sameUpload⟩ :=
            segment_inj workspaceSafe otherWorkspaceSafe sameTail
          refine ⟨?_, String.toList_injective sameUpload⟩
          rw [hasWorkspace, otherHas, String.toList_injective sameWorkspace]

/-- A key determines the tenant, the workspace and the upload. -/
theorem uploadKey_injective {area key uploadId otherId : String} {d other : DocumentUpload}
    (isKey : uploadKey area d uploadId = .ok key)
    (isOther : uploadKey area other otherId = .ok key) :
    d.tenantId = other.tenantId ∧ d.workspace = other.workspace ∧ uploadId = otherId := by
  obtain ⟨tenantSafe, uploadSafe, rest, behind, path⟩ := uploadKey_ok isKey
  obtain ⟨otherTenantSafe, otherSafe, others, behindOther, otherPath⟩ := uploadKey_ok isOther
  have sameTail : d.tenantId.toList ++ '/' :: rest = other.tenantId.toList ++ '/' :: others :=
    List.append_cancel_left (path.symm.trans otherPath)
  obtain ⟨sameTenant, rfl⟩ := segment_inj tenantSafe otherTenantSafe sameTail
  obtain ⟨sameWorkspace, sameUpload⟩ := behind.inj uploadSafe otherSafe behindOther
  exact ⟨String.toList_injective sameTenant, sameWorkspace, sameUpload⟩

end PlatformArchitecture.Documents
