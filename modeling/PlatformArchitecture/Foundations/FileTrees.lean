import Mathlib.Data.List.Infix

/-!
# File trees

Files and directories under names, with the four calls a store of files makes:
`mkdir -p`, writing, reading and removing one file.  Every entry is in a
directory, so a directory is never under a file.  Two trees look the same from a
directory when they agree on what is in it and on where a file is in the way to
it; the calls below another directory keep that.
-/

namespace PlatformArchitecture.Foundations

inductive FileEntry (Body : Type) where
  | directory
  | file (body : Body)

/-- Entries by the names that lead to them. -/
structure FileTree (Name Body : Type) where
  entries : List Name → Option (FileEntry Body)
  root : entries [] = some .directory
  nested : ∀ names name, entries (names ++ [name]) ≠ none → entries names = some .directory

inductive FileError where
  | noEntry
  | notDirectory
  | isDirectory
  | exists
  | inputOutput
  deriving DecidableEq

namespace FileTree

variable {Name Body : Type}

def isFile (tree : FileTree Name Body) (names : List Name) : Bool :=
  match tree.entries names with
  | some (.file _) => true
  | _ => false

def isDirectory (tree : FileTree Name Body) (names : List Name) : Bool :=
  match tree.entries names with
  | some .directory => true
  | _ => false

theorem isFile_iff {tree : FileTree Name Body} {names : List Name} :
    tree.isFile names = true ↔ ∃ body, tree.entries names = some (.file body) := by
  unfold isFile
  split
  · next body found => exact ⟨fun _ => ⟨body, found⟩, fun _ => rfl⟩
  · next other =>
      constructor
      · intro impossible
        cases impossible
      · rintro ⟨body, found⟩
        exact absurd found (other body)

theorem isDirectory_iff {tree : FileTree Name Body} {names : List Name} :
    tree.isDirectory names = true ↔ tree.entries names = some .directory := by
  unfold isDirectory
  split
  · next found => exact ⟨fun _ => found, fun _ => rfl⟩
  · next other =>
      constructor
      · intro impossible
        cases impossible
      · intro found
        exact absurd found other

/-- A file is in the way, or at the end of it. -/
def blocked (tree : FileTree Name Body) (names : List Name) : Bool :=
  names.inits.any tree.isFile

theorem blocked_iff {tree : FileTree Name Body} {names : List Name} :
    tree.blocked names = true ↔ ∃ above, above <+: names ∧ tree.isFile above = true := by
  simp only [blocked, List.any_eq_true, List.mem_inits]

/-- Why a name that is no file of the tree cannot be opened. -/
def openError (tree : FileTree Name Body) (names : List Name) : FileError :=
  if tree.isDirectory names then .isDirectory
  else if tree.blocked names then .notDirectory
  else .noEntry

def readFile (tree : FileTree Name Body) (names : List Name) : Except FileError Body :=
  match tree.entries names with
  | some (.file body) => .ok body
  | _ => .error (tree.openError names)

variable [DecidableEq Name]

/-- Every name on the way is a directory. -/
def withDirectories (tree : FileTree Name Body) (names : List Name) : FileTree Name Body where
  entries other := if other <+: names then some .directory else tree.entries other
  root := if_pos List.nil_prefix
  nested := by
    intro above name found
    split at found
    · next isAbove => rw [if_pos ((List.prefix_append above [name]).trans isAbove)]
    · rw [tree.nested above name found, ite_self]

/-- `mkdir(names, {recursive: true})`, or as many directories as were made
before it failed. -/
def makeDirectories (tree : FileTree Name Body) (names : List Name) :
    Except FileError Unit × FileTree Name Body :=
  if tree.isFile names then (.error .exists, tree)
  else if tree.blocked names then (.error .notDirectory, tree)
  else (.ok (), tree.withDirectories names)

/-- The file can be opened for writing: it is no directory, and in one. -/
def Writable (tree : FileTree Name Body) (names : List Name) : Prop :=
  tree.isDirectory names.dropLast = true ∧ tree.isDirectory names = false

instance (tree : FileTree Name Body) (names : List Name) : Decidable (tree.Writable names) :=
  inferInstanceAs (Decidable (_ ∧ _))

def withFile (tree : FileTree Name Body) (names : List Name) (body : Body)
    (writable : tree.Writable names) : FileTree Name Body where
  entries other := if other = names then some (.file body) else tree.entries other
  root := by
    rw [if_neg, tree.root]
    rintro rfl
    rw [Writable, isDirectory_iff.mpr tree.root] at writable
    exact Bool.noConfusion writable.2
  nested := by
    intro above name found
    have isDirectory : tree.entries above = some .directory := by
      split at found
      · next isNames =>
          have parent := isDirectory_iff.mp writable.1
          rwa [← isNames, List.dropLast_concat] at parent
      · exact tree.nested above name found
    rw [if_neg, isDirectory]
    rintro rfl
    rw [Writable, isDirectory_iff.mpr isDirectory] at writable
    exact Bool.noConfusion writable.2

/-- `writeFile(names, body)`. -/
def writeFile (tree : FileTree Name Body) (names : List Name) (body : Body) :
    Except FileError Unit × FileTree Name Body :=
  if writable : tree.Writable names then (.ok (), tree.withFile names body writable)
  else (.error (tree.openError names), tree)

def withoutFile (tree : FileTree Name Body) (names : List Name)
    (isFile : tree.isFile names = true) : FileTree Name Body where
  entries other := if other = names then none else tree.entries other
  root := by
    obtain ⟨body, found⟩ := isFile_iff.mp isFile
    rw [if_neg, tree.root]
    rintro rfl
    rw [tree.root] at found
    cases found
  nested := by
    intro above name found
    obtain ⟨body, isBody⟩ := isFile_iff.mp isFile
    have isDirectory : tree.entries above = some .directory := by
      split at found
      · exact absurd rfl found
      · exact tree.nested above name found
    rw [if_neg, isDirectory]
    rintro rfl
    rw [isDirectory] at isBody
    cases isBody

/-- `rm(names, {force: true})`. -/
def removeFile (tree : FileTree Name Body) (names : List Name) :
    Except FileError Unit × FileTree Name Body :=
  if isFile : tree.isFile names = true then (.ok (), tree.withoutFile names isFile)
  else if tree.isDirectory names then (.error .isDirectory, tree)
  else if tree.blocked names then (.error .notDirectory, tree)
  else (.ok (), tree)

/-! ## What the calls do -/

/-- Directories stay. -/
def KeepsDirectories (before after : FileTree Name Body) : Prop :=
  ∀ names, before.entries names = some .directory → after.entries names = some .directory

theorem keepsDirectories_makeDirectories (tree : FileTree Name Body) (names : List Name) :
    KeepsDirectories tree (tree.makeDirectories names).2 := by
  intro other isDirectory
  unfold makeDirectories
  split
  · exact isDirectory
  · split
    · exact isDirectory
    · simp only [withDirectories, isDirectory, ite_self]

theorem keepsDirectories_writeFile (tree : FileTree Name Body) (names : List Name)
    (body : Body) : KeepsDirectories tree (tree.writeFile names body).2 := by
  intro other isDirectory
  unfold writeFile
  split
  · next writable =>
      change (if other = names then _ else _) = _
      rw [if_neg, isDirectory]
      rintro rfl
      rw [Writable, isDirectory_iff.mpr isDirectory] at writable
      exact Bool.noConfusion writable.2
  · exact isDirectory

theorem keepsDirectories_removeFile (tree : FileTree Name Body) (names : List Name) :
    KeepsDirectories tree (tree.removeFile names).2 := by
  intro other isDirectory
  unfold removeFile
  split
  · next isFile =>
      obtain ⟨body, isBody⟩ := isFile_iff.mp isFile
      change (if other = names then _ else _) = _
      rw [if_neg, isDirectory]
      rintro rfl
      rw [isDirectory] at isBody
      cases isBody
  · split
    · exact isDirectory
    · split <;> exact isDirectory

/-- What has been made is there. -/
theorem isDirectory_makeDirectories {tree after : FileTree Name Body} {names : List Name}
    (made : tree.makeDirectories names = (.ok (), after)) :
    after.entries names = some .directory := by
  unfold makeDirectories at made
  split at made
  · cases made
  · split at made
    · cases made
    · cases made
      exact if_pos (List.prefix_refl names)

/-! ## Trees as seen from a directory -/

/-- The trees have the same in the directory and a file in the same places on the
way to it. -/
structure SeenAlike (directory : List Name) (first second : FileTree Name Body) : Prop where
  below : ∀ names, directory <+: names → first.entries names = second.entries names
  above : ∀ names, names <+: directory → first.isFile names = second.isFile names

variable {directory names : List Name} {first second : FileTree Name Body}

omit [DecidableEq Name] in
theorem SeenAlike.refl (directory : List Name) (tree : FileTree Name Body) :
    SeenAlike directory tree tree :=
  ⟨fun _ _ => rfl, fun _ _ => rfl⟩

omit [DecidableEq Name] in
theorem SeenAlike.isFile (alike : SeenAlike directory first second)
    (near : names <+: directory ∨ directory <+: names) :
    first.isFile names = second.isFile names := by
  rcases near with isAbove | isBelow
  · exact alike.above names isAbove
  · unfold FileTree.isFile
    rw [alike.below names isBelow]

omit [DecidableEq Name] in
theorem near_of_isAbove {above : List Name} (near : names <+: directory ∨ directory <+: names)
    (isAbove : above <+: names) : above <+: directory ∨ directory <+: above := by
  rcases near with namesAbove | namesBelow
  · exact Or.inl (isAbove.trans namesAbove)
  · exact List.prefix_or_prefix_of_prefix isAbove namesBelow

omit [DecidableEq Name] in
theorem SeenAlike.blocked (alike : SeenAlike directory first second)
    (near : names <+: directory ∨ directory <+: names) :
    first.blocked names = second.blocked names := by
  rw [Bool.eq_iff_iff, blocked_iff, blocked_iff]
  constructor
  · rintro ⟨above, isAbove, isFile⟩
    exact ⟨above, isAbove, (alike.isFile (near_of_isAbove near isAbove)).symm.trans isFile⟩
  · rintro ⟨above, isAbove, isFile⟩
    exact ⟨above, isAbove, (alike.isFile (near_of_isAbove near isAbove)).trans isFile⟩

omit [DecidableEq Name] in
theorem SeenAlike.isDirectory (alike : SeenAlike directory first second)
    (isBelow : directory <+: names) : first.isDirectory names = second.isDirectory names := by
  unfold FileTree.isDirectory
  rw [alike.below names isBelow]

omit [DecidableEq Name] in
theorem SeenAlike.openError (alike : SeenAlike directory first second)
    (isBelow : directory <+: names) : first.openError names = second.openError names := by
  unfold FileTree.openError
  rw [alike.isDirectory isBelow, alike.blocked (Or.inr isBelow)]

omit [DecidableEq Name] in
theorem SeenAlike.readFile (alike : SeenAlike directory first second)
    (isBelow : directory <+: names) : first.readFile names = second.readFile names := by
  unfold FileTree.readFile
  rw [alike.below names isBelow, alike.openError isBelow]

/-- Two answers are the same, and the trees still look alike. -/
def AnsweredAlike (directory : List Name)
    (first second : Except FileError Unit × FileTree Name Body) : Prop :=
  first.1 = second.1 ∧ SeenAlike directory first.2 second.2

/-- A change at one name, the same in both trees. -/
theorem SeenAlike.change {entry : Option (FileEntry Body)} {firstAfter secondAfter :
    FileTree Name Body} (alike : SeenAlike directory first second)
    (isFirst : ∀ other, firstAfter.entries other =
      if other = names then entry else first.entries other)
    (isSecond : ∀ other, secondAfter.entries other =
      if other = names then entry else second.entries other) :
    SeenAlike directory firstAfter secondAfter := by
  constructor
  · intro other isBelow
    rw [isFirst, isSecond, alike.below other isBelow]
  · intro other isAbove
    have same := alike.above other isAbove
    unfold FileTree.isFile at same ⊢
    rw [isFirst, isSecond]
    by_cases isNames : other = names
    · rw [if_pos isNames, if_pos isNames]
    · rw [if_neg isNames, if_neg isNames, same]

theorem SeenAlike.withDirectories (alike : SeenAlike directory first second) :
    SeenAlike directory (first.withDirectories names) (second.withDirectories names) := by
  constructor
  · intro other isBelow
    simp only [FileTree.withDirectories, alike.below other isBelow]
  · intro other isAbove
    have same := alike.above other isAbove
    unfold FileTree.isFile FileTree.withDirectories at *
    by_cases onTheWay : other <+: names
    · simp only [if_pos onTheWay]
    · simp only [if_neg onTheWay, same]

theorem SeenAlike.makeDirectories (alike : SeenAlike directory first second)
    (near : names <+: directory ∨ directory <+: names) :
    AnsweredAlike directory (first.makeDirectories names) (second.makeDirectories names) := by
  unfold FileTree.makeDirectories
  rw [alike.isFile near, alike.blocked near]
  split
  · exact ⟨rfl, alike⟩
  · split
    · exact ⟨rfl, alike⟩
    · exact ⟨rfl, alike.withDirectories⟩

/-- A file is written alike where its directory is in both trees. -/
theorem SeenAlike.writeFile (alike : SeenAlike directory first second)
    (isBelow : directory <+: names) (body : Body)
    (firstParent : first.entries names.dropLast = some .directory)
    (secondParent : second.entries names.dropLast = some .directory) :
    AnsweredAlike directory (first.writeFile names body) (second.writeFile names body) := by
  have same := alike.isDirectory isBelow
  unfold FileTree.writeFile
  by_cases writable : first.Writable names
  · have secondWritable : second.Writable names :=
      ⟨isDirectory_iff.mpr secondParent, same.symm.trans writable.2⟩
    rw [dif_pos writable, dif_pos secondWritable]
    exact ⟨rfl, alike.change (fun _ => rfl) (fun _ => rfl)⟩
  · have secondWritable : ¬ second.Writable names := by
      intro isWritable
      exact writable ⟨isDirectory_iff.mpr firstParent, same.trans isWritable.2⟩
    rw [dif_neg writable, dif_neg secondWritable, alike.openError isBelow]
    exact ⟨rfl, alike⟩

theorem SeenAlike.removeFile (alike : SeenAlike directory first second)
    (isBelow : directory <+: names) :
    AnsweredAlike directory (first.removeFile names) (second.removeFile names) := by
  have sameFile := alike.isFile (Or.inr isBelow)
  unfold FileTree.removeFile
  rw [← alike.isDirectory isBelow, ← alike.blocked (Or.inr isBelow)]
  by_cases isFile : first.isFile names = true
  · rw [dif_pos isFile, dif_pos (sameFile.symm.trans isFile)]
    exact ⟨rfl, alike.change (fun _ => rfl) (fun _ => rfl)⟩
  · rw [dif_neg isFile, dif_neg fun secondFile => isFile (sameFile.trans secondFile)]
    split
    · exact ⟨rfl, alike⟩
    · split <;> exact ⟨rfl, alike⟩

/-! ## Calls elsewhere -/

/-- A change at a name that is neither in the directory nor on the way to it is
not seen. -/
theorem SeenAlike.change_elsewhere {entry : Option (FileEntry Body)} {after :
    FileTree Name Body} (alike : SeenAlike directory first second)
    (apart : ¬ directory <+: names ∧ ¬ names <+: directory)
    (isAfter : ∀ other, after.entries other =
      if other = names then entry else first.entries other) :
    SeenAlike directory after second := by
  constructor
  · intro other isBelow
    rw [isAfter, if_neg, alike.below other isBelow]
    rintro rfl
    exact apart.1 isBelow
  · intro other isAbove
    rw [← alike.above other isAbove]
    unfold FileTree.isFile
    rw [isAfter, if_neg]
    rintro rfl
    exact apart.2 isAbove

theorem SeenAlike.makeDirectories_elsewhere (alike : SeenAlike directory first second)
    (notInside : ¬ directory <+: names) :
    SeenAlike directory (first.makeDirectories names).2 second := by
  unfold FileTree.makeDirectories
  split
  · exact alike
  · split
    · exact alike
    · next unblocked =>
        constructor
        · intro other isBelow
          rw [← alike.below other isBelow]
          exact if_neg fun isAbove => notInside (isBelow.trans isAbove)
        · intro other isAbove
          rw [← alike.above other isAbove]
          by_cases onTheWay : other <+: names
          · have noFile : first.isFile other ≠ true :=
              fun isFile => unblocked (blocked_iff.mpr ⟨other, onTheWay, isFile⟩)
            rw [Bool.eq_false_iff.mpr noFile]
            unfold FileTree.isFile FileTree.withDirectories
            simp only [if_pos onTheWay]
          · unfold FileTree.isFile FileTree.withDirectories
            simp only [if_neg onTheWay]

theorem SeenAlike.writeFile_elsewhere (alike : SeenAlike directory first second)
    (apart : ¬ directory <+: names ∧ ¬ names <+: directory) (body : Body) :
    SeenAlike directory (first.writeFile names body).2 second := by
  unfold FileTree.writeFile
  split
  · exact alike.change_elsewhere apart fun _ => rfl
  · exact alike

theorem SeenAlike.removeFile_elsewhere (alike : SeenAlike directory first second)
    (apart : ¬ directory <+: names ∧ ¬ names <+: directory) :
    SeenAlike directory (first.removeFile names).2 second := by
  unfold FileTree.removeFile
  split
  · exact alike.change_elsewhere apart fun _ => rfl
  · split
    · exact alike
    · split <;> exact alike

end FileTree

end PlatformArchitecture.Foundations
