import Mathlib.Data.List.Basic

/-!
# Slash-separated paths

A path is a list of segments.  Resolving one from a directory drops empty and
`.` segments and lets `..` cancel the name before it, so a resolved path is a
list of plain names.  The comparison of texts that programs use to keep a path
inside a directory is the prefix order of these lists, except at the root.
-/

namespace PlatformArchitecture.Foundations

/-- A part of a path between separators. -/
abbrev Segment := List Char

/-- `path.split('/')`. -/
def segments (path : String) : List Segment :=
  path.toList.splitOn '/'

/-- `path.replace(/^\/+/, '')`. -/
def stripLeadingSlashes (path : String) : String :=
  String.ofList (path.toList.dropWhile (· == '/'))

/-- A segment in front of a separator can be read back. -/
theorem segment_inj {first second rest others : List Char} (firstSafe : '/' ∉ first)
    (secondSafe : '/' ∉ second) (same : first ++ '/' :: rest = second ++ '/' :: others) :
    first = second ∧ rest = others := by
  induction first generalizing second with
  | nil =>
      cases second with
      | nil => exact ⟨rfl, (List.cons.inj same).2⟩
      | cons head tail =>
          have isSlash : '/' = head := (List.cons.inj same).1
          exact absurd (isSlash ▸ List.mem_cons_self) secondSafe
  | cons head tail inductionHypothesis =>
      cases second with
      | nil =>
          have isSlash : head = '/' := (List.cons.inj same).1
          exact absurd (isSlash ▸ List.mem_cons_self) firstSafe
      | cons other following =>
          obtain ⟨sameHead, sameRest⟩ := List.cons.inj same
          obtain ⟨sameTail, sameOthers⟩ :=
            inductionHypothesis (fun slash => firstSafe (List.mem_cons_of_mem head slash))
              (fun slash => secondSafe (List.mem_cons_of_mem other slash)) sameRest
          exact ⟨congrArg₂ List.cons sameHead sameTail, sameOthers⟩

/-- Segments that resolution leaves alone. -/
structure IsName (segment : Segment) : Prop where
  nonempty : segment ≠ []
  notDot : segment ≠ ['.']
  notDotDot : segment ≠ ['.', '.']
  noSlash : '/' ∉ segment

instance (segment : Segment) : Decidable (IsName segment) :=
  decidable_of_iff
    (segment ≠ [] ∧ segment ≠ ['.'] ∧ segment ≠ ['.', '.'] ∧ '/' ∉ segment)
    ⟨fun parts => ⟨parts.1, parts.2.1, parts.2.2.1, parts.2.2.2⟩,
      fun isName => ⟨isName.nonempty, isName.notDot, isName.notDotDot, isName.noSlash⟩⟩

theorem segments_noSlash (path : String) : ∀ segment ∈ segments path, '/' ∉ segment := by
  unfold segments
  induction path.toList with
  | nil =>
      intro segment member
      rw [List.splitOn_nil, List.mem_singleton] at member
      rw [member]
      exact List.not_mem_nil
  | cons c rest inductionHypothesis =>
      intro segment member
      rw [List.splitOn_cons_eq_if_modifyHead] at member
      split at member
      · rcases List.mem_cons.mp member with isEmpty | later
        · rw [isEmpty]
          exact List.not_mem_nil
        · exact inductionHypothesis segment later
      · next notSlash =>
        cases isSplit : rest.splitOn '/' with
        | nil => exact absurd isSplit (List.splitOn_ne_nil _ _)
        | cons head others =>
            rw [isSplit] at member inductionHypothesis
            rcases List.mem_cons.mp member with isHead | later
            · rw [isHead]
              intro slash
              rcases List.mem_cons.mp slash with isFirst | inHead
              · exact notSlash (beq_iff_eq.mpr isFirst.symm)
              · exact inductionHypothesis head List.mem_cons_self inHead
            · exact inductionHypothesis segment (List.mem_cons_of_mem head later)

theorem segments_of_noSlash {path : String} (noSlash : '/' ∉ path.toList) :
    segments path = [path.toList] :=
  List.splitOn_eq_singleton noSlash

theorem segments_append_slash (path rest : String) :
    segments (path ++ "/" ++ rest) = segments path ++ segments rest := by
  have chars : (path ++ "/" ++ rest).toList = path.toList ++ '/' :: rest.toList := by
    rw [String.toList_append, String.toList_append, List.append_assoc]
    rfl
  unfold segments
  rw [chars, List.splitOn_append_cons_self]

/-- One segment of a resolution: `..` cancels the last name. -/
def enter (names : List Segment) (segment : Segment) : List Segment :=
  if segment = [] ∨ segment = ['.'] then names
  else if segment = ['.', '.'] then names.dropLast
  else names ++ [segment]

def walk (names : List Segment) (path : List Segment) : List Segment :=
  path.foldl enter names

theorem walk_append (names path rest : List Segment) :
    walk names (path ++ rest) = walk (walk names path) rest :=
  List.foldl_append

theorem enter_name {segment : Segment} (isName : IsName segment) (names : List Segment) :
    enter names segment = names ++ [segment] := by
  unfold enter
  rw [if_neg, if_neg isName.notDotDot]
  intro skipped
  rcases skipped with nil | dot
  · exact isName.nonempty nil
  · exact isName.notDot dot

theorem walk_names {path : List Segment} (areNames : ∀ segment ∈ path, IsName segment)
    (names : List Segment) : walk names path = names ++ path := by
  induction path generalizing names with
  | nil => exact (List.append_nil names).symm
  | cons segment rest inductionHypothesis =>
      have isName := areNames segment List.mem_cons_self
      have restNames : ∀ later ∈ rest, IsName later :=
        fun later member => areNames later (List.mem_cons_of_mem segment member)
      show walk (enter names segment) rest = names ++ segment :: rest
      rw [enter_name isName, inductionHypothesis restNames, List.append_assoc,
        List.singleton_append]

/-- A step down and a step of any kind do not lead out of the directory. -/
theorem prefix_enter_enter {name : Segment} (isName : IsName name) (names : List Segment)
    (segment : Segment) : names <+: enter (enter names name) segment := by
  rw [enter_name isName]
  unfold enter
  split
  · exact List.prefix_append names [name]
  · split
    · simp only [List.dropLast_concat, List.prefix_refl]
    · rw [List.append_assoc]
      exact List.prefix_append names _

/-- A step down and a step of any kind lead back only by `..`. -/
theorem enter_enter_eq {name : Segment} (isName : IsName name) {names : List Segment}
    {segment : Segment} (back : enter (enter names name) segment = names) :
    segment = ['.', '.'] := by
  rw [enter_name isName] at back
  unfold enter at back
  split at back
  · exact absurd (List.append_right_eq_self.mp back) (List.cons_ne_nil _ _)
  · split at back
    · assumption
    · rw [List.append_assoc] at back
      exact absurd (List.append_right_eq_self.mp back) (List.cons_ne_nil _ _)

/-- Two names, each followed by a segment of any kind, do not lead out of the
directory. -/
theorem prefix_walk_named {first second : Segment} (firstName : IsName first)
    (secondName : IsName second) (names : List Segment) (segment other : Segment) :
    names <+: walk names [first, segment, second, other] :=
  (prefix_enter_enter firstName names segment).trans
    (prefix_enter_enter secondName (enter (enter names first) segment) other)

theorem walk_named_eq {first second : Segment} (firstName : IsName first)
    (secondName : IsName second) {names : List Segment} {segment other : Segment}
    (back : walk names [first, segment, second, other] = names) :
    segment = ['.', '.'] ∧ other = ['.', '.'] := by
  have down := prefix_enter_enter firstName names segment
  have further := prefix_enter_enter secondName (enter (enter names first) segment) other
  have whole : enter (enter (enter (enter names first) segment) second) other = names := back
  rw [whole] at further
  have between : enter (enter names first) segment = names :=
    further.eq_of_length_le down.length_le
  rw [between] at whole
  exact ⟨enter_enter_eq firstName between, enter_enter_eq secondName whole⟩

theorem mem_enter {names : List Segment} {segment name : Segment} (noSlash : '/' ∉ segment)
    (member : name ∈ enter names segment) : name ∈ names ∨ IsName name := by
  unfold enter at member
  split at member
  · exact Or.inl member
  · next kept =>
    split at member
    · exact Or.inl (List.dropLast_subset names member)
    · next notDotDot =>
      rcases List.mem_append.mp member with earlier | isLast
      · exact Or.inl earlier
      · obtain rfl := List.mem_singleton.mp isLast
        exact Or.inr ⟨fun nil => kept (Or.inl nil), fun dot => kept (Or.inr dot), notDotDot,
          noSlash⟩

/-- A resolution leaves plain names. -/
theorem isName_of_mem_walk {names path : List Segment} (areNames : ∀ name ∈ names, IsName name)
    (noSlash : ∀ segment ∈ path, '/' ∉ segment) : ∀ name ∈ walk names path, IsName name := by
  induction path generalizing names with
  | nil => exact areNames
  | cons segment rest inductionHypothesis =>
      refine inductionHypothesis ?_ fun later member =>
        noSlash later (List.mem_cons_of_mem segment member)
      intro name member
      rcases mem_enter (noSlash segment List.mem_cons_self) member with earlier | isName
      · exact areNames name earlier
      · exact isName

/-- Segments without `..` only lead further down. -/
theorem prefix_walk {names path : List Segment} (noDotDot : ['.', '.'] ∉ path) :
    names <+: walk names path := by
  induction path generalizing names with
  | nil => exact List.prefix_refl names
  | cons segment rest inductionHypothesis =>
      have notUp : segment ≠ ['.', '.'] := fun up => noDotDot (up ▸ List.mem_cons_self)
      have first : names <+: enter names segment := by
        unfold enter
        split
        · exact List.prefix_refl names
        · exact List.prefix_append names [segment]
      exact first.trans
        (inductionHypothesis fun later => noDotDot (List.mem_cons_of_mem segment later))

/-- An absolute path in normal form. -/
structure AbsolutePath where
  names : List Segment
  areNames : ∀ name ∈ names, IsName name

namespace AbsolutePath

@[ext]
theorem ext {path other : AbsolutePath} (same : path.names = other.names) : path = other := by
  cases path
  cases other
  cases same
  rfl

instance : DecidableEq AbsolutePath := fun path other =>
  decidable_of_iff (path.names = other.names) ⟨ext, fun same => same ▸ rfl⟩

def root : AbsolutePath :=
  ⟨[], fun _name member => absurd member List.not_mem_nil⟩

/-- `path.resolve(base, relative)`. -/
def resolve (base : AbsolutePath) (relative : String) : AbsolutePath :=
  if relative.toList.head? = some '/' then
    ⟨walk [] (segments relative), isName_of_mem_walk root.areNames (segments_noSlash relative)⟩
  else
    ⟨walk base.names (segments relative),
      isName_of_mem_walk base.areNames (segments_noSlash relative)⟩

theorem names_resolve {relative : String} (isRelative : relative.toList.head? ≠ some '/')
    (base : AbsolutePath) :
    (base.resolve relative).names = walk base.names (segments relative) := by
  rw [resolve, if_neg isRelative]

def text (path : AbsolutePath) : String :=
  String.ofList ('/' :: ['/'].intercalate path.names)

/-- Each name behind a separator. -/
def trail (names : List Segment) : List Char :=
  names.flatMap fun name => '/' :: name

theorem trail_cons (name : Segment) (rest : List Segment) :
    trail (name :: rest) = '/' :: (name ++ trail rest) :=
  rfl

private theorem trail_eq_intercalate {names : List Segment} (nonempty : names ≠ []) :
    trail names = '/' :: ['/'].intercalate names := by
  induction names with
  | nil => exact absurd rfl nonempty
  | cons name rest inductionHypothesis =>
      cases rest with
      | nil => simp [trail, List.intercalate]
      | cons other others =>
          rw [trail_cons, inductionHypothesis (List.cons_ne_nil _ _),
            List.intercalate_cons_cons, List.append_assoc, List.singleton_append]

theorem toList_text_eq (path : AbsolutePath) :
    path.text.toList = '/' :: ['/'].intercalate path.names :=
  String.toList_ofList

theorem toList_text {path : AbsolutePath} (nonempty : path.names ≠ []) :
    path.text.toList = trail path.names := by
  rw [toList_text_eq, trail_eq_intercalate nonempty]

private theorem exists_trail_append_slash (names : List Segment) (tail : List Char) :
    ∃ rest, trail names ++ '/' :: tail = '/' :: rest := by
  cases names with
  | nil => exact ⟨tail, rfl⟩
  | cons name others => exact ⟨(name ++ trail others) ++ '/' :: tail, rfl⟩

/-- A name ends where its trail has the next separator. -/
private theorem of_trail_prefix {base target : List Segment}
    (baseNames : ∀ name ∈ base, IsName name) (targetNames : ∀ name ∈ target, IsName name)
    {tail : List Char} (split : trail base ++ '/' :: tail = trail target) :
    base <+: target ∧ base ≠ target := by
  induction base generalizing target with
  | nil =>
      refine ⟨List.nil_prefix, ?_⟩
      rintro rfl
      cases split
  | cons name rest inductionHypothesis =>
      cases target with
      | nil => cases split
      | cons other others =>
          have nameSafe := (baseNames name List.mem_cons_self).noSlash
          have otherSafe := (targetNames other List.mem_cons_self).noSlash
          rw [trail_cons, trail_cons, List.cons_append, List.append_assoc] at split
          have behind := (List.cons.inj split).2
          obtain ⟨following, isFollowing⟩ := exists_trail_append_slash rest tail
          rw [isFollowing] at behind
          cases others with
          | nil =>
              rw [trail, List.flatMap_nil, List.append_nil] at behind
              rw [← behind] at otherSafe
              exact absurd (List.mem_append_right _ List.mem_cons_self) otherSafe
          | cons next later =>
              rw [trail_cons] at behind
              obtain ⟨rfl, sameRest⟩ := segment_inj nameSafe otherSafe behind
              rw [sameRest, ← trail_cons] at isFollowing
              obtain ⟨begins, differ⟩ :=
                inductionHypothesis
                  (fun each member => baseNames each (List.mem_cons_of_mem name member))
                  (fun each member => targetNames each (List.mem_cons_of_mem name member))
                  isFollowing
              refine ⟨(List.prefix_cons_inj name).mpr begins, ?_⟩
              intro same
              exact differ (List.cons.inj same).2

private theorem trail_append (names rest : List Segment) :
    trail (names ++ rest) = trail names ++ trail rest :=
  List.flatMap_append

/-- The text of a directory other than the root and a separator begin the text
of a path exactly when the path is further down. -/
theorem text_slash_prefix_iff {base : AbsolutePath} (notRoot : base ≠ root)
    (target : AbsolutePath) :
    (base.text ++ "/").toList <+: target.text.toList ↔
      base.names <+: target.names ∧ base ≠ target := by
  have baseNonempty : base.names ≠ [] := fun empty => notRoot (ext empty)
  rw [String.toList_append, toList_text baseNonempty]
  constructor
  · rintro ⟨tail, begins⟩
    rw [List.append_assoc] at begins
    have targetNonempty : target.names ≠ [] := by
      intro empty
      rw [toList_text_eq target, empty] at begins
      obtain ⟨name, others, isCons⟩ := List.exists_cons_of_ne_nil baseNonempty
      rw [isCons, trail_cons] at begins
      have nothing := (List.cons.inj begins).2
      exact absurd nothing (List.append_ne_nil_of_right_ne_nil _ (List.cons_ne_nil _ _))
    rw [toList_text targetNonempty] at begins
    obtain ⟨isPrefix, differ⟩ := of_trail_prefix base.areNames target.areNames begins
    exact ⟨isPrefix, fun same => differ (congrArg names same)⟩
  · rintro ⟨⟨rest, split⟩, differ⟩
    cases rest with
    | nil => exact absurd (ext (by rw [← split, List.append_nil])) differ
    | cons name others =>
        have targetNonempty : target.names ≠ [] := by
          intro empty
          rw [empty] at split
          exact List.append_ne_nil_of_right_ne_nil _ (List.cons_ne_nil name others) split
        rw [toList_text targetNonempty, ← split, trail_append, trail_cons]
        exact ⟨name ++ trail others, by simp⟩

/-- Nothing is behind the root and a further separator. -/
theorem not_text_root_slash_prefix (target : AbsolutePath) :
    ¬ (root.text ++ "/").toList <+: target.text.toList := by
  rintro ⟨tail, begins⟩
  have slashes : (root.text ++ "/").toList = ['/', '/'] := by decide
  rw [slashes, toList_text_eq] at begins
  have behind : '/' :: tail = ['/'].intercalate target.names := (List.cons.inj begins).2
  cases isNames : target.names with
  | nil =>
      rw [isNames] at behind
      cases behind
  | cons name others =>
      have isName := target.areNames name (isNames ▸ List.mem_cons_self)
      have trailed := trail_eq_intercalate (List.cons_ne_nil name others)
      rw [isNames] at behind
      rw [trail_cons, ← behind] at trailed
      obtain ⟨c, rest, isCons⟩ := List.exists_cons_of_ne_nil isName.nonempty
      rw [isCons, List.cons_append] at trailed
      have isSlash : c = '/' := (List.cons.inj (List.cons.inj trailed).2).1
      apply isName.noSlash
      rw [isCons, isSlash]
      exact List.mem_cons_self

private theorem splitOn_intercalate_names (path : AbsolutePath) :
    (['/'].intercalate path.names).splitOn '/' =
      if path.names = [] then [[]] else path.names := by
  split
  · next empty =>
    rw [empty]
    rfl
  · next nonempty =>
    exact List.splitOn_intercalate '/' (fun name member => (path.areNames name member).noSlash)
      nonempty

theorem text_injective : Function.Injective text := by
  intro path other same
  have sameChars := congrArg String.toList same
  rw [toList_text_eq, toList_text_eq] at sameChars
  have sameSplit := congrArg (List.splitOn '/') (List.cons.inj sameChars).2
  rw [splitOn_intercalate_names, splitOn_intercalate_names] at sameSplit
  have notEmptyName : ∀ each : AbsolutePath, each.names ≠ [[]] := by
    intro each isEmptyName
    exact (each.areNames [] (isEmptyName ▸ List.mem_cons_self)).nonempty rfl
  apply ext
  split at sameSplit
  · next empty =>
    split at sameSplit
    · next otherEmpty => exact empty.trans otherEmpty.symm
    · exact absurd sameSplit.symm (notEmptyName other)
  · split at sameSplit
    · exact absurd sameSplit (notEmptyName path)
    · exact sameSplit

end AbsolutePath

end PlatformArchitecture.Foundations
