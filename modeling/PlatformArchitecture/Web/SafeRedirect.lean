import PlatformArchitecture.Foundations.Urls

/-!
# Redirect targets after a login

`safeRedirectTarget` looks at the text it is given and then returns the path
that the URL parser makes of it.  Resolving dot segments can put an empty
segment in front of that path, and a browser reads the two slashes as the
beginning of another host.
-/

namespace PlatformArchitecture.Web

open PlatformArchitecture.Foundations

section Model

variable (originOf : List Char → Option String)

def localOrigin : String := "https://local.invalid"

def defaultRedirect : String := "/dashboard"

/-- A failed parse is caught. -/
def safeRedirectTarget (input : Option String) (fallback : String) : String :=
  match input with
  | none => fallback
  | some text =>
      match text.toList with
      | '/' :: '/' :: _ => fallback
      | '/' :: rest =>
          match Url.parseRooted originOf localOrigin rest with
          | none => fallback
          | some url =>
              if url.origin = localOrigin then
                String.ofList
                  (url.pathname ++ (Url.marked '?' url.query ++ Url.marked '#' url.fragment))
              else fallback
      | _ => fallback

/-- The target is a path below the root, and every `https` page that resolves
it stays at its own origin. -/
def KeepsOrigin (target : String) : Prop :=
  ∃ rest, target.toList = '/' :: rest ∧ (∀ c ∈ rest.head?, Url.isSlash c = false) ∧
    ∀ base, (Url.parseRooted originOf base rest).map Url.origin = some base

/-- An input that is let through, and in whose path dot segments leave an empty
segment in front of another one. -/
def UncoversSlashes (input : Option String) : Prop :=
  ∃ rest path, (input.map String.toList = some ('/' :: rest)) ∧ rest.head? ≠ some '/' ∧
    Url.originAndPath originOf localOrigin rest = some (localOrigin, path) ∧
    Url.KeepsEmptySegment (Url.pathSegments path)

end Model

variable {originOf : List Char → Option String}

theorem keepsOrigin_iff {target : List Char} (visible : ∀ c ∈ target, Url.isVisible c) :
    KeepsOrigin originOf (String.ofList target) ↔ Url.RootedOnce target := by
  constructor
  · rintro ⟨rest, isTarget, once, -⟩
    exact ⟨rest, by rw [← isTarget, String.toList_ofList], once⟩
  · rintro ⟨rest, rfl, once⟩
    refine ⟨rest, String.toList_ofList, once, ?_⟩
    intro base
    apply Url.origin_of_rootedOnce originOf base _ once
    intro c member
    exact visible c (List.mem_cons_of_mem '/' member)

theorem keepsOrigin_default : KeepsOrigin originOf defaultRedirect := by
  have spelled : defaultRedirect =
      String.ofList ['/', 'd', 'a', 's', 'h', 'b', 'o', 'a', 'r', 'd'] := rfl
  rw [spelled]
  apply (keepsOrigin_iff _).mpr
  · refine ⟨_, rfl, ?_⟩
    rintro first ⟨⟩
    rfl
  · simp [Url.isVisible]

/-- The text that a parsed URL is returned as. -/
theorem keepsOrigin_of_parsed {base : String} {rest path : List Char} {url : Url}
    (isSplit : Url.originAndPath originOf base rest = some (url.origin, path))
    (parsed : Url.parseRooted originOf base rest = some url) :
    KeepsOrigin originOf (String.ofList
        (url.pathname ++ (Url.marked '?' url.query ++ Url.marked '#' url.fragment))) ↔
      ¬ Url.KeepsEmptySegment (Url.pathSegments path) := by
  obtain ⟨text, isText, isPath, isQuery⟩ := Url.path_of_parseRooted parsed
  obtain rfl : path = text := congrArg Prod.snd (Option.some.inj (isSplit.symm.trans isText))
  have nonempty := Url.pathSegments_ne_nil path
  have written : ∀ segment ∈ url.path, ∀ c ∈ segment,
      Url.isVisible c ∧ Url.isSlash c = false := by
    intro segment member c inSegment
    rw [isPath] at member
    rcases Url.mem_resolveSegments member with inNothing | inText | rfl
    · exact absurd inNothing List.not_mem_nil
    · exact Url.pathSegments_chars path segment inText c inSegment
    · exact absurd inSegment List.not_mem_nil
  have visible : ∀ c ∈ url.pathname ++ (Url.marked '?' url.query ++
      Url.marked '#' url.fragment), Url.isVisible c := by
    intro c member
    have marks := Url.queryState_visible (Url.pathState [] [] path).2
    rw [← isQuery] at marks
    rcases List.mem_append.mp member with inPath | after
    · obtain ⟨segment, isSegment, inSegment⟩ := List.mem_flatMap.mp inPath
      rcases List.mem_cons.mp inSegment with rfl | inSegment
      · unfold Url.isVisible
        decide
      · exact (written segment isSegment c inSegment).1
    · rcases List.mem_append.mp after with inQuery | inFragment
      · exact Url.marked_visible (by unfold Url.isVisible; decide) marks.1 c inQuery
      · exact Url.marked_visible (by unfold Url.isVisible; decide) marks.2 c inFragment
  rw [keepsOrigin_iff visible]
  unfold Url.pathname
  rw [Url.rootedOnce_pathname_iff _ (fun segment member c inSegment =>
    (written segment member c inSegment).2) Url.head_marked, isPath,
    Url.resolveSegments_empty_iff nonempty]
  rw [isPath]
  exact Url.resolveSegments_ne_nil [] nonempty

/-- An input with a single slash, by the path that the parser reads in it. -/
theorem uncoversSlashes_iff {text : String} {rest : List Char} (isText : text.toList = '/' :: rest)
    (single : rest.head? ≠ some '/') :
    UncoversSlashes originOf (some text) ↔
      ∃ path, Url.originAndPath originOf localOrigin rest = some (localOrigin, path) ∧
        Url.KeepsEmptySegment (Url.pathSegments path) := by
  constructor
  · rintro ⟨others, path, isInput, _single, isSplit, keeps⟩
    rw [Option.map_some, isText] at isInput
    cases isInput
    exact ⟨path, isSplit, keeps⟩
  · rintro ⟨path, isSplit, keeps⟩
    exact ⟨rest, path, congrArg some isText, single, isSplit, keeps⟩

/-- A target keeps the origin of the page just when no empty segment has been
uncovered in front of its path. -/
theorem safeRedirectTarget_keepsOrigin_iff (originOf : List Char → Option String)
    (input : Option String) :
    KeepsOrigin originOf (safeRedirectTarget originOf input defaultRedirect) ↔
      ¬ UncoversSlashes originOf input := by
  have isDefault : ∀ {target}, target = defaultRedirect → ¬ UncoversSlashes originOf input →
      (KeepsOrigin originOf target ↔ ¬ UncoversSlashes originOf input) := by
    rintro target rfl harmless
    exact iff_of_true keepsOrigin_default harmless
  unfold safeRedirectTarget
  split
  · apply isDefault rfl
    rintro ⟨rest, path, isInput, -⟩
    cases isInput
  · next text =>
    split
    · next others isText =>
      apply isDefault rfl
      rintro ⟨rest, path, isInput, single, -⟩
      rw [Option.map_some, isText] at isInput
      cases isInput
      exact single rfl
    · next rest notTwo isText =>
      have single : rest.head? ≠ some '/' := by
        intro isSlash
        obtain ⟨others, rfl⟩ := List.head?_eq_some_iff.mp isSlash
        exact notTwo others rfl
      rw [uncoversSlashes_iff isText single] at isDefault ⊢
      cases parsed : Url.parseRooted originOf localOrigin rest with
      | none =>
          apply isDefault rfl
          rintro ⟨path, isSplit, -⟩
          unfold Url.parseRooted at parsed
          rw [isSplit] at parsed
          cases parsed
      | some url =>
          obtain ⟨path, isSplit, -⟩ := Url.path_of_parseRooted parsed
          dsimp only
          by_cases isLocal : url.origin = localOrigin
          · rw [if_pos isLocal, keepsOrigin_of_parsed isSplit parsed, not_iff_not, isSplit, isLocal]
            constructor
            · intro keeps
              exact ⟨path, rfl, keeps⟩
            · rintro ⟨_path, ⟨⟩, keeps⟩
              exact keeps
          · rw [if_neg isLocal]
            apply isDefault rfl
            rintro ⟨other, isOther, -⟩
            have same := Option.some.inj (isSplit.symm.trans isOther)
            exact isLocal (congrArg Prod.fst same)
    · next isText =>
      apply isDefault rfl
      rintro ⟨rest, path, isInput, -⟩
      exact isText rest (Option.some.inj isInput)

/-- `/.//evil.com` is let through as `//evil.com`, which a page resolves to
another host. -/
theorem safeRedirectTarget_leavesOrigin :
    safeRedirectTarget (fun authority => some ("https://" ++ String.ofList authority))
        (some "/.//evil.com") defaultRedirect = "//evil.com" ∧
      (Url.parseRooted (fun authority => some ("https://" ++ String.ofList authority))
        "https://app.example" "/evil.com".toList).map Url.origin = some "https://evil.com" ∧
      ¬ KeepsOrigin (fun authority => some ("https://" ++ String.ofList authority))
        "//evil.com" := by
  refine ⟨by decide +kernel, by decide +kernel, ?_⟩
  rintro ⟨rest, isTarget, once, -⟩
  have isRest : "/evil.com".toList = rest := (List.cons.inj isTarget).2
  have isSlash := once '/' (by rw [← isRest]; rfl)
  exact absurd isSlash (by decide)

end PlatformArchitecture.Web
