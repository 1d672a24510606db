import Mathlib.Data.List.TakeWhile
import PlatformArchitecture.PolicyEngine.PlatformPolicy

/-!
# Spellings of a capability

A name is compared after its lower case has been trimmed and every run of
separators has become one underscore.  The policy replaces runs of white space,
dots and hyphens but leaves underscores alone, so two spellings of one name get
the same answer unless an underscore stands beside another separator in one of
them.
-/

namespace PlatformArchitecture.PolicyEngine

/-- A character that separates the words of a name, the underscore included. -/
def isNameSeparator (c : Char) : Bool :=
  isSeparator c || c = '_'

/-- Every run of separators replaced by one underscore. -/
def collapseRuns : Bool → List Char → List Char
  | _, [] => []
  | inRun, c :: rest =>
      if isNameSeparator c then
        if inRun then collapseRuns true rest else '_' :: collapseRuns true rest
      else
        c :: collapseRuns false rest

/-- The text begins with an underscore, or with any separator where
`afterUnderscore` says that an underscore stands before it. -/
def startsRun (afterUnderscore : Bool) (chars : List Char) : Bool :=
  chars.head?.any fun c => c = '_' || afterUnderscore && isSeparator c

/-- An underscore stands beside another separator. -/
def UnderscoreBeside : List Char → Prop
  | [] => False
  | c :: rest =>
      isNameSeparator c = true ∧ startsRun (c = '_') rest = true ∨ UnderscoreBeside rest

instance decidableUnderscoreBeside : ∀ chars : List Char, Decidable (UnderscoreBeside chars)
  | [] => inferInstanceAs (Decidable False)
  | _ :: rest =>
      @instDecidableOr _ _ inferInstance (decidableUnderscoreBeside rest)

theorem isSeparator_underscore : isSeparator '_' = false := by
  decide

theorem isNameSeparator_of_isSeparator {c : Char} (separates : isSeparator c = true) :
    isNameSeparator c = true := by
  simp [isNameSeparator, separates]

theorem ne_underscore_of_isSeparator {c : Char} (separates : isSeparator c = true) : c ≠ '_' := by
  rintro rfl
  rw [isSeparator_underscore] at separates
  exact absurd separates Bool.false_ne_true

/-! ## The two ways to replace runs -/

/-- Leaving underscores alone never gives the shorter text. -/
theorem length_collapseRuns_le (chars : List Char) :
    (∀ inRun, (collapseRuns true chars).length ≤ (replaceRuns inRun chars).length) ∧
      (collapseRuns false chars).length ≤ (replaceRuns false chars).length := by
  induction chars with
  | nil => simp [collapseRuns]
  | cons c rest inductionHypothesis =>
      obtain ⟨inside, outside⟩ := inductionHypothesis
      have insideTrue := inside true
      have insideFalse := inside false
      cases separates : isSeparator c with
      | true =>
          have separatesName := isNameSeparator_of_isSeparator separates
          simp only [collapseRuns, replaceRuns, separates, separatesName, if_true]
          constructor
          · intro inRun
            cases inRun with
            | true => exact insideTrue
            | false =>
                rw [if_neg Bool.false_ne_true, List.length_cons]
                omega
          · simpa using insideTrue
      | false =>
          by_cases underscore : c = '_'
          · have separatesName : isNameSeparator c = true := by
              simp [isNameSeparator, underscore]
            simp only [collapseRuns, replaceRuns, separates, separatesName, if_true,
              Bool.false_eq_true, if_false, List.length_cons]
            constructor
            · intro _inRun
              omega
            · omega
          · have separatesName : isNameSeparator c = false := by
              simp [isNameSeparator, separates, underscore]
            simp only [collapseRuns, replaceRuns, separates, separatesName, Bool.false_eq_true,
              if_false, List.length_cons]
            exact ⟨fun _inRun => by omega, by omega⟩

/-- The policy's text with an underscore before it is not the collapsed one. -/
theorem underscore_replaceRuns_ne (inRun : Bool) (chars : List Char) :
    '_' :: replaceRuns inRun chars ≠ collapseRuns true chars := by
  intro same
  have longer := (length_collapseRuns_le chars).1 inRun
  rw [← same, List.length_cons] at longer
  omega

/-- Both ways give one text exactly where no underscore stands beside another
separator: inside a run of other separators no underscore may follow, and after
an underscore no separator at all. -/
theorem replaceRuns_eq_collapseRuns_iff (chars : List Char) :
    (replaceRuns false chars = collapseRuns false chars ↔ ¬ UnderscoreBeside chars) ∧
    (replaceRuns true chars = collapseRuns true chars ↔
      ¬ UnderscoreBeside chars ∧ startsRun false chars = false) ∧
    (replaceRuns false chars = collapseRuns true chars ↔
      ¬ UnderscoreBeside chars ∧ startsRun true chars = false) := by
  induction chars with
  | nil => simp [replaceRuns, collapseRuns, UnderscoreBeside, startsRun]
  | cons c rest inductionHypothesis =>
      obtain ⟨outside, inRun, afterUnderscore⟩ := inductionHypothesis
      cases separates : isSeparator c with
      | true =>
          have separatesName := isNameSeparator_of_isSeparator separates
          have notUnderscore := ne_underscore_of_isSeparator separates
          have beside : ¬ UnderscoreBeside (c :: rest) ↔
              ¬ UnderscoreBeside rest ∧ startsRun false rest = false := by
            simp [UnderscoreBeside, separatesName, notUnderscore, and_comm]
          have never := underscore_replaceRuns_ne true rest
          simp only [replaceRuns, collapseRuns, separates, separatesName, if_true,
            Bool.false_eq_true, if_false, List.cons.injEq, true_and, beside, inRun, never,
            false_iff]
          simp [startsRun, notUnderscore, separates]
      | false =>
          by_cases underscore : c = '_'
          · subst underscore
            have separatesName : isNameSeparator '_' = true := by decide
            have beside : ¬ UnderscoreBeside ('_' :: rest) ↔
                ¬ UnderscoreBeside rest ∧ startsRun true rest = false := by
              simp [UnderscoreBeside, separatesName, and_comm]
            have never := underscore_replaceRuns_ne false rest
            simp only [replaceRuns, collapseRuns, separates, separatesName, if_true,
              Bool.false_eq_true, if_false, List.cons.injEq, true_and, beside, afterUnderscore,
              never, false_iff]
            simp [startsRun]
          · have separatesName : isNameSeparator c = false := by
              simp [isNameSeparator, separates, underscore]
            have beside : ¬ UnderscoreBeside (c :: rest) ↔ ¬ UnderscoreBeside rest := by
              simp [UnderscoreBeside, separatesName]
            simp only [replaceRuns, collapseRuns, separates, separatesName, Bool.false_eq_true,
              if_false, List.cons.injEq, true_and, beside, outside]
            simp [startsRun, underscore, separates]

/-- Collapsing what the policy makes of a text collapses the text. -/
theorem collapseRuns_replaceRuns (chars : List Char) :
    (∀ inRun, collapseRuns true (replaceRuns inRun chars) = collapseRuns true chars) ∧
      collapseRuns false (replaceRuns false chars) = collapseRuns false chars := by
  have underscore : isNameSeparator '_' = true := by decide
  induction chars with
  | nil => simp [replaceRuns, collapseRuns]
  | cons c rest inductionHypothesis =>
      obtain ⟨inside, outside⟩ := inductionHypothesis
      cases separates : isSeparator c with
      | true =>
          have separatesName := isNameSeparator_of_isSeparator separates
          constructor
          · intro inRun
            cases inRun with
            | true => simp [replaceRuns, collapseRuns, separates, separatesName, inside]
            | false =>
                simp [replaceRuns, collapseRuns, separates, separatesName, underscore, inside]
          · simp [replaceRuns, collapseRuns, separates, separatesName, underscore, inside]
      | false =>
          cases separatesName : isNameSeparator c with
          | true => simp [replaceRuns, collapseRuns, separates, separatesName, inside]
          | false => simp [replaceRuns, collapseRuns, separates, separatesName, outside]

/-! ## Lower case and trimming -/

theorem isNameSeparator_iff (c : Char) :
    isNameSeparator c = true ↔
      c.toNat ∈
          [0x9, 0xA, 0xB, 0xC, 0xD, 0x20, 0xA0, 0x1680, 0x2028, 0x2029, 0x202F, 0x205F,
            0x3000, 0xFEFF, 0x2D, 0x2E, 0x5F] ∨
        0x2000 ≤ c.toNat ∧ c.toNat ≤ 0x200A := by
  have dot : c = '.' ↔ c.toNat = 0x2E := by
    rw [← Char.toNat_inj]
    rfl
  have hyphen : c = '-' ↔ c.toNat = 0x2D := by
    rw [← Char.toNat_inj]
    rfl
  have underscore : c = '_' ↔ c.toNat = 0x5F := by
    rw [← Char.toNat_inj]
    rfl
  simp only [isNameSeparator, isSeparator, isSpace, Bool.or_eq_true, decide_eq_true_eq, dot,
    hyphen, underscore, List.mem_cons, List.not_mem_nil, or_false]
  omega

/-- The ASCII capitals are the letters that `Char.toLower` changes. -/
theorem toNat_toLower (c : Char) :
    c.toLower.toNat = if 65 ≤ c.toNat ∧ c.toNat ≤ 90 then c.toNat + 32 else c.toNat := by
  have bounds : (c.val ≥ 'A'.val ∧ c.val ≤ 'Z'.val) ↔ 65 ≤ c.toNat ∧ c.toNat ≤ 90 := by
    rw [ge_iff_le, UInt32.le_iff_toNat_le, UInt32.le_iff_toNat_le]
    rfl
  unfold Char.toLower
  split
  · rename_i capital
    rw [if_pos (bounds.mp capital)]
    have inRange := bounds.mp capital
    change (c.val + ('a'.val - 'A'.val)).toNat = c.toNat + 32
    rw [UInt32.toNat_add]
    change (c.toNat + 32) % 2 ^ 32 = c.toNat + 32
    omega
  · rename_i notCapital
    rw [if_neg (fun inRange => notCapital (bounds.mpr inRange))]

/-- Lower case leaves a separator as it is. -/
theorem toLowerCase_separator {c : Char} (separates : isNameSeparator c = true) :
    toLowerCase c = [c] := by
  have code := (isNameSeparator_iff c).mp separates
  simp only [List.mem_cons, List.not_mem_nil, or_false] at code
  have lower : c.toLower = c := by
    rw [← Char.toNat_inj, toNat_toLower, if_neg (by omega)]
  rw [toLowerCase, if_neg (by omega), if_neg (by omega), lower]

/-- Lower case makes no separator of another character. -/
theorem toLowerCase_word {c : Char} (word : isNameSeparator c = false) :
    toLowerCase c ≠ [] ∧ ∀ d ∈ toLowerCase c, isNameSeparator d = false := by
  have letters : ∀ d : Char, d ∈ ['k', 'i', Char.ofNat 0x307] → isNameSeparator d = false := by
    intro d member
    simp only [List.mem_cons, List.not_mem_nil, or_false] at member
    rcases member with rfl | rfl | rfl
    · decide
    · decide
    · decide
  unfold toLowerCase
  split
  · refine ⟨List.cons_ne_nil _ _, ?_⟩
    intro d member
    rw [List.mem_singleton.mp member]
    exact letters 'k' List.mem_cons_self
  split
  · refine ⟨List.cons_ne_nil _ _, ?_⟩
    intro d member
    exact letters d (List.mem_cons_of_mem _ member)
  refine ⟨List.cons_ne_nil _ _, ?_⟩
  intro d member
  rw [List.mem_singleton.mp member]
  have code := mt (isNameSeparator_iff c).mpr (Bool.eq_false_iff.mp word)
  rw [Bool.eq_false_iff, Ne, isNameSeparator_iff, toNat_toLower]
  split
  · simp only [List.mem_cons, List.not_mem_nil, or_false]
    omega
  · exact code

private theorem toLowerCase_space {c : Char} (space : isSpace c = true) :
    toLowerCase c = [c] := by
  have separates : isSeparator c = true := by
    simp [isSeparator, space]
  exact toLowerCase_separator (isNameSeparator_of_isSeparator separates)

/-- Lower case makes no white space. -/
private theorem toLowerCase_not_space {c : Char} (word : isSpace c = false) :
    toLowerCase c ≠ [] ∧ ∀ d ∈ toLowerCase c, isSpace d = false := by
  cases separates : isNameSeparator c with
  | true =>
      rw [toLowerCase_separator separates]
      refine ⟨List.cons_ne_nil _ _, ?_⟩
      intro d member
      rw [List.mem_singleton.mp member]
      exact word
  | false =>
      have lowered := toLowerCase_word separates
      refine ⟨lowered.1, ?_⟩
      intro d member
      have notSeparator := lowered.2 d member
      simp only [isNameSeparator, isSeparator, Bool.or_eq_false_iff] at notSeparator
      exact notSeparator.1.1.1

/-- White space at the front is dropped before or after a function that leaves
it alone and makes no other. -/
theorem dropWhile_flatMap {change : Char → List Char}
    (space : ∀ c, isSpace c = true → change c = [c])
    (word : ∀ c, isSpace c = false → change c ≠ [] ∧ ∀ d ∈ change c, isSpace d = false)
    (chars : List Char) :
    (chars.flatMap change).dropWhile isSpace = (chars.dropWhile isSpace).flatMap change := by
  induction chars with
  | nil => rfl
  | cons c rest inductionHypothesis =>
      cases isWhite : isSpace c with
      | true =>
          rw [List.flatMap_cons, space c isWhite, List.singleton_append,
            List.dropWhile_cons_of_pos isWhite, List.dropWhile_cons_of_pos isWhite,
            inductionHypothesis]
      | false =>
          obtain ⟨nonempty, noSpace⟩ := word c isWhite
          obtain ⟨first, others, changed⟩ := List.exists_cons_of_ne_nil nonempty
          have firstWord : ¬ isSpace first = true := by
            have shown := noSpace first (changed ▸ List.mem_cons_self)
            rw [shown]
            exact Bool.false_ne_true
          rw [List.dropWhile_cons_of_neg (by rw [isWhite]; exact Bool.false_ne_true),
            List.flatMap_cons, changed, List.cons_append,
            List.dropWhile_cons_of_neg firstWord]

/-- A text may be trimmed before or after it is put in lower case. -/
theorem trim_flatMap_toLowerCase (chars : List Char) :
    trim (chars.flatMap toLowerCase) = (trim chars).flatMap toLowerCase := by
  have backSpace : ∀ c, isSpace c = true → (List.reverse ∘ toLowerCase) c = [c] := by
    intro c space
    rw [Function.comp_apply, toLowerCase_space space]
    rfl
  have backWord : ∀ c, isSpace c = false → (List.reverse ∘ toLowerCase) c ≠ [] ∧
      ∀ d ∈ (List.reverse ∘ toLowerCase) c, isSpace d = false := by
    intro c word
    have lowered := toLowerCase_not_space word
    refine ⟨fun none => lowered.1 (List.reverse_eq_nil_iff.mp none), ?_⟩
    intro d member
    exact lowered.2 d (List.mem_reverse.mp member)
  have twice : List.reverse ∘ (List.reverse ∘ toLowerCase) = toLowerCase := by
    funext c
    exact List.reverse_reverse (toLowerCase c)
  rw [trim, trim,
    dropWhile_flatMap (fun _ => toLowerCase_space) (fun _ => toLowerCase_not_space),
    List.reverse_flatMap, dropWhile_flatMap backSpace backWord, List.reverse_flatMap, twice]

theorem startsRun_flatMap_toLowerCase (afterUnderscore : Bool) (chars : List Char) :
    startsRun afterUnderscore (chars.flatMap toLowerCase) = startsRun afterUnderscore chars := by
  cases chars with
  | nil => rfl
  | cons c rest =>
      cases separates : isNameSeparator c with
      | true =>
          rw [List.flatMap_cons, toLowerCase_separator separates]
          rfl
      | false =>
          obtain ⟨nonempty, words⟩ := toLowerCase_word separates
          obtain ⟨first, others, lowered⟩ := List.exists_cons_of_ne_nil nonempty
          have firstWord := words first (lowered ▸ List.mem_cons_self)
          simp only [isNameSeparator, Bool.or_eq_false_iff, decide_eq_false_iff_not]
            at separates firstWord
          rw [List.flatMap_cons, lowered]
          simp [startsRun, separates, firstWord]

private theorem underscoreBeside_append_words {words : List Char}
    (noSeparator : ∀ c ∈ words, isNameSeparator c = false) (chars : List Char) :
    UnderscoreBeside (words ++ chars) ↔ UnderscoreBeside chars := by
  induction words with
  | nil => rfl
  | cons c rest inductionHypothesis =>
      have word := noSeparator c List.mem_cons_self
      have others := inductionHypothesis fun d member =>
        noSeparator d (List.mem_cons_of_mem c member)
      rw [List.cons_append, UnderscoreBeside, word, others]
      simp

/-- Lower case keeps what stands beside the underscores. -/
theorem underscoreBeside_flatMap_toLowerCase (chars : List Char) :
    UnderscoreBeside (chars.flatMap toLowerCase) ↔ UnderscoreBeside chars := by
  induction chars with
  | nil => rfl
  | cons c rest inductionHypothesis =>
      cases separates : isNameSeparator c with
      | true =>
          rw [List.flatMap_cons, toLowerCase_separator separates, List.singleton_append,
            UnderscoreBeside, UnderscoreBeside, startsRun_flatMap_toLowerCase,
            inductionHypothesis]
      | false =>
          rw [List.flatMap_cons, underscoreBeside_append_words (toLowerCase_word separates).2,
            inductionHypothesis, UnderscoreBeside, separates]
          simp

/-! ## The normal name and the answer of the policy -/

/-- An ASCII character or white space. -/
def isPlain (c : Char) : Bool :=
  c.toNat < 128 || isSpace c

/-- The lower case of a whole text, where it may depend on the letters around.
A text whose lower case is plain is put in lower case letter by letter. -/
structure LowerCasing where
  text : List Char → List Char
  plain : ∀ chars,
    (∀ c ∈ text chars, isPlain c = true) ∨ (∀ c ∈ chars.flatMap toLowerCase, isPlain c = true) →
      text chars = chars.flatMap toLowerCase

/-- Every letter on its own. -/
def LowerCasing.letterwise : LowerCasing where
  text chars := chars.flatMap toLowerCase
  plain _chars _isPlain := rfl

/-- The name in lower case, trimmed, with one underscore for every run of
separators. -/
def normalName (lower : LowerCasing) (v : String) : String :=
  String.ofList (collapseRuns false (trim (lower.text v.toList)))

/-- The locked capabilities and their aliases. -/
def lockedNames : List String :=
  lockedProductionCapabilities ++ aliases.map Prod.fst

theorem isLocked_iff_mem (v : String) :
    isLockedProductionCapability v = true ↔ canonicalCapabilityName v ∈ lockedNames := by
  have targets : ∀ entry ∈ aliases, entry.2 ∈ lockedProductionCapabilities := by
    decide +kernel
  rw [isLockedProductionCapability, decide_eq_true_eq, lockedNames, List.mem_append]
  cases found : aliases.lookup (canonicalCapabilityName v) with
  | none =>
      have notAlias : canonicalCapabilityName v ∉ aliases.map Prod.fst := by
        intro member
        obtain ⟨entry, isEntry, named⟩ := List.mem_map.mp member
        have missing := List.lookup_eq_none_iff.mp found entry isEntry
        rw [named] at missing
        simp at missing
      simp [notAlias]
  | some capability =>
      obtain ⟨front, back, split, _first⟩ := List.lookup_eq_some_iff.mp found
      have isEntry : (canonicalCapabilityName v, capability) ∈ aliases := by
        rw [split]
        simp
      have locked : capability ∈ lockedProductionCapabilities := targets _ isEntry
      have isAlias : canonicalCapabilityName v ∈ aliases.map Prod.fst :=
        List.mem_map.mpr ⟨_, isEntry, rfl⟩
      simp [locked, isAlias]

/-- The listed names are normal and made of plain characters. -/
theorem lockedNames_normal :
    ∀ name ∈ lockedNames,
      collapseRuns false name.toList = name.toList ∧ name.toList.all isPlain = true := by
  decide +kernel

/-- Nothing but separators is lost in a collapsed text. -/
theorem mem_collapseRuns_or_isNameSeparator {c : Char} {chars : List Char} (inRun : Bool)
    (member : c ∈ chars) : c ∈ collapseRuns inRun chars ∨ isNameSeparator c = true := by
  induction chars generalizing inRun with
  | nil => exact absurd member List.not_mem_nil
  | cons first rest inductionHypothesis =>
      cases separates : isNameSeparator first with
      | true =>
          rcases List.mem_cons.mp member with rfl | later
          · exact .inr separates
          · rcases inductionHypothesis true later with kept | separator
            · left
              cases inRun with
              | true => simpa [collapseRuns, separates] using kept
              | false => simp [collapseRuns, separates, kept]
            · exact .inr separator
      | false =>
          rcases List.mem_cons.mp member with rfl | later
          · left
            simp [collapseRuns, separates]
          · rcases inductionHypothesis false later with kept | separator
            · left
              simp [collapseRuns, separates, kept]
            · exact .inr separator

private theorem mem_dropWhile_or_isSpace {c : Char} {chars : List Char} (member : c ∈ chars) :
    c ∈ chars.dropWhile isSpace ∨ isSpace c = true := by
  rw [← @List.takeWhile_append_dropWhile _ isSpace chars, List.mem_append] at member
  rcases member with dropped | kept
  · exact .inr (List.mem_takeWhile_imp dropped)
  · exact .inl kept

/-- Nothing but white space is lost in a trimmed text. -/
theorem mem_trim_or_isSpace {c : Char} {chars : List Char} (member : c ∈ chars) :
    c ∈ trim chars ∨ isSpace c = true := by
  rcases mem_dropWhile_or_isSpace member with kept | space
  · rcases mem_dropWhile_or_isSpace (List.mem_reverse.mpr kept) with kept | space
    · exact .inl (List.mem_reverse.mpr kept)
    · exact .inr space
  · exact .inr space

theorem isPlain_of_isNameSeparator {c : Char} (separates : isNameSeparator c = true) :
    isPlain c = true := by
  simp only [isNameSeparator, isSeparator, Bool.or_eq_true, decide_eq_true_eq] at separates
  rcases separates with ((space | rfl) | rfl) | rfl
  · simp [isPlain, space]
  · decide
  · decide
  · decide

/-- A text is plain where its collapsed and trimmed form is. -/
theorem isPlain_of_collapseRuns_trim {chars : List Char}
    (plain : ∀ c ∈ collapseRuns false (trim chars), isPlain c = true) :
    ∀ c ∈ chars, isPlain c = true := by
  intro c member
  rcases mem_trim_or_isSpace member with inTrimmed | space
  · rcases mem_collapseRuns_or_isNameSeparator false inTrimmed with kept | separates
    · exact plain c kept
    · exact isPlain_of_isNameSeparator separates
  · simp [isPlain, space]

theorem isPlain_of_mem_lockedNames {chars : List Char}
    (listed : String.ofList chars ∈ lockedNames) : ∀ c ∈ chars, isPlain c = true := by
  have plain := (lockedNames_normal _ listed).2
  rw [String.toList_ofList] at plain
  exact List.all_eq_true.mp plain

/-- The normal name with the letters put in lower case one by one. -/
def plainName (v : String) : String :=
  String.ofList (collapseRuns false ((trim v.toList).flatMap toLowerCase))

/-- A normal name is a listed one just when the letters can be put in lower
case one by one, and then both are the same. -/
theorem normalName_mem_iff (lower : LowerCasing) (v : String) :
    normalName lower v ∈ lockedNames ↔ plainName v ∈ lockedNames := by
  constructor
  · intro listed
    have plain := isPlain_of_collapseRuns_trim (isPlain_of_mem_lockedNames listed)
    rw [normalName, lower.plain _ (.inl plain), trim_flatMap_toLowerCase] at listed
    exact listed
  · intro listed
    rw [plainName, ← trim_flatMap_toLowerCase] at listed
    have plain := isPlain_of_collapseRuns_trim (isPlain_of_mem_lockedNames listed)
    rw [normalName, lower.plain _ (.inr plain)]
    exact listed

theorem canonicalCapabilityName_mem_iff (v : String) :
    canonicalCapabilityName v ∈ lockedNames ↔
      plainName v ∈ lockedNames ∧ ¬ UnderscoreBeside (trim v.toList) := by
  have agree :
      replaceRuns false ((trim v.toList).flatMap toLowerCase) =
          collapseRuns false ((trim v.toList).flatMap toLowerCase) ↔
        ¬ UnderscoreBeside (trim v.toList) := by
    rw [(replaceRuns_eq_collapseRuns_iff _).1, underscoreBeside_flatMap_toLowerCase]
  constructor
  · intro listed
    have normal := (lockedNames_normal _ listed).1
    rw [canonicalCapabilityName, String.toList_ofList, (collapseRuns_replaceRuns _).2] at normal
    rw [plainName, normal]
    exact ⟨listed, agree.mp normal.symm⟩
  · rintro ⟨listed, apart⟩
    rw [canonicalCapabilityName, agree.mpr apart]
    exact listed

/-- A capability is locked just when its normal name is listed and no
underscore stands beside another separator in the trimmed name. -/
theorem isLocked_iff_normalName (lower : LowerCasing) (v : String) :
    isLockedProductionCapability v = true ↔
      normalName lower v ∈ lockedNames ∧ ¬ UnderscoreBeside (trim v.toList) := by
  rw [isLocked_iff_mem, canonicalCapabilityName_mem_iff, normalName_mem_iff]

/-- Two spellings of one name get the same answer exactly where the name is not
listed or both or neither have an underscore beside another separator. -/
theorem isLocked_eq_iff (lower : LowerCasing) {v w : String}
    (spellings : normalName lower v = normalName lower w) :
    isLockedProductionCapability v = isLockedProductionCapability w ↔
      (normalName lower v ∈ lockedNames →
        (UnderscoreBeside (trim v.toList) ↔ UnderscoreBeside (trim w.toList))) := by
  rw [Bool.eq_iff_iff, isLocked_iff_normalName lower v, isLocked_iff_normalName lower w,
    ← spellings, and_congr_right_iff, not_iff_not]

end PlatformArchitecture.PolicyEngine
