import PlatformArchitecture.Foundations.PercentEncoding
import Mathlib.Data.List.DropRight

/-!
# The URL parser on texts that begin with a slash

What the URL Standard makes of such a text relative to an `https` base: tabs
and newlines are dropped, a backslash is a slash, two slashes begin an
authority, and dot segments are resolved as the path is read.  The authority
itself is read by a parameter.
-/

namespace PlatformArchitecture.Foundations

/-- The parts of a URL that the texts here can set. -/
structure Url where
  origin : String
  path : List (List Char)
  query : Option (List Char)
  fragment : Option (List Char)

namespace Url

/-! ## Percent-encode sets -/

def isControlOrSpace (c : Char) : Bool :=
  c.toNat ≤ 0x20

def isTabOrNewline (c : Char) : Bool :=
  c == '\t' || c == '\n' || c == '\r'

def controlSet (c : Char) : Bool :=
  c.toNat ≤ 0x1f || 0x7e < c.toNat

/-- Space, quotation mark, number sign and the angle brackets. -/
def querySet (c : Char) : Bool :=
  controlSet c || [0x20, 0x22, 0x23, 0x3c, 0x3e].contains c.toNat

/-- The apostrophe too. -/
def specialQuerySet (c : Char) : Bool :=
  querySet c || c.toNat == 0x27

/-- Question mark, circumflex, grave accent and the braces too. -/
def pathSet (c : Char) : Bool :=
  querySet c || [0x3f, 0x5e, 0x60, 0x7b, 0x7d].contains c.toNat

/-- Space, quotation mark, the angle brackets and grave accent. -/
def fragmentSet (c : Char) : Bool :=
  controlSet c || [0x20, 0x22, 0x3c, 0x3e, 0x60].contains c.toNat

def percentEncode (encoded : Char → Bool) (c : Char) : List Char :=
  if encoded c then (String.utf8EncodeChar c).flatMap percentEncodeByte else [c]

/-! ## The path state -/

def isSlash (c : Char) : Bool :=
  c == '/' || c == '\\'

/-- `.` or `%2e`, of any case. -/
def isSingleDot (segment : List Char) : Bool :=
  segment.map Char.toLower ∈ [['.'], ['%', '2', 'e']]

def isDoubleDot (segment : List Char) : Bool :=
  segment.map Char.toLower ∈
    [['.', '.'], ['.', '%', '2', 'e'], ['%', '2', 'e', '.'], ['%', '2', 'e', '%', '2', 'e']]

/-- The path after a segment, which a slash or the end of the path closes. -/
def closeSegment (bySlash : Bool) (path : List (List Char)) (segment : List Char) :
    List (List Char) :=
  if isDoubleDot segment then
    if bySlash then path.dropLast else path.dropLast ++ [[]]
  else if isSingleDot segment then
    if bySlash then path else path ++ [[]]
  else path ++ [segment]

/-- The path and what follows it, from the path and the buffer read so far. -/
def pathState (path : List (List Char)) (buffer : List Char) :
    List Char → List (List Char) × List Char
  | [] => (closeSegment false path buffer, [])
  | c :: rest =>
      if isSlash c then pathState (closeSegment true path buffer) [] rest
      else if c = '?' ∨ c = '#' then (closeSegment false path buffer, c :: rest)
      else pathState path (buffer ++ percentEncode pathSet c) rest

/-- The query and the fragment, from what follows the path. -/
def queryState : List Char → Option (List Char) × Option (List Char)
  | '?' :: rest =>
      (some ((rest.takeWhile (· ≠ '#')).flatMap (percentEncode specialQuerySet)),
        match rest.dropWhile (· ≠ '#') with
        | [] => none
        | _ :: fragment => some (fragment.flatMap (percentEncode fragmentSet)))
  | '#' :: rest => (none, some (rest.flatMap (percentEncode fragmentSet)))
  | _ => (none, none)

/-! ## The parser -/

/-- The text as the parser reads it: no control characters at its end, no tabs
and no newlines. -/
def cleaned (text : List Char) : List Char :=
  (text.rdropWhile isControlOrSpace).filter fun c => !isTabOrNewline c

def endsAuthority (c : Char) : Bool :=
  isSlash c || c == '?' || c == '#'

/-- The path start state: one slash is taken. -/
def pathStart : List Char → List Char
  | c :: rest => if isSlash c then rest else c :: rest
  | [] => []

/-- The authority and the text of the path, where an authority is begun. -/
def splitAuthority (text : List Char) : List Char × List Char :=
  let named := text.dropWhile isSlash
  (named.takeWhile fun c => !endsAuthority c,
    pathStart (named.dropWhile fun c => !endsAuthority c))

/-- The origin and the text of the path of a slash followed by `rest`.  An
authority that does not parse has no origin. -/
def originAndPath (originOf : List Char → Option String) (base : String) (rest : List Char) :
    Option (String × List Char) :=
  let text := cleaned rest
  if text.head?.any isSlash then
    let (authority, path) := splitAuthority text
    (originOf authority).map fun origin => (origin, path)
  else some (base, text)

/-- `new URL(text, base)` for a text that is a slash followed by `rest`. -/
def parseRooted (originOf : List Char → Option String) (base : String) (rest : List Char) :
    Option Url :=
  (originAndPath originOf base rest).map fun (origin, text) =>
    let (path, following) := pathState [] [] text
    let (query, fragment) := queryState following
    ⟨origin, path, query, fragment⟩

def pathname (url : Url) : List Char :=
  url.path.flatMap fun segment => '/' :: segment

/-- `url.search` and, with another mark, `url.hash`. -/
def marked (mark : Char) : Option (List Char) → List Char
  | none | some [] => []
  | some text => mark :: text

/-! ## Segments of the path -/

/-- The segments that the slashes of a path separate, encoded. -/
def pathSegments : List Char → List (List Char)
  | [] => [[]]
  | c :: rest =>
      if isSlash c then [] :: pathSegments rest
      else if c = '?' ∨ c = '#' then [[]]
      else
        match pathSegments rest with
        | [] => [percentEncode pathSet c]
        | segment :: others => (percentEncode pathSet c ++ segment) :: others

/-- The path that the segments resolve to, the last one without a slash. -/
def resolveSegments (path : List (List Char)) : List (List Char) → List (List Char)
  | [] => path
  | [last] => closeSegment false path last
  | segment :: rest => resolveSegments (closeSegment true path segment) rest

theorem pathSegments_ne_nil (text : List Char) : pathSegments text ≠ [] := by
  induction text with
  | nil => exact List.cons_ne_nil _ _
  | cons c rest inductionHypothesis =>
      unfold pathSegments
      split
      · exact List.cons_ne_nil _ _
      · split
        · exact List.cons_ne_nil _ _
        · split <;> exact List.cons_ne_nil _ _

theorem resolveSegments_cons (path : List (List Char)) (segment : List Char)
    {rest : List (List Char)} (more : rest ≠ []) :
    resolveSegments path (segment :: rest) =
      resolveSegments (closeSegment true path segment) rest := by
  cases rest with
  | nil => exact absurd rfl more
  | cons second others => rfl

/-- The path state resolves the segments as it reads them. -/
theorem pathState_eq_resolveSegments (text : List Char) :
    ∀ (path : List (List Char)) (buffer : List Char),
      (pathState path buffer text).1 =
        resolveSegments path ((pathSegments text).modifyHead (buffer ++ ·)) := by
  induction text with
  | nil =>
      intro path buffer
      rw [pathSegments, List.modifyHead_cons, List.append_nil]
      rfl
  | cons c rest inductionHypothesis =>
      intro path buffer
      unfold pathState pathSegments
      by_cases slash : isSlash c = true
      · rw [if_pos slash, if_pos slash, inductionHypothesis, List.modifyHead_cons,
          List.append_nil, resolveSegments_cons _ _ (pathSegments_ne_nil rest)]
        cases isSplit : pathSegments rest with
        | nil => exact absurd isSplit (pathSegments_ne_nil rest)
        | cons segment others => rfl
      · rw [if_neg slash, if_neg slash]
        by_cases ends : c = '?' ∨ c = '#'
        · rw [if_pos ends, if_pos ends, List.modifyHead_cons, List.append_nil]
          rfl
        · rw [if_neg ends, if_neg ends, inductionHypothesis]
          cases isSplit : pathSegments rest with
          | nil => exact absurd isSplit (pathSegments_ne_nil rest)
          | cons segment others =>
              rw [List.modifyHead_cons, List.modifyHead_cons, List.append_assoc]

/-! ## An empty segment in front -/

/-- How many segments are left of a path of `height` after a list of segments. -/
def heightAfter (height : Nat) : List (List Char) → Nat
  | [] => height
  | segment :: rest =>
      if isDoubleDot segment then heightAfter (height - 1) rest
      else if isSingleDot segment then heightAfter height rest
      else heightAfter (height + 1) rest

/-- No segment of the list removes more than the `height` segments above. -/
def StaysAbove (height : Nat) : List (List Char) → Prop
  | [] => True
  | segment :: rest =>
      if isDoubleDot segment then 0 < height ∧ StaysAbove (height - 1) rest
      else if isSingleDot segment then StaysAbove height rest
      else StaysAbove (height + 1) rest

section Kinds

variable {segment : List Char} {height : Nat} {rest : List (List Char)}

theorem staysAbove_double (double : isDoubleDot segment = true) :
    StaysAbove height (segment :: rest) ↔ 0 < height ∧ StaysAbove (height - 1) rest := by
  rw [StaysAbove, if_pos double]

theorem staysAbove_single (notDouble : ¬ isDoubleDot segment = true)
    (single : isSingleDot segment = true) :
    StaysAbove height (segment :: rest) ↔ StaysAbove height rest := by
  rw [StaysAbove, if_neg notDouble, if_pos single]

theorem staysAbove_plain (notDouble : ¬ isDoubleDot segment = true)
    (notSingle : ¬ isSingleDot segment = true) :
    StaysAbove height (segment :: rest) ↔ StaysAbove (height + 1) rest := by
  rw [StaysAbove, if_neg notDouble, if_neg notSingle]

end Kinds

/-- An empty segment that everything before it cancels out to, that nothing
after it removes, and that is not the last one. -/
def KeepsEmptySegment (segments : List (List Char)) : Prop :=
  ∃ before after, segments = before ++ [] :: after ∧ after ≠ [] ∧
    heightAfter 0 before = 0 ∧ StaysAbove 0 after

theorem heightAfter_cons (height : Nat) (segment : List Char) (rest : List (List Char)) :
    heightAfter height (segment :: rest) = heightAfter (heightAfter height [segment]) rest := by
  simp only [heightAfter]
  split
  · rfl
  · split <;> rfl

theorem length_closeSegment (path : List (List Char)) (segment : List Char) :
    (closeSegment true path segment).length = heightAfter path.length [segment] := by
  simp only [closeSegment, heightAfter, if_true]
  split
  · exact List.length_dropLast
  · split
    · rfl
    · exact List.length_append

theorem length_closeSegments (before path : List (List Char)) :
    (before.foldl (closeSegment true) path).length = heightAfter path.length before := by
  induction before generalizing path with
  | nil => rfl
  | cons segment rest inductionHypothesis =>
      rw [List.foldl_cons, inductionHypothesis, length_closeSegment, ← heightAfter_cons]

theorem resolveSegments_append (before : List (List Char)) {rest : List (List Char)}
    (more : rest ≠ []) (path : List (List Char)) :
    resolveSegments path (before ++ rest) =
      resolveSegments (before.foldl (closeSegment true) path) rest := by
  induction before generalizing path with
  | nil => rfl
  | cons segment others inductionHypothesis =>
      have moreOthers : others ++ rest ≠ [] := by simp [more]
      rw [List.cons_append, resolveSegments_cons _ _ moreOthers, inductionHypothesis,
        List.foldl_cons]

private theorem exists_second (bottom : List Char) (above : List (List Char))
    (last : List Char) :
    ∃ second others, bottom :: (above ++ [last]) = bottom :: second :: others := by
  cases above with
  | nil => exact ⟨last, [], rfl⟩
  | cons first rest => exact ⟨first, rest ++ [last], rfl⟩

/-- A segment stays at the bottom of the path if nothing climbs down to it. -/
theorem resolveSegments_bottom (bottom : List Char) (segments : List (List Char)) :
    ∀ above : List (List Char), segments ≠ [] → StaysAbove above.length segments →
      ∃ second others, resolveSegments (bottom :: above) segments = bottom :: second :: others := by
  induction segments with
  | nil =>
      intro above more
      exact absurd rfl more
  | cons segment rest inductionHypothesis =>
      intro above _more stays
      cases rest with
      | nil =>
          unfold resolveSegments closeSegment
          by_cases double : isDoubleDot segment = true
          · have higher := ((staysAbove_double double).mp stays).1
            rw [if_pos double, if_neg Bool.false_ne_true,
              List.dropLast_cons_of_ne_nil (List.ne_nil_of_length_pos higher), List.cons_append]
            exact exists_second bottom above.dropLast []
          · rw [if_neg double]
            split
            · exact exists_second bottom above []
            · exact exists_second bottom above segment
      | cons next following =>
          rw [resolveSegments_cons _ _ (List.cons_ne_nil _ _)]
          unfold closeSegment
          by_cases double : isDoubleDot segment = true
          · obtain ⟨higher, staysAfter⟩ := (staysAbove_double double).mp stays
            rw [if_pos double, if_pos rfl,
              List.dropLast_cons_of_ne_nil (List.ne_nil_of_length_pos higher)]
            apply inductionHypothesis _ (List.cons_ne_nil _ _)
            rw [List.length_dropLast]
            exact staysAfter
          · rw [if_neg double]
            by_cases single : isSingleDot segment = true
            · rw [if_pos single, if_pos rfl]
              exact inductionHypothesis above (List.cons_ne_nil _ _)
                ((staysAbove_single double single).mp stays)
            · rw [if_neg single, List.cons_append]
              apply inductionHypothesis _ (List.cons_ne_nil _ _)
              rw [List.length_append]
              exact (staysAbove_plain double single).mp stays

private theorem exists_above {path : List (List Char)} {last bottom second : List Char}
    {others : List (List Char)} (resolved : path ++ [last] = bottom :: second :: others) :
    ∃ above, path = bottom :: above := by
  cases path with
  | nil => exact absurd (List.cons.inj resolved).2 (List.cons_ne_nil _ _).symm
  | cons first rest => exact ⟨rest, by rw [(List.cons.inj resolved).1]⟩

/-- What is left of a path after its last segment is removed was above its bottom. -/
private theorem exists_above_dropLast {path : List (List Char)} {bottom : List Char}
    {others : List (List Char)} (removed : path.dropLast = bottom :: others) :
    ∃ above, path = bottom :: above ∧ others.length = above.length - 1 ∧ 0 < above.length := by
  have nonempty : path ≠ [] := by
    rintro rfl
    cases removed
  have whole := List.dropLast_append_getLast nonempty
  rw [removed] at whole
  exact ⟨others ++ [path.getLast nonempty], whole.symm, by simp, by simp⟩

/-- An empty segment at the bottom of what the segments resolve to was there,
or is one of them. -/
theorem bottom_of_resolveSegments (segments : List (List Char)) :
    ∀ {path : List (List Char)} {second : List Char} {others : List (List Char)},
      segments ≠ [] → resolveSegments path segments = [] :: second :: others →
        (∃ above, path = [] :: above ∧ StaysAbove above.length segments) ∨
          ∃ before after, segments = before ++ [] :: after ∧ after ≠ [] ∧
            heightAfter path.length before = 0 ∧ StaysAbove 0 after := by
  induction segments with
  | nil =>
      intro path second others more
      exact absurd rfl more
  | cons segment rest inductionHypothesis =>
      intro path second others _more resolved
      cases rest with
      | nil =>
          left
          unfold resolveSegments closeSegment at resolved
          by_cases double : isDoubleDot segment = true
          · rw [if_pos double, if_neg Bool.false_ne_true] at resolved
            obtain ⟨below, isBelow⟩ := exists_above resolved
            obtain ⟨above, isPath, -, higher⟩ := exists_above_dropLast isBelow
            exact ⟨above, isPath, (staysAbove_double double).mpr ⟨higher, trivial⟩⟩
          · rw [if_neg double] at resolved
            have appended : ∃ last, path ++ [last] = [] :: second :: others := by
              split at resolved
              · exact ⟨_, resolved⟩
              · exact ⟨_, resolved⟩
            obtain ⟨last, isLast⟩ := appended
            obtain ⟨above, isPath⟩ := exists_above isLast
            refine ⟨above, isPath, ?_⟩
            by_cases single : isSingleDot segment = true
            · exact (staysAbove_single double single).mpr trivial
            · exact (staysAbove_plain double single).mpr trivial
      | cons next following =>
          rw [resolveSegments_cons _ _ (List.cons_ne_nil _ _)] at resolved
          rcases inductionHypothesis (List.cons_ne_nil _ _) resolved with
            ⟨above, isBottom, stays⟩ | ⟨before, after, isSplit, more, cancelled, stays⟩
          · unfold closeSegment at isBottom
            by_cases double : isDoubleDot segment = true
            · rw [if_pos double, if_pos rfl] at isBottom
              obtain ⟨whole, isPath, isLength, higher⟩ := exists_above_dropLast isBottom
              rw [isLength] at stays
              exact .inl ⟨whole, isPath, (staysAbove_double double).mpr ⟨higher, stays⟩⟩
            · rw [if_neg double] at isBottom
              by_cases single : isSingleDot segment = true
              · rw [if_pos single, if_pos rfl] at isBottom
                exact .inl ⟨above, isBottom, (staysAbove_single double single).mpr stays⟩
              · rw [if_neg single] at isBottom
                cases path with
                | nil =>
                    obtain ⟨isEmpty, isAbove⟩ := List.cons.inj isBottom
                    rw [← isAbove] at stays
                    rw [isEmpty]
                    exact .inr ⟨[], next :: following, rfl, List.cons_ne_nil _ _, rfl, stays⟩
                | cons first others =>
                    rw [List.cons_append] at isBottom
                    obtain ⟨isFirst, isAbove⟩ := List.cons.inj isBottom
                    rw [← isAbove, List.length_append] at stays
                    exact .inl ⟨others, by rw [isFirst],
                      (staysAbove_plain double single).mpr stays⟩
          · right
            refine ⟨segment :: before, after, ?_, more, ?_, stays⟩
            · rw [isSplit, List.cons_append]
            · rw [heightAfter_cons, ← length_closeSegment]
              exact cancelled

/-- The path begins with an empty segment and another one just when an empty
segment is kept. -/
theorem resolveSegments_empty_iff {segments : List (List Char)} (more : segments ≠ []) :
    (∃ second others, resolveSegments [] segments = [] :: second :: others) ↔
      KeepsEmptySegment segments := by
  constructor
  · rintro ⟨second, others, resolved⟩
    rcases bottom_of_resolveSegments segments more resolved with
      ⟨above, isBottom, _stays⟩ | ⟨before, after, isSplit, moreAfter, cancelled, stays⟩
    · exact absurd isBottom (List.cons_ne_nil _ _).symm
    · exact ⟨before, after, isSplit, moreAfter, cancelled, stays⟩
  · rintro ⟨before, after, rfl, moreAfter, cancelled, stays⟩
    have isRoot : before.foldl (closeSegment true) [] = [] := by
      apply List.eq_nil_of_length_eq_zero
      rw [length_closeSegments]
      exact cancelled
    rw [resolveSegments_append before (List.cons_ne_nil _ _), isRoot,
      resolveSegments_cons _ _ moreAfter]
    exact resolveSegments_bottom [] after [] moreAfter stays

/-! ## The characters of the result -/

/-- Visible ASCII. -/
def isVisible (c : Char) : Prop :=
  0x20 < c.toNat ∧ c.toNat ≤ 0x7e

theorem cleaned_of_visible {text : List Char} (visible : ∀ c ∈ text, isVisible c) :
    cleaned text = text := by
  have kept : text.rdropWhile isControlOrSpace = text := by
    rw [List.rdropWhile_eq_self_iff]
    intro nonempty isControl
    have last := visible _ (List.getLast_mem nonempty)
    have low : (text.getLast nonempty).toNat ≤ 0x20 := of_decide_eq_true isControl
    exact absurd last.1 (Nat.not_lt.mpr low)
  unfold cleaned
  rw [kept, List.filter_eq_self]
  intro c member
  have high := (visible c member).1
  have notTab : c ≠ '\t' ∧ c ≠ '\n' ∧ c ≠ '\r' := by
    refine ⟨?_, ?_, ?_⟩ <;> (rintro rfl; revert high; decide)
  simp [isTabOrNewline, notTab]

private theorem hexDigit_visible :
    ∀ n : Fin 16, isVisible (hexDigit n) ∧ isSlash (hexDigit n) = false := by
  unfold isVisible
  decide

/-- Every encoded byte is written with visible characters that are no slashes. -/
theorem percentEncodeByte_visible (byte : UInt8) :
    ∀ c ∈ percentEncodeByte byte, isVisible c ∧ isSlash c = false := by
  have bounded : byte.toNat < 256 := byte.toNat_lt
  have highSmall : byte.toNat / 16 < 16 := by omega
  have lowSmall : byte.toNat % 16 < 16 := by omega
  intro c member
  simp only [percentEncodeByte, List.mem_cons, List.not_mem_nil, or_false] at member
  rcases member with rfl | rfl | rfl
  · unfold isVisible
    decide
  · exact hexDigit_visible ⟨_, highSmall⟩
  · exact hexDigit_visible ⟨_, lowSmall⟩

section Encoded

variable {encoded : Char → Bool} {c : Char}

theorem percentEncode_visible
    (reaches : ∀ c, encoded c = false → controlSet c = false ∧ c ≠ ' ') :
    ∀ written ∈ percentEncode encoded c, isVisible written := by
  intro written member
  unfold percentEncode at member
  split at member
  · obtain ⟨byte, _isByte, inByte⟩ := List.mem_flatMap.mp member
    exact (percentEncodeByte_visible byte written inByte).1
  · next kept =>
    obtain rfl := List.mem_singleton.mp member
    obtain ⟨notControl, notSpace⟩ := reaches written (Bool.eq_false_iff.mpr kept)
    have differs : written.toNat ≠ 0x20 := by
      intro isSpace
      exact notSpace (Char.toNat_inj.mp isSpace)
    simp only [controlSet, Bool.or_eq_false_iff, decide_eq_false_iff_not] at notControl
    unfold isVisible
    omega

theorem percentEncode_noSlash (noSlash : isSlash c = false) :
    ∀ written ∈ percentEncode encoded c, isSlash written = false := by
  intro written member
  unfold percentEncode at member
  split at member
  · obtain ⟨byte, _isByte, inByte⟩ := List.mem_flatMap.mp member
    exact (percentEncodeByte_visible byte written inByte).2
  · rw [List.mem_singleton.mp member]
    exact noSlash

end Encoded

/-- The path encodes every control character and the space. -/
theorem pathSet_reaches (c : Char) (kept : pathSet c = false) :
    controlSet c = false ∧ c ≠ ' ' := by
  simp only [pathSet, querySet, Bool.or_eq_false_iff] at kept
  refine ⟨kept.1.1, ?_⟩
  rintro rfl
  exact absurd kept.1.2 (by decide)

theorem specialQuerySet_reaches (c : Char) (kept : specialQuerySet c = false) :
    controlSet c = false ∧ c ≠ ' ' := by
  simp only [specialQuerySet, querySet, Bool.or_eq_false_iff] at kept
  refine ⟨kept.1.1, ?_⟩
  rintro rfl
  exact absurd kept.1.2 (by decide)

theorem fragmentSet_reaches (c : Char) (kept : fragmentSet c = false) :
    controlSet c = false ∧ c ≠ ' ' := by
  simp only [fragmentSet, Bool.or_eq_false_iff] at kept
  refine ⟨kept.1, ?_⟩
  rintro rfl
  exact absurd kept.2 (by decide)

/-- What a segment is written with. -/
theorem pathSegments_chars (text : List Char) :
    ∀ segment ∈ pathSegments text, ∀ c ∈ segment, isVisible c ∧ isSlash c = false := by
  induction text with
  | nil => simp [pathSegments]
  | cons c rest inductionHypothesis =>
      unfold pathSegments
      split
      · intro segment member
        rcases List.mem_cons.mp member with rfl | later
        · simp
        · exact inductionHypothesis segment later
      · next noSlash =>
        have written : ∀ x ∈ percentEncode pathSet c, isVisible x ∧ isSlash x = false :=
          fun x member => ⟨percentEncode_visible pathSet_reaches x member,
            percentEncode_noSlash (Bool.eq_false_iff.mpr noSlash) x member⟩
        split
        · simp
        · split
          · simpa using written
          · next first others isSplit =>
            rw [isSplit] at inductionHypothesis
            intro segment member
            rcases List.mem_cons.mp member with rfl | later
            · intro x inSegment
              rcases List.mem_append.mp inSegment with new | old
              · exact written x new
              · exact inductionHypothesis first List.mem_cons_self x old
            · exact inductionHypothesis segment (List.mem_cons_of_mem first later)

theorem mem_closeSegment {bySlash : Bool} {path : List (List Char)} {segment kept : List Char}
    (member : kept ∈ closeSegment bySlash path segment) :
    kept ∈ path ∨ kept = segment ∨ kept = [] := by
  have dropped : kept ∈ path.dropLast → kept ∈ path :=
    fun member => List.dropLast_subset path member
  unfold closeSegment at member
  cases bySlash with
  | true | false => grind

theorem mem_resolveSegments {segments : List (List Char)} :
    ∀ {path : List (List Char)} {kept : List Char}, kept ∈ resolveSegments path segments →
      kept ∈ path ∨ kept ∈ segments ∨ kept = [] := by
  induction segments with
  | nil =>
      intro path kept member
      exact .inl member
  | cons segment rest inductionHypothesis =>
      intro path kept member
      cases rest with
      | nil =>
          rcases mem_closeSegment member with inPath | isSegment | isEmpty
          · exact .inl inPath
          · exact .inr (.inl (by rw [isSegment]; exact List.mem_cons_self))
          · exact .inr (.inr isEmpty)
      | cons next following =>
          rcases inductionHypothesis member with inPath | later | isEmpty
          · rcases mem_closeSegment inPath with before | isSegment | isEmpty
            · exact .inl before
            · exact .inr (.inl (by rw [isSegment]; exact List.mem_cons_self))
            · exact .inr (.inr isEmpty)
          · exact .inr (.inl (List.mem_cons_of_mem segment later))
          · exact .inr (.inr isEmpty)

theorem closeSegment_false_ne_nil (path : List (List Char)) (segment : List Char) :
    closeSegment false path segment ≠ [] := by
  unfold closeSegment
  split
  · exact List.append_ne_nil_of_right_ne_nil _ (List.cons_ne_nil _ _)
  · split
    · exact List.append_ne_nil_of_right_ne_nil _ (List.cons_ne_nil _ _)
    · exact List.append_ne_nil_of_right_ne_nil _ (List.cons_ne_nil _ _)

theorem resolveSegments_ne_nil {segments : List (List Char)} :
    ∀ path : List (List Char), segments ≠ [] → resolveSegments path segments ≠ [] := by
  induction segments with
  | nil =>
      intro path more
      exact absurd rfl more
  | cons segment rest inductionHypothesis =>
      intro path _more
      cases rest with
      | nil => exact closeSegment_false_ne_nil path segment
      | cons next following => exact inductionHypothesis _ (List.cons_ne_nil _ _)

/-! ## Texts with one slash in front -/

/-- One slash, and neither a slash nor a backslash after it. -/
def RootedOnce (text : List Char) : Prop :=
  ∃ rest, text = '/' :: rest ∧ ∀ c ∈ rest.head?, isSlash c = false

theorem rootedOnce_cons_iff (rest : List Char) :
    RootedOnce ('/' :: rest) ↔ ∀ c ∈ rest.head?, isSlash c = false := by
  constructor
  · rintro ⟨others, isRest, noSlash⟩
    rw [(List.cons.inj isRest).2]
    exact noSlash
  · intro noSlash
    exact ⟨rest, rfl, noSlash⟩

/-- A path has one slash in front unless its first segment of several is empty. -/
theorem rootedOnce_pathname_iff {path : List (List Char)} {following : List Char}
    (nonempty : path ≠ []) (noSlash : ∀ segment ∈ path, ∀ c ∈ segment, isSlash c = false)
    (ended : ∀ c ∈ following.head?, isSlash c = false) :
    RootedOnce ((path.flatMap fun segment => '/' :: segment) ++ following) ↔
      ¬ ∃ second others, path = [] :: second :: others := by
  cases path with
  | nil => exact absurd rfl nonempty
  | cons first rest =>
      rw [List.flatMap_cons, List.cons_append, List.cons_append, rootedOnce_cons_iff]
      cases first with
      | cons c others =>
          have plain := noSlash (c :: others) List.mem_cons_self c List.mem_cons_self
          simp [plain]
      | nil =>
          cases rest with
          | nil => simpa using ended
          | cons second others => simp [isSlash]

/-- Such a text of visible characters keeps the origin of the base. -/
theorem origin_of_rootedOnce (originOf : List Char → Option String) (base : String)
    {rest : List Char} (visible : ∀ c ∈ rest, isVisible c)
    (once : ∀ c ∈ rest.head?, isSlash c = false) :
    (parseRooted originOf base rest).map origin = some base := by
  have notAuthority : ¬ rest.head?.any isSlash = true := by
    cases isHead : rest.head? with
    | none => simp
    | some c => simp [once c isHead]
  unfold parseRooted originAndPath
  rw [cleaned_of_visible visible]
  dsimp only
  rw [if_neg notAuthority]
  rfl

/-- The parts of a parsed text. -/
theorem path_of_parseRooted {originOf : List Char → Option String} {base : String}
    {rest : List Char} {url : Url} (parsed : parseRooted originOf base rest = some url) :
    ∃ text, originAndPath originOf base rest = some (url.origin, text) ∧
      url.path = resolveSegments [] (pathSegments text) ∧
      (url.query, url.fragment) = queryState (pathState [] [] text).2 := by
  obtain ⟨⟨origin, text⟩, isSplit, rfl⟩ := Option.map_eq_some_iff.mp parsed
  refine ⟨text, isSplit, ?_, rfl⟩
  have resolved := pathState_eq_resolveSegments text [] []
  have unbuffered : (pathSegments text).modifyHead ([] ++ ·) = pathSegments text := by
    cases pathSegments text with
    | nil | cons segment others => rfl
  rw [unbuffered] at resolved
  exact resolved

/-! ## What is written after the path -/

theorem flatMap_percentEncode_visible {encoded : Char → Bool}
    (reaches : ∀ c, encoded c = false → controlSet c = false ∧ c ≠ ' ') (text : List Char) :
    ∀ c ∈ text.flatMap (percentEncode encoded), isVisible c := by
  intro c member
  obtain ⟨raw, _isRaw, inRaw⟩ := List.mem_flatMap.mp member
  exact percentEncode_visible reaches c inRaw

theorem marked_visible {mark : Char} (isMark : isVisible mark) {part : Option (List Char)}
    (visible : ∀ text ∈ part, ∀ c ∈ text, isVisible c) :
    ∀ c ∈ marked mark part, isVisible c := by
  intro c member
  unfold marked at member
  split at member
  · exact absurd member List.not_mem_nil
  · exact absurd member List.not_mem_nil
  · next text _nonempty =>
    rcases List.mem_cons.mp member with rfl | inText
    · exact isMark
    · exact visible text rfl c inText

/-- The query and the fragment are written with visible characters. -/
theorem queryState_visible (following : List Char) :
    (∀ text ∈ (queryState following).1, ∀ c ∈ text, isVisible c) ∧
      ∀ text ∈ (queryState following).2, ∀ c ∈ text, isVisible c := by
  unfold queryState
  split
  · next rest =>
    constructor
    · rintro text ⟨⟩
      exact flatMap_percentEncode_visible specialQuerySet_reaches _
    · dsimp only
      split
      · simp
      · rintro text ⟨⟩
        exact flatMap_percentEncode_visible fragmentSet_reaches _
  · constructor
    · simp
    · rintro text ⟨⟩
      exact flatMap_percentEncode_visible fragmentSet_reaches _
  · simp

/-- What a mark begins is no slash. -/
theorem head_marked {query fragment : Option (List Char)} :
    ∀ c ∈ (marked '?' query ++ marked '#' fragment).head?, isSlash c = false := by
  intro c isHead
  unfold marked at isHead
  split at isHead <;> split at isHead <;> (simp at isHead; try (rw [← isHead]; decide))

end Url

end PlatformArchitecture.Foundations
