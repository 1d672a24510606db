import Mathlib.Data.List.Basic

/-!
# Removing tags from a text

A tag is an opening word and what follows it up to the next closing symbol.
`removeMatches` deletes the tags of a text in one pass from left to right, as
a global replacement by nothing does.  What is left can hold a tag again: one
whose opening word had tags in it, or one that a later text closes.
-/

namespace PlatformArchitecture.Foundations

universe u

variable {Symbol : Type u}

/-! ## One pass -/

/-- Delete the matches of a pattern.  `matchLength` is the length of the match
at the front of a text, zero where there is none, and `skip` what is left of a
match that has begun. -/
def removeMatches (matchLength : List Symbol → Nat) : Nat → List Symbol → List Symbol
  | _, [] => []
  | skip + 1, _ :: rest => removeMatches matchLength skip rest
  | 0, symbol :: rest =>
      match matchLength (symbol :: rest) with
      | 0 => symbol :: removeMatches matchLength 0 rest
      | more + 1 => removeMatches matchLength more rest

/-- The pieces of a text between the matches. -/
def splitMatches (matchLength : List Symbol → Nat) : Nat → List Symbol → List (List Symbol)
  | _, [] => [[]]
  | skip + 1, _ :: rest => splitMatches matchLength skip rest
  | 0, symbol :: rest =>
      match matchLength (symbol :: rest) with
      | 0 => (splitMatches matchLength 0 rest).modifyHead (symbol :: ·)
      | more + 1 => [] :: splitMatches matchLength more rest

theorem splitMatches_ne_nil (matchLength : List Symbol → Nat) (skip : Nat) (text : List Symbol) :
    splitMatches matchLength skip text ≠ [] := by
  induction text generalizing skip with
  | nil => simp [splitMatches]
  | cons symbol rest inductionHypothesis =>
      cases skip with
      | succ skip => exact inductionHypothesis skip
      | zero =>
          unfold splitMatches
          split
          · simp [inductionHypothesis 0]
          · exact List.cons_ne_nil _ _

/-- Removing the matches puts the pieces together. -/
theorem removeMatches_eq_flatten (matchLength : List Symbol → Nat) (skip : Nat)
    (text : List Symbol) :
    removeMatches matchLength skip text = (splitMatches matchLength skip text).flatten := by
  induction text generalizing skip with
  | nil => rfl
  | cons symbol rest inductionHypothesis =>
      cases skip with
      | succ skip => exact inductionHypothesis skip
      | zero =>
          unfold removeMatches splitMatches
          split
          · rw [inductionHypothesis 0]
            cases isSplit : splitMatches matchLength 0 rest with
            | nil => exact absurd isSplit (splitMatches_ne_nil matchLength 0 rest)
            | cons first others => rfl
          · rw [inductionHypothesis, List.flatten_cons, List.nil_append]

/-! ## Tags -/

section Tags

variable (opens : List Symbol → Prop) (closer : Symbol)

/-- An opening word and everything up to the closing symbol. -/
def IsTag (tag : List Symbol) : Prop :=
  ∃ opening inner, tag = opening ++ inner ++ [closer] ∧ opens opening ∧ closer ∉ inner

/-- The text has an opening word, whether or not it is closed. -/
def Opened (text : List Symbol) : Prop :=
  ∃ before opening after, text = before ++ (opening ++ after) ∧ opens opening

/-- The text has an opening word that is closed. -/
def Tagged (text : List Symbol) : Prop :=
  ∃ before opening after,
    text = before ++ (opening ++ after) ∧ opens opening ∧ closer ∈ after

variable {opens closer}

theorem Tagged.opened {text : List Symbol} (tagged : Tagged opens closer text) :
    Opened opens text := by
  obtain ⟨before, opening, after, isText, isOpening, -⟩ := tagged
  exact ⟨before, opening, after, isText, isOpening⟩

theorem not_opened_nil (nonempty : ∀ opening, opens opening → opening ≠ []) :
    ¬ Opened opens [] := by
  rintro ⟨before, opening, after, isText, isOpening⟩
  have isNothing : opening = [] := by simp_all
  exact nonempty opening isOpening isNothing

/-- A text has a tag in it just when it has an opening word that is closed. -/
theorem tagged_iff_exists_tag {text : List Symbol} :
    Tagged opens closer text ↔ ∃ tag, IsTag opens closer tag ∧ tag <:+: text := by
  constructor
  · rintro ⟨before, opening, after, rfl, isOpening, closed⟩
    obtain ⟨inner, others, rfl, first⟩ := List.eq_append_cons_of_mem closed
    refine ⟨opening ++ inner ++ [closer], ⟨opening, inner, rfl, isOpening, first⟩, ?_⟩
    exact ⟨before, others, by simp⟩
  · rintro ⟨tag, ⟨opening, inner, rfl, isOpening, -⟩, before, after, rfl⟩
    refine ⟨before, opening, inner ++ [closer] ++ after, by simp, isOpening, ?_⟩
    simp

theorem Opened.append_right {text : List Symbol} (opened : Opened opens text)
    (rest : List Symbol) : Opened opens (text ++ rest) := by
  obtain ⟨before, opening, after, rfl, isOpening⟩ := opened
  exact ⟨before, opening, after ++ rest, by simp, isOpening⟩

theorem Opened.append_left {text : List Symbol} (opened : Opened opens text)
    (earlier : List Symbol) : Opened opens (earlier ++ text) := by
  obtain ⟨before, opening, after, rfl, isOpening⟩ := opened
  exact ⟨earlier ++ before, opening, after, by simp, isOpening⟩

theorem Tagged.append_right {text : List Symbol} (tagged : Tagged opens closer text)
    (rest : List Symbol) : Tagged opens closer (text ++ rest) := by
  obtain ⟨before, opening, after, rfl, isOpening, closed⟩ := tagged
  exact ⟨before, opening, after ++ rest, by simp, isOpening, List.mem_append_left rest closed⟩

theorem Tagged.append_left {text : List Symbol} (tagged : Tagged opens closer text)
    (earlier : List Symbol) : Tagged opens closer (earlier ++ text) := by
  obtain ⟨before, opening, after, rfl, isOpening, closed⟩ := tagged
  exact ⟨earlier ++ before, opening, after, by simp, isOpening, closed⟩

theorem Opened.tagged_append {text rest : List Symbol} (opened : Opened opens text)
    (closed : closer ∈ rest) : Tagged opens closer (text ++ rest) := by
  obtain ⟨before, opening, after, rfl, isOpening⟩ := opened
  exact ⟨before, opening, after ++ rest, by simp, isOpening, List.mem_append_right after closed⟩

/-- A symbol that no opening word has ends every opening word before it. -/
theorem tagged_append_cons_iff {breaking : Symbol} {text rest : List Symbol}
    (nonempty : ∀ opening, opens opening → opening ≠ [])
    (breaks : ∀ opening, opens opening → breaking ∉ opening) :
    Tagged opens closer (text ++ breaking :: rest) ↔
      Tagged opens closer text ∨ (Opened opens text ∧ closer ∈ breaking :: rest) ∨
        Tagged opens closer rest := by
  constructor
  · rintro ⟨before, opening, after, isText, isOpening, closed⟩
    rcases List.append_eq_append_iff.mp isText with
      ⟨later, isBefore, isRest⟩ | ⟨following, isStart, isWord⟩
    · right
      right
      cases later with
      | nil =>
          cases opening with
          | nil => exact absurd rfl (nonempty [] isOpening)
          | cons first others =>
              have isFirst : breaking = first := (List.cons.inj isRest).1
              rw [← isFirst] at isOpening
              exact absurd List.mem_cons_self (breaks _ isOpening)
      | cons first others =>
          exact ⟨others, opening, after, (List.cons.inj isRest).2, isOpening, closed⟩
    · rcases List.append_eq_append_iff.mp isWord with
        ⟨inner, isFollowing, isAfter⟩ | ⟨remaining, isOpeningWord, isRest⟩
      · rw [isFollowing] at isStart
        have opened : Opened opens text := ⟨before, opening, inner, isStart, isOpening⟩
        rw [isAfter] at closed
        rcases List.mem_append.mp closed with inside | outside
        · exact .inl ⟨before, opening, inner, isStart, isOpening, inside⟩
        · exact .inr (.inl ⟨opened, outside⟩)
      · cases remaining with
        | nil =>
            rw [List.append_nil] at isOpeningWord
            rw [List.nil_append] at isRest
            rw [isRest]
            right
            left
            exact ⟨⟨before, opening, [], by rw [isStart, isOpeningWord, List.append_nil],
              isOpening⟩, closed⟩
        | cons first others =>
            have isFirst : breaking = first := (List.cons.inj isRest).1
            rw [isOpeningWord, ← isFirst] at isOpening
            exact absurd (List.mem_append_right _ List.mem_cons_self) (breaks _ isOpening)
  · rintro (tagged | ⟨opened, closed⟩ | tagged)
    · exact tagged.append_right _
    · exact opened.tagged_append closed
    · rw [List.append_cons]
      exact tagged.append_left _

/-! ## Pieces put together -/

variable (opens) in
/-- An opening word that begins in one piece and ends in a later one, and what
follows it. -/
def OpensAcross (pieces : List (List Symbol)) (after : List Symbol) : Prop :=
  ∃ left right before head tail, pieces = left ++ right ∧ left.flatten = before ++ head ∧
    right.flatten = tail ++ after ∧ head ≠ [] ∧ tail ≠ [] ∧ opens (head ++ tail)

theorem OpensAcross.cons {pieces : List (List Symbol)} {after : List Symbol}
    (across : OpensAcross opens pieces after) (piece : List Symbol) :
    OpensAcross opens (piece :: pieces) after := by
  obtain ⟨left, right, before, head, tail, rfl, isLeft, isRight, isWord⟩ := across
  refine ⟨piece :: left, right, piece ++ before, head, tail, rfl, ?_, isRight, isWord⟩
  rw [List.flatten_cons, isLeft, List.append_assoc]

theorem OpensAcross.flatten_eq {pieces : List (List Symbol)} {after : List Symbol}
    (across : OpensAcross opens pieces after) :
    ∃ before opening, pieces.flatten = before ++ (opening ++ after) ∧ opens opening := by
  obtain ⟨left, right, before, head, tail, rfl, isLeft, isRight, -, -, isOpening⟩ := across
  refine ⟨before, head ++ tail, ?_, isOpening⟩
  rw [List.flatten_append, isLeft, isRight]
  simp

/-- An opening word of the text put together is one of a piece or stands across
pieces. -/
theorem opening_of_flatten {pieces : List (List Symbol)} {opening after : List Symbol}
    (nonempty : opening ≠ []) (isOpening : opens opening) :
    ∀ {before : List Symbol}, pieces.flatten = before ++ (opening ++ after) →
      (∃ left piece right earlier inner, pieces = left ++ piece :: right ∧
        piece = earlier ++ (opening ++ inner) ∧ after = inner ++ right.flatten) ∨
        OpensAcross opens pieces after := by
  induction pieces with
  | nil =>
      intro before isText
      have isNothing : opening = [] := by simp_all
      exact absurd isNothing nonempty
  | cons piece rest inductionHypothesis =>
      intro before isText
      have later : ∀ {before}, rest.flatten = before ++ (opening ++ after) →
          (∃ left found right earlier inner, piece :: rest = left ++ found :: right ∧
            found = earlier ++ (opening ++ inner) ∧ after = inner ++ right.flatten) ∨
            OpensAcross opens (piece :: rest) after := by
        intro before isRest
        rcases inductionHypothesis isRest with
          ⟨left, found, right, earlier, inner, isPieces, isFound⟩ | across
        · refine .inl ⟨piece :: left, found, right, earlier, inner, ?_, isFound⟩
          rw [isPieces, List.cons_append]
        · exact .inr (across.cons piece)
      rw [List.flatten_cons] at isText
      rcases List.append_eq_append_iff.mp isText with
        ⟨skipped, isBefore, isRest⟩ | ⟨following, isPiece, isWord⟩
      · exact later isRest
      · rcases List.append_eq_append_iff.mp isWord with
          ⟨inner, isFollowing, isAfter⟩ | ⟨remaining, isOpeningWord, isRest⟩
        · rw [isFollowing] at isPiece
          exact .inl ⟨[], piece, rest, before, inner, rfl, isPiece, isAfter⟩
        · cases remaining with
          | nil =>
              rw [List.append_nil] at isOpeningWord
              rw [← isOpeningWord] at isPiece
              exact .inl ⟨[], piece, rest, before, [], rfl, by rw [List.append_nil]; exact isPiece,
                isRest.symm⟩
          | cons symbol others =>
              cases following with
              | nil =>
                  rw [List.nil_append] at isOpeningWord
                  rw [← isOpeningWord] at isRest
                  exact @later [] isRest
              | cons first others' =>
                  rw [isOpeningWord] at isOpening
                  refine .inr ⟨[piece], rest, before, _, _, rfl, ?_, isRest,
                    List.cons_ne_nil _ _, List.cons_ne_nil _ _, isOpening⟩
                  rw [List.flatten_singleton]
                  exact isPiece

variable (opens closer) in
/-- Pieces of which none but the last one has an opening word, and that one
does not close it. -/
def PiecesClosed : List (List Symbol) → Prop
  | [] => True
  | [last] => ¬ Tagged opens closer last
  | piece :: rest => ¬ Opened opens piece ∧ PiecesClosed rest

theorem piecesClosed_cons {piece : List Symbol} {rest : List (List Symbol)} (more : rest ≠ []) :
    PiecesClosed opens closer (piece :: rest) ↔
      ¬ Opened opens piece ∧ PiecesClosed opens closer rest := by
  cases rest with
  | nil => exact absurd rfl more
  | cons second others => exact Iff.rfl

/-- An opening word of such a piece is in the last one and not closed there. -/
theorem PiecesClosed.last {left right : List (List Symbol)} {piece : List Symbol}
    (closed : PiecesClosed opens closer (left ++ piece :: right)) (opened : Opened opens piece) :
    right = [] ∧ ¬ Tagged opens closer piece := by
  induction left with
  | cons first others inductionHypothesis =>
      exact inductionHypothesis ((piecesClosed_cons (by simp)).mp closed).2
  | nil =>
      cases right with
      | nil => exact ⟨rfl, closed⟩
      | cons second others => exact absurd opened closed.1

section Together

variable {pieces : List (List Symbol)} (closed : PiecesClosed opens closer pieces)
  (nonempty : ∀ opening, opens opening → opening ≠ [])

include closed nonempty

/-- The text put together has a tag just when an opening word across its pieces
is closed after them. -/
theorem tagged_flatten_iff :
    Tagged opens closer pieces.flatten ↔
      ∃ after, OpensAcross opens pieces after ∧ closer ∈ after := by
  constructor
  · rintro ⟨before, opening, after, isText, isOpening, closes⟩
    rcases opening_of_flatten (nonempty opening isOpening) isOpening isText with
      ⟨left, piece, right, earlier, inner, rfl, isPiece, isAfter⟩ | across
    · obtain ⟨rfl, untagged⟩ := closed.last ⟨earlier, opening, inner, isPiece, isOpening⟩
      rw [List.flatten_nil, List.append_nil] at isAfter
      rw [isAfter] at closes
      exact absurd ⟨earlier, opening, inner, isPiece, isOpening, closes⟩ untagged
    · exact ⟨after, across, closes⟩
  · rintro ⟨after, across, closes⟩
    obtain ⟨before, opening, isText, isOpening⟩ := across.flatten_eq
    exact ⟨before, opening, after, isText, isOpening, closes⟩

/-- It has an opening word just when one stands across its pieces or in the
last one. -/
theorem opened_flatten_iff :
    Opened opens pieces.flatten ↔
      (∃ after, OpensAcross opens pieces after) ∨ ∃ last ∈ pieces.getLast?, Opened opens last := by
  constructor
  · rintro ⟨before, opening, after, isText, isOpening⟩
    rcases opening_of_flatten (nonempty opening isOpening) isOpening isText with
      ⟨left, piece, right, earlier, inner, rfl, isPiece, isAfter⟩ | across
    · have opened : Opened opens piece := ⟨earlier, opening, inner, isPiece, isOpening⟩
      obtain ⟨rfl, -⟩ := closed.last opened
      exact .inr ⟨piece, by simp, opened⟩
    · exact .inl ⟨after, across⟩
  · rintro (⟨after, across⟩ | ⟨last, isLast, opened⟩)
    · obtain ⟨before, opening, isText, isOpening⟩ := across.flatten_eq
      exact ⟨before, opening, after, isText, isOpening⟩
    · obtain ⟨earlier, rfl⟩ := List.getLast?_eq_some_iff.mp isLast
      rw [List.flatten_append, List.flatten_singleton]
      exact opened.append_left _

end Together

/-! ## The pieces that a pass leaves -/

section Pass

variable {matchLength : List Symbol → Nat}
  (isMatched : ∀ text, matchLength text ≠ 0 ↔
    ∃ opening after, text = opening ++ after ∧ opens opening ∧ closer ∈ after)

/-- A single piece is the whole text. -/
theorem eq_of_splitMatches_singleton {piece : List Symbol} :
    ∀ {text : List Symbol}, splitMatches matchLength 0 text = [piece] → text = piece := by
  intro text
  induction text generalizing piece with
  | nil =>
      intro isSplit
      exact List.head_eq_of_cons_eq isSplit
  | cons symbol rest inductionHypothesis =>
      intro isSplit
      unfold splitMatches at isSplit
      split at isSplit
      · cases isRest : splitMatches matchLength 0 rest with
        | nil => exact absurd isRest (splitMatches_ne_nil matchLength 0 rest)
        | cons first others =>
            rw [isRest, List.modifyHead_cons] at isSplit
            obtain ⟨isFirst, isOthers⟩ := List.cons.inj isSplit
            rw [isOthers] at isRest
            rw [inductionHypothesis isRest]
            exact isFirst
      · exact absurd (List.cons.inj isSplit).2 (splitMatches_ne_nil matchLength _ rest)

include isMatched

/-- What follows the first of several pieces has the closing symbol. -/
theorem exists_of_splitMatches_cons {first second : List Symbol} {others : List (List Symbol)} :
    ∀ {text : List Symbol}, splitMatches matchLength 0 text = first :: second :: others →
      ∃ following, text = first ++ following ∧ closer ∈ following := by
  intro text
  induction text generalizing first with
  | nil =>
      intro isSplit
      cases isSplit
  | cons symbol rest inductionHypothesis =>
      intro isSplit
      unfold splitMatches at isSplit
      split at isSplit
      · cases isRest : splitMatches matchLength 0 rest with
        | nil => exact absurd isRest (splitMatches_ne_nil matchLength 0 rest)
        | cons piece pieces =>
            rw [isRest, List.modifyHead_cons] at isSplit
            obtain ⟨isFirst, isOthers⟩ := List.cons.inj isSplit
            rw [isOthers] at isRest
            obtain ⟨following, rfl, closes⟩ := inductionHypothesis isRest
            exact ⟨following, by rw [← isFirst, List.cons_append], closes⟩
      · next more isMatch =>
        obtain ⟨isFirst, -⟩ := List.cons.inj isSplit
        obtain ⟨opening, after, isText, -, closes⟩ :=
          (isMatched (symbol :: rest)).mp (by rw [isMatch]; exact Nat.succ_ne_zero more)
        refine ⟨symbol :: rest, by rw [← isFirst, List.nil_append], ?_⟩
        rw [isText]
        exact List.mem_append_right opening closes

/-- A pass leaves no closed opening word in a piece, and no opening word in a
piece before a match. -/
theorem piecesClosed_splitMatches (nonempty : ∀ opening, opens opening → opening ≠ [])
    (skip : Nat) (text : List Symbol) :
    PiecesClosed opens closer (splitMatches matchLength skip text) := by
  induction text generalizing skip with
  | nil =>
      intro tagged
      exact not_opened_nil nonempty tagged.opened
  | cons symbol rest inductionHypothesis =>
      cases skip with
      | succ skip => exact inductionHypothesis skip
      | zero =>
          unfold splitMatches
          split
          · next noMatch =>
            have unmatched : ∀ opening after, symbol :: rest = opening ++ after →
                opens opening → closer ∉ after := by
              intro opening after isText isOpening closes
              exact (isMatched (symbol :: rest)).mpr ⟨opening, after, isText, isOpening, closes⟩
                noMatch
            have isPieces := inductionHypothesis 0
            cases isRest : splitMatches matchLength 0 rest with
            | nil => exact absurd isRest (splitMatches_ne_nil matchLength 0 rest)
            | cons first others =>
                rw [isRest] at isPieces
                rw [List.modifyHead_cons]
                cases others with
                | nil =>
                    obtain rfl := eq_of_splitMatches_singleton isRest
                    rintro ⟨before, opening, after, isText, isOpening, closes⟩
                    cases before with
                    | nil => exact unmatched opening after isText isOpening closes
                    | cons head tail =>
                        exact isPieces
                          ⟨tail, opening, after, (List.cons.inj isText).2, isOpening, closes⟩
                | cons second others =>
                    obtain ⟨following, isFollowing, closes⟩ :=
                      exists_of_splitMatches_cons isMatched isRest
                    refine ⟨?_, isPieces.2⟩
                    rintro ⟨before, opening, after, isText, isOpening⟩
                    cases before with
                    | nil =>
                        apply unmatched opening (after ++ following) _ isOpening
                        · exact List.mem_append_right after closes
                        · rw [isFollowing, ← List.cons_append, isText]
                          simp
                    | cons head tail =>
                        exact isPieces.1
                          ⟨tail, opening, after, (List.cons.inj isText).2, isOpening⟩
          · next more isMatch =>
            rw [piecesClosed_cons (splitMatches_ne_nil matchLength more rest)]
            exact ⟨not_opened_nil nonempty, inductionHypothesis more⟩

end Pass

end Tags

end PlatformArchitecture.Foundations
