import PlatformArchitecture.Foundations.TextEncodings
import PlatformArchitecture.PlatformSdk.ShadowSearch
import PlatformArchitecture.Security.ScopedDelegation
import PlatformArchitecture.Web.Session

/-!
# Pages of a PostgreSQL search

A page ends with a cursor for the row after it, read from one more row than the
page has.  A cursor is the text of an offset, and an offset that is not a safe
integer counts as zero; below that limit, following the cursors of one result
set reads all of it once, in order.
-/

namespace PlatformArchitecture.Adapters

open PlatformArchitecture.Foundations
open PlatformArchitecture.PlatformSdk
open PlatformArchitecture.Security
open PlatformArchitecture.Web

namespace PostgresSearchAdapter

/-- A row that the statement returns. -/
structure SearchRow where
  id : String
  documentId : Json
  content : Json
  metadata : Json
  rank : Option JsNumber

structure ChunkSource where
  documentId : Json
  content : Json
  metadata : Json

def SearchRow.hit (row : SearchRow) : SearchHit ChunkSource where
  id := row.id
  score := row.rank.getD (.finite 0)
  source := ⟨row.documentId, row.content, row.metadata⟩

structure SearchPage where
  hits : List (SearchHit ChunkSource)
  nextCursor : Option String

/-- The first number that `Number.isSafeInteger` refuses. -/
def firstUnsafe : Nat :=
  2 ^ 53

/-- `Number.isSafeInteger(offset) && offset >= 0 ? offset : 0`. -/
def safeOffset : Option Json → Nat
  | some (.num (.finite value)) =>
      if value.den = 1 ∧ 0 ≤ value.num ∧ value.num < firstUnsafe then value.num.toNat else 0
  | _ => 0

/-- `{ offset }`. -/
def cursorJson (offset : Nat) : Json :=
  .obj [("offset", .num (.finite offset))]

section Cursors

variable (texts : JsonTexts)

def decodeCursor (cursor : Option String) : Except String Nat :=
  -- An empty cursor is falsy.
  match cursor.filter (· ≠ "") with
  | none => .ok 0
  | some cursor =>
      match texts.parse (decodeUtf8 (base64urlDecode cursor.toList)) with
      -- Reading a property of `null` throws too.
      | none | some .null => .error "INVALID_SEARCH_CURSOR"
      | some parsed => .ok (safeOffset (Json.property "offset" parsed))

def encodeCursor (offset : Nat) : String :=
  String.ofList (base64urlEncode (utf8Bytes (texts.stringify (cursorJson offset)).toList))

/-- `Math.min(100,Math.max(1,query.limit??20))`. -/
def pageLimit (limit : Option Int) : Nat :=
  (min 100 (max 1 (limit.getD 20))).toNat

/-- `search(query)`: `rows` is what the statement selects for the query, in
order, before `LIMIT` and `OFFSET`. -/
def search (rows : List SearchRow) (query : SearchQuery) : Except String SearchPage := do
  throwIf (query.tenantId = "") "TENANT_REQUIRED"
  let limit := pageLimit query.limit
  let offset ← decodeCursor texts query.cursor
  let result := (rows.drop offset).take (limit + 1)
  return {
    hits := (result.take limit).map SearchRow.hit
    nextCursor := if limit < result.length then some (encodeCursor texts (offset + limit)) else none
  }

/-- `Followed cursor hits`: the calls that start with the cursor and follow
every next one end, and these are their hits. -/
inductive Followed (rows : List SearchRow) (query : SearchQuery) :
    Option String → List (SearchHit ChunkSource) → Prop where
  | last {cursor : Option String} {page : SearchPage}
      (found : search texts rows { query with cursor } = .ok page)
      (isLast : page.nextCursor = none) : Followed rows query cursor page.hits
  | next {cursor : Option String} {page : SearchPage} {issued : String}
      {rest : List (SearchHit ChunkSource)}
      (found : search texts rows { query with cursor } = .ok page)
      (continues : page.nextCursor = some issued)
      (others : Followed rows query (some issued) rest) :
      Followed rows query cursor (page.hits ++ rest)

end Cursors

variable {texts : JsonTexts} {rows : List SearchRow} {query : SearchQuery}

/-! ## Cursors -/

theorem safeOffset_cursorJson (offset : Nat) :
    safeOffset (Json.property "offset" (cursorJson offset)) =
      if offset < firstUnsafe then offset else 0 := by
  have found : Json.property "offset" (cursorJson offset) = some (.num (.finite offset)) := rfl
  rw [found, safeOffset, Rat.den_natCast, Rat.num_natCast, Int.toNat_natCast]
  refine if_congr ?_ rfl rfl
  omega

/-- A cursor is read as the offset it was made of, or as zero beyond the safe
integers. -/
theorem decodeCursor_encodeCursor {offset : Nat}
    (roundTrips : texts.RoundTrips (cursorJson offset)) :
    decodeCursor texts (some (encodeCursor texts offset)) =
      .ok (if offset < firstUnsafe then offset else 0) := by
  have parsed : texts.parse
      (decodeUtf8 (base64urlDecode (encodeCursor texts offset).toList)) =
        some (cursorJson offset) := by
    rw [encodeCursor, String.toList_ofList, base64urlDecode_encode, decodeUtf8_utf8Bytes,
      roundTrips]
    rfl
  have notEmpty : encodeCursor texts offset ≠ "" := by
    intro isEmpty
    have noText : decodeUtf8 (base64urlDecode "".toList) = "" := by decide
    rw [isEmpty, noText, texts.parse_empty] at parsed
    cases parsed
  rw [decodeCursor, Option.filter_some_pos (by simpa using notEmpty)]
  dsimp only
  rw [parsed]
  show Except.ok (safeOffset (Json.property "offset" (cursorJson offset))) = _
  rw [safeOffset_cursorJson]

theorem pageLimit_pos (limit : Option Int) : 0 < pageLimit limit := by
  unfold pageLimit
  omega

/-! ## One page -/

/-- What a call with a tenant returns, by the offset its cursor stands for. -/
theorem search_eq (tenant : query.tenantId ≠ "") {cursor : Option String} {offset : Nat}
    (decoded : decodeCursor texts cursor = .ok offset) :
    search texts rows { query with cursor } =
      .ok ⟨((rows.drop offset).take (pageLimit query.limit)).map SearchRow.hit,
        if offset + pageLimit query.limit < rows.length then
          some (encodeCursor texts (offset + pageLimit query.limit)) else none⟩ := by
  have shorter : ((rows.drop offset).take (pageLimit query.limit + 1)).take
      (pageLimit query.limit) = (rows.drop offset).take (pageLimit query.limit) := by
    rw [List.take_take, Nat.min_eq_left (Nat.le_succ _)]
  have more : pageLimit query.limit <
      ((rows.drop offset).take (pageLimit query.limit + 1)).length ↔
        offset + pageLimit query.limit < rows.length := by
    rw [List.length_take, List.length_drop]
    omega
  unfold search
  rw [throwIf_of_not tenant, ok_bind]
  dsimp only
  rw [decoded, ok_bind, shorter, if_congr more rfl rfl]
  rfl

/-- A call without a tenant, or with a cursor that is refused, returns no
page. -/
theorem of_search_eq_ok {cursor : Option String} {page : SearchPage}
    (found : search texts rows { query with cursor } = .ok page) :
    query.tenantId ≠ "" ∧ ∃ offset, decodeCursor texts cursor = .ok offset := by
  unfold search at found
  obtain ⟨_passed, tenant, found⟩ := bind_eq_ok.mp found
  obtain ⟨offset, decoded, _found⟩ := bind_eq_ok.mp found
  exact ⟨throwIf_eq_ok.mp tenant, offset, decoded⟩

/-- A cursor is issued for the row after the page, where there is one. -/
theorem issued_cursor {cursor : Option String} {page : SearchPage} {issued : String}
    (found : search texts rows { query with cursor } = .ok page)
    (continues : page.nextCursor = some issued) :
    ∃ offset, decodeCursor texts cursor = .ok offset ∧
      offset + pageLimit query.limit < rows.length ∧
      issued = encodeCursor texts (offset + pageLimit query.limit) := by
  obtain ⟨tenant, offset, decoded⟩ := of_search_eq_ok found
  rw [search_eq tenant decoded] at found
  obtain rfl := Except.ok.inj found
  have issuedEq : (if offset + pageLimit query.limit < rows.length then
      some (encodeCursor texts (offset + pageLimit query.limit)) else none) = some issued :=
    continues
  by_cases more : offset + pageLimit query.limit < rows.length
  · rw [if_pos more] at issuedEq
    exact ⟨offset, decoded, more, (Option.some.inj issuedEq).symm⟩
  · rw [if_neg more] at issuedEq
    cases issuedEq

/-! ## Following the cursors -/

/-- The calls are determined by the cursor, and so are their hits. -/
theorem Followed.unique {cursor : Option String} {hits others : List (SearchHit ChunkSource)}
    (followed : Followed texts rows query cursor hits)
    (again : Followed texts rows query cursor others) : hits = others := by
  induction followed generalizing others with
  | last found isLast =>
      cases again with
      | last alsoFound _ =>
          rw [Except.ok.inj (found.symm.trans alsoFound)]
      | next alsoFound continues _ =>
          rw [Except.ok.inj (found.symm.trans alsoFound), continues] at isLast
          cases isLast
  | next found continues _ inductionHypothesis =>
      cases again with
      | last alsoFound isLast =>
          rw [Except.ok.inj (found.symm.trans alsoFound), isLast] at continues
          cases continues
      | next alsoFound alsoContinues rest =>
          have samePage := Except.ok.inj (found.symm.trans alsoFound)
          rw [samePage, alsoContinues] at continues
          obtain rfl := Option.some.inj continues
          rw [samePage, inductionHypothesis rest]

/-- The last page has all the rows that are left. -/
theorem followed_last (tenant : query.tenantId ≠ "") {cursor : Option String} {offset : Nat}
    (decoded : decodeCursor texts cursor = .ok offset)
    (isLast : ¬ offset + pageLimit query.limit < rows.length) :
    Followed texts rows query cursor ((rows.drop offset).map SearchRow.hit) := by
  have found := @search_eq texts rows query tenant cursor offset decoded
  have whole : (rows.drop offset).take (pageLimit query.limit) = rows.drop offset := by
    refine List.take_of_length_le ?_
    rw [List.length_drop]
    omega
  rw [if_neg isLast, whole] at found
  exact .last found rfl

/-- From the offset of a cursor on, the rest of the result set is read. -/
theorem followed_from (tenant : query.tenantId ≠ "") (within : rows.length ≤ firstUnsafe)
    (roundTrips : ∀ offset < firstUnsafe, texts.RoundTrips (cursorJson offset)) (remaining : Nat) :
    ∀ {cursor : Option String} {offset : Nat}, decodeCursor texts cursor = .ok offset →
      rows.length - offset ≤ remaining →
        Followed texts rows query cursor ((rows.drop offset).map SearchRow.hit) := by
  have positive := pageLimit_pos query.limit
  induction remaining with
  | zero =>
      intro cursor offset decoded fewer
      exact followed_last tenant decoded (by omega)
  | succ remaining inductionHypothesis =>
      intro cursor offset decoded fewer
      by_cases more : offset + pageLimit query.limit < rows.length
      · have found := @search_eq texts rows query tenant cursor offset decoded
        rw [if_pos more] at found
        have isSafe : offset + pageLimit query.limit < firstUnsafe := by omega
        have next := decodeCursor_encodeCursor (roundTrips _ isSafe)
        rw [if_pos isSafe] at next
        have others := inductionHypothesis next (by omega)
        have joined := Followed.next found rfl others
        rw [← List.map_append, ← List.drop_drop, List.take_append_drop] at joined
        exact joined
      · exact followed_last tenant decoded more

/-- The pages of a result set of at most `2 ^ 53` rows are its rows in order,
each of them once, and every cursor that is issued is read as its offset. -/
theorem followed_iff (texts : JsonTexts) (rows : List SearchRow) (query : SearchQuery)
    (tenant : query.tenantId ≠ "") (within : rows.length ≤ firstUnsafe)
    (roundTrips : ∀ offset < firstUnsafe, texts.RoundTrips (cursorJson offset)) :
    (∀ hits, Followed texts rows query none hits ↔ hits = rows.map SearchRow.hit) ∧
    ∀ cursor page issued, search texts rows { query with cursor } = .ok page →
      page.nextCursor = some issued →
        ∃ offset, issued = encodeCursor texts offset ∧
          decodeCursor texts (some issued) = .ok offset := by
  constructor
  · intro hits
    have all : Followed texts rows query none ((rows.drop 0).map SearchRow.hit) :=
      followed_from tenant within roundTrips rows.length rfl (by omega)
    rw [List.drop_zero] at all
    constructor
    · intro followed
      exact followed.unique all
    · rintro rfl
      exact all
  · intro cursor page issued found continues
    obtain ⟨offset, _decoded, more, issuedEq⟩ := issued_cursor found continues
    have isSafe : offset + pageLimit query.limit < firstUnsafe := by omega
    have decoded := decodeCursor_encodeCursor (roundTrips _ isSafe)
    rw [if_pos isSafe] at decoded
    refine ⟨offset + pageLimit query.limit, issuedEq, ?_⟩
    rw [issuedEq]
    exact decoded

section Examples

/-- What stands before the offset in the text of a cursor. -/
def offsetOpening : List Char :=
  "\x7b\"offset\":".toList

def offsetText (offset : Nat) : String :=
  String.ofList (offsetOpening ++ (Nat.toDigits 10 offset ++ ['\x7d']))

/-- Writing and reading the texts of cursors. -/
def cursorTexts : JsonTexts where
  stringify value :=
    match Json.property "offset" value with
    | some (.num (.finite offset)) => offsetText offset.num.toNat
    | _ => ""
  parse text :=
    if offsetOpening.isPrefixOf text.toList then
      some (cursorJson
        (Nat.ofDigitChars 10 (text.toList.drop offsetOpening.length).dropLast 0))
    else none
  parse_empty := rfl

theorem cursorTexts_roundTrips (offset : Nat) : cursorTexts.RoundTrips (cursorJson offset) := by
  have written : cursorTexts.stringify (cursorJson offset) = offsetText offset := by
    show offsetText ((offset : ℚ).num.toNat) = _
    rw [Rat.num_natCast, Int.toNat_natCast]
  have chars : (offsetText offset).toList =
      offsetOpening ++ (Nat.toDigits 10 offset ++ ['\x7d']) :=
    String.toList_ofList
  have digits : ((offsetText offset).toList.drop offsetOpening.length).dropLast =
      Nat.toDigits 10 offset := by
    rw [chars, List.drop_left, List.dropLast_concat]
  have begins : offsetOpening.isPrefixOf (offsetText offset).toList = true := by
    rw [chars, List.isPrefixOf_iff_prefix]
    exact List.prefix_append _ _
  have parsed : cursorTexts.parse (offsetText offset) = some (cursorJson offset) := by
    simp only [cursorTexts]
    rw [if_pos begins, digits, Nat.ofDigitChars_toDigits (by decide) (by decide)]
  rw [JsonTexts.RoundTrips, written, parsed]
  rfl

def sampleRow : SearchRow where
  id := "chunk-1"
  documentId := .str "document-1"
  content := .str "text"
  metadata := .obj []
  rank := none

def sampleQuery : SearchQuery where
  text := "text"
  tenantId := "tenant-1"
  workspaceId := none
  limit := some 1
  cursor := none
  filters := []

/-- Three rows that can be told apart. -/
def threeRows : List SearchRow :=
  [sampleRow, { sampleRow with id := "chunk-2" }, { sampleRow with id := "chunk-3" }]

theorem followed_threeRows :
    (∀ hits, Followed cursorTexts threeRows sampleQuery none hits ↔
      hits = threeRows.map SearchRow.hit) ∧
    ∀ cursor page issued,
      search cursorTexts threeRows { sampleQuery with cursor } = .ok page →
      page.nextCursor = some issued →
        ∃ offset, issued = encodeCursor cursorTexts offset ∧
          decodeCursor cursorTexts (some issued) = .ok offset :=
  followed_iff cursorTexts threeRows sampleQuery (by decide) (by decide)
    fun offset _isSafe => cursorTexts_roundTrips offset

/-- Beyond `2 ^ 53` rows the pages of one row start again at the first. -/
theorem not_followed_beyond {cursor : Option String} {hits : List (SearchHit ChunkSource)}
    (followed : Followed cursorTexts (List.replicate (firstUnsafe + 1) sampleRow) sampleQuery
      cursor hits) :
    ∀ offset, decodeCursor cursorTexts cursor = .ok offset → ¬ offset < firstUnsafe := by
  have limit : pageLimit sampleQuery.limit = 1 := by decide
  have tenant : sampleQuery.tenantId ≠ "" := by decide
  have length : (List.replicate (firstUnsafe + 1) sampleRow).length = firstUnsafe + 1 :=
    List.length_replicate
  induction followed with
  | last found isLast =>
      intro offset decoded isSafe
      rw [search_eq tenant decoded, limit, length, if_pos (by omega)] at found
      obtain rfl := Except.ok.inj found
      cases isLast
  | next found continues _ inductionHypothesis =>
      intro offset decoded isSafe
      rw [search_eq tenant decoded, limit, length, if_pos (by omega)] at found
      obtain rfl := Except.ok.inj found
      obtain rfl := Option.some.inj continues
      refine inductionHypothesis _ (decodeCursor_encodeCursor (cursorTexts_roundTrips _)) ?_
      have positive : 0 < firstUnsafe := by decide
      split
      · assumption
      · exact positive

/-- A result set of `2 ^ 53 + 1` rows is never read to its end in pages of
one. -/
theorem endless_pages :
    ¬ ∀ (texts : JsonTexts) (rows : List SearchRow) (query : SearchQuery),
        query.tenantId ≠ "" → (∀ offset, texts.RoundTrips (cursorJson offset)) →
          Followed texts rows query none (rows.map SearchRow.hit) := by
  intro followsAll
  have followed := followsAll cursorTexts (List.replicate (firstUnsafe + 1) sampleRow) sampleQuery
    (by decide) cursorTexts_roundTrips
  exact not_followed_beyond followed 0 rfl (by decide)

end Examples

end PostgresSearchAdapter

end PlatformArchitecture.Adapters
