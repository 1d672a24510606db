import Mathlib.Algebra.Order.Field.Basic
import Mathlib.Data.Finset.Card
import Mathlib.Data.Rat.Cast.Order
import Mathlib.Tactic.Linarith
import PlatformArchitecture.Foundations.JsNumbers

/-!
# Shadow search

A query goes to the active provider and to the shadow, and what the two found
is compared before the active result is returned.  The overlap counts the hits
of the shadow and not their ids, so a shadow that repeats an id can be taken
for one that agrees.
-/

namespace PlatformArchitecture.PlatformSdk

open PlatformArchitecture.Foundations

variable {Source Error : Type}

structure SearchHit (Source : Type) where
  id : String
  score : JsNumber
  source : Source

structure SearchResult (Source : Type) where
  hits : List (SearchHit Source)
  nextCursor : Option String
  tookMs : JsNumber

def SearchResult.ids (result : SearchResult Source) : List String :=
  result.hits.map SearchHit.id

structure ShadowSearchObservation where
  primaryMs : JsNumber
  fallbackMs : JsNumber
  overlap : ℚ
  primaryCount : Nat
  fallbackCount : Nat

/-- What becomes of a promise. -/
inductive Settlement (Result Error : Type) where
  | pending
  | fulfilled (result : Result)
  | rejected (error : Error)

namespace ShadowSearchAdapter

/-- The share of the shadow's hits that the active provider found too. -/
def overlap (active shadow : List String) : ℚ :=
  if shadow.length ≠ 0 then
    ((shadow.filter (· ∈ active)).length : ℚ) / (max 1 (min active.length shadow.length) : Nat)
  else if active.length ≠ 0 then 0
  else 1

def observation (active shadow : SearchResult Source) : ShadowSearchObservation where
  primaryMs := active.tookMs
  fallbackMs := shadow.tookMs
  overlap := overlap active.ids shadow.ids
  primaryCount := active.hits.length
  fallbackCount := shadow.hits.length

/-- A search, by what becomes of the promises of both providers: what becomes
of its own, and what was observed.  `thrown` is what `observe` throws if it is
called, if it throws. -/
def search (active shadow : Settlement (SearchResult Source) Error) (thrown : Option Error) :
    Settlement (SearchResult Source) Error × List ShadowSearchObservation :=
  match active, shadow with
  | .pending, _ => (.pending, [])
  -- `Promise.all` rejects without waiting for the other promise.
  | .rejected error, _ => (.rejected error, [])
  | .fulfilled _, .pending => (.pending, [])
  | .fulfilled active, .rejected _ => (.fulfilled active, [])
  | .fulfilled active, .fulfilled shadow =>
      match thrown with
      | none => (.fulfilled active, [observation active shadow])
      | some error => (.rejected error, [observation active shadow])

/-- Every id of the result with fewer distinct ids appears in the other. -/
def ShorterIncluded (active shadow : List String) : Prop :=
  (active.toFinset.card ≤ shadow.toFinset.card → active ⊆ shadow) ∧
    (shadow.toFinset.card ≤ active.toFinset.card → shadow ⊆ active)

/-- A reported overlap is a share, and a full one only where the shorter result
is included in the other. -/
structure OverlapSound (reported : ℚ) (active shadow : List String) : Prop where
  nonnegative : 0 ≤ reported
  atMostOne : reported ≤ 1
  included : reported = 1 → ShorterIncluded active shadow

/-- The search ends as that of the active provider does, and every overlap it
reports is sound. -/
structure SearchSound (active shadow : Settlement (SearchResult Source) Error)
    (thrown : Option Error) : Prop where
  returned : (search active shadow thrown).1 = active
  reported : ∀ found compared, active = .fulfilled found → shadow = .fulfilled compared →
    ∀ report ∈ (search active shadow thrown).2,
      OverlapSound report.overlap found.ids compared.ids

/-! ## Repeated ids -/

/-- The ids that both providers found. -/
def common (active shadow : List String) : Finset String :=
  active.toFinset ∩ shadow.toFinset

/-- How many hits of the shadow have an id that the active provider found and
that comes again later. -/
def repeats (active : List String) : List String → Nat
  | [] => 0
  | id :: rest => (if id ∈ active ∧ id ∈ rest then 1 else 0) + repeats active rest

/-- No hit of the shadow repeats a common id, or too few do to fill up the
shorter list, or they fill it up exactly where the ids of the shorter result
are all common. -/
def RepeatsFit (active shadow : List String) : Prop :=
  repeats active shadow = 0 ∨
    (common active shadow).card + repeats active shadow < min active.length shadow.length ∨
    (common active shadow).card + repeats active shadow = min active.length shadow.length ∧
      (common active shadow).card = min active.toFinset.card shadow.toFinset.card

instance (active shadow : List String) : Decidable (RepeatsFit active shadow) :=
  inferInstanceAs (Decidable (_ ∨ _ ∨ _ ∧ _))

theorem repeats_nil (shadow : List String) : repeats [] shadow = 0 := by
  induction shadow with
  | nil => rfl
  | cons id rest inductionHypothesis =>
      rw [repeats, inductionHypothesis]
      simp

/-- The hits that are counted are the common ids and their repetitions. -/
theorem length_filter_eq (active shadow : List String) :
    (shadow.filter (· ∈ active)).length =
      (common active shadow).card + repeats active shadow := by
  induction shadow with
  | nil => simp [common, repeats]
  | cons id rest inductionHypothesis =>
      by_cases isActive : id ∈ active
      · rw [List.filter_cons_of_pos (by simpa using isActive), List.length_cons,
          inductionHypothesis, repeats]
        by_cases again : id ∈ rest
        · have sameCommon : common active (id :: rest) = common active rest := by
            rw [common, common, List.toFinset_cons,
              Finset.insert_eq_self.mpr (List.mem_toFinset.mpr again)]
          rw [sameCommon, if_pos ⟨isActive, again⟩]
          omega
        · have oneMore : common active (id :: rest) = insert id (common active rest) := by
            rw [common, common, List.toFinset_cons,
              Finset.inter_insert_of_mem (List.mem_toFinset.mpr isActive)]
          have notCommon : id ∉ common active rest := by
            simp [common, again]
          rw [oneMore, Finset.card_insert_of_notMem notCommon, if_neg (fun both => again both.2)]
          omega
      · have sameCommon : common active (id :: rest) = common active rest := by
          rw [common, common, List.toFinset_cons,
            Finset.inter_insert_of_notMem (fun member => isActive (List.mem_toFinset.mp member))]
        rw [List.filter_cons_of_neg (by simpa using isActive), inductionHypothesis, repeats,
          sameCommon, if_neg (fun both => isActive both.1), Nat.zero_add]

theorem subset_iff_card_common (left right : List String) :
    left ⊆ right ↔ (common left right).card = left.toFinset.card := by
  constructor
  · intro included
    rw [common, Finset.inter_eq_left.mpr]
    intro id member
    exact List.mem_toFinset.mpr (included (List.mem_toFinset.mp member))
  · intro sameCard id member
    have allCommon : common left right = left.toFinset :=
      Finset.eq_of_subset_of_card_le Finset.inter_subset_left sameCard.ge
    have isCommon : id ∈ common left right := by
      rw [allCommon]
      exact List.mem_toFinset.mpr member
    exact List.mem_toFinset.mp (Finset.mem_inter.mp isCommon).2

theorem card_common_le (active shadow : List String) :
    (common active shadow).card ≤ active.toFinset.card ∧
      (common active shadow).card ≤ shadow.toFinset.card :=
  ⟨Finset.card_le_card Finset.inter_subset_left, Finset.card_le_card Finset.inter_subset_right⟩

/-- The shorter result is included where all of its ids are common. -/
theorem shorterIncluded_iff (active shadow : List String) :
    ShorterIncluded active shadow ↔
      (common active shadow).card = min active.toFinset.card shadow.toFinset.card := by
  have symmetric : common shadow active = common active shadow := Finset.inter_comm _ _
  have inRight := subset_iff_card_common shadow active
  rw [symmetric] at inRight
  rw [ShorterIncluded, subset_iff_card_common active shadow, inRight]
  have commonLe := card_common_le active shadow
  omega

/-- The overlap of two results that are not empty. -/
theorem overlap_of_ne_nil {active shadow : List String} (activeFound : active ≠ [])
    (shadowFound : shadow ≠ []) :
    overlap active shadow =
      (((common active shadow).card + repeats active shadow : Nat) : ℚ) /
        (min active.length shadow.length : Nat) := by
  have activePositive := List.length_pos_iff.mpr activeFound
  have shadowPositive := List.length_pos_iff.mpr shadowFound
  have atLeastOne : max 1 (min active.length shadow.length) =
      min active.length shadow.length := by
    omega
  rw [overlap, if_pos (by omega), length_filter_eq, atLeastOne]

theorem overlapSound_zero (active shadow : List String) : OverlapSound 0 active shadow where
  nonnegative := le_rfl
  atMostOne := zero_le_one
  included full := absurd full zero_ne_one

/-- The overlap is sound exactly where the repeats fit. -/
theorem overlapSound_iff_repeatsFit (active shadow : List String) :
    OverlapSound (overlap active shadow) active shadow ↔ RepeatsFit active shadow := by
  by_cases shadowEmpty : shadow = []
  · subst shadowEmpty
    refine iff_of_true ?_ (.inl rfl)
    by_cases activeEmpty : active = []
    · subst activeEmpty
      refine ⟨by decide, by decide, ?_⟩
      intro _full
      simp [ShorterIncluded]
    · have none : overlap active [] = 0 := by
        simp [overlap, activeEmpty]
      rw [none]
      exact overlapSound_zero active []
  · by_cases activeEmpty : active = []
    · subst activeEmpty
      have none : overlap [] shadow = 0 := by
        simp [overlap, shadowEmpty]
      rw [none]
      exact iff_of_true (overlapSound_zero [] shadow) (.inl (repeats_nil shadow))
    · have share := overlap_of_ne_nil activeEmpty shadowEmpty
      have activePositive := List.length_pos_iff.mpr activeEmpty
      have shadowPositive := List.length_pos_iff.mpr shadowEmpty
      have positive : (0 : ℚ) < (min active.length shadow.length : Nat) := by
        exact_mod_cast (by omega : 0 < min active.length shadow.length)
      have atMost : overlap active shadow ≤ 1 ↔
          (common active shadow).card + repeats active shadow ≤
            min active.length shadow.length := by
        rw [share, div_le_one positive, Nat.cast_le]
      have full : overlap active shadow = 1 ↔
          (common active shadow).card + repeats active shadow =
            min active.length shadow.length := by
        rw [share, div_eq_one_iff_eq positive.ne', Nat.cast_inj]
      have commonLe := card_common_le active shadow
      have activeLe := List.toFinset_card_le active
      have shadowLe := List.toFinset_card_le shadow
      constructor
      · intro sound
        have within := atMost.mp sound.atMostOne
        have included := sound.included
        rw [full, shorterIncluded_iff] at included
        unfold RepeatsFit
        omega
      · intro fits
        unfold RepeatsFit at fits
        refine ⟨?_, atMost.mpr (by omega), ?_⟩
        · rw [share]
          exact div_nonneg (Nat.cast_nonneg _) positive.le
        · rw [full, shorterIncluded_iff]
          omega

/-- What a search needs of its providers and of the observer: where the active
provider finds a result, the promise of the shadow settles, and where the
shadow finds one too, `observe` returns and the repeated ids fit. -/
structure SearchMeets (active shadow : Settlement (SearchResult Source) Error)
    (thrown : Option Error) : Prop where
  settles : ∀ found, active = .fulfilled found → shadow ≠ .pending
  returns : ∀ found compared, active = .fulfilled found → shadow = .fulfilled compared →
    thrown = none
  fits : ∀ found compared, active = .fulfilled found → shadow = .fulfilled compared →
    RepeatsFit found.ids compared.ids

/-- A search is sound exactly under these conditions. -/
theorem searchSound_iff (active shadow : Settlement (SearchResult Source) Error)
    (thrown : Option Error) :
    SearchSound active shadow thrown ↔ SearchMeets active shadow thrown := by
  constructor
  · intro sound
    constructor
    · rintro found rfl rfl
      have returned : (Settlement.pending : Settlement (SearchResult Source) Error) =
          .fulfilled found := sound.returned
      cases returned
    · rintro found compared rfl rfl
      have returned := sound.returned
      cases thrown with
      | none => rfl
      | some error => cases returned
    · rintro found compared rfl rfl
      have observed : observation found compared ∈
          (search (.fulfilled found) (.fulfilled compared) thrown).2 := by
        cases thrown with
        | none => exact List.mem_singleton_self _
        | some error => exact List.mem_singleton_self _
      exact (overlapSound_iff_repeatsFit _ _).mp (sound.reported found compared rfl rfl _ observed)
  · intro meets
    constructor
    · cases active with
      | pending => rfl
      | rejected error => rfl
      | fulfilled found =>
          cases shadow with
          | pending => exact absurd rfl (meets.settles found rfl)
          | rejected error => rfl
          | fulfilled compared =>
              rw [meets.returns found compared rfl rfl]
              rfl
    · rintro found compared rfl rfl report isReport
      rw [meets.returns found compared rfl rfl] at isReport
      rw [List.mem_singleton.mp isReport]
      exact (overlapSound_iff_repeatsFit _ _).mpr (meets.fits found compared rfl rfl)

/-- A result with one hit for each id. -/
def resultOf (ids : List String) : SearchResult Unit where
  hits := ids.map fun id => ⟨id, (1 : Nat), ()⟩
  nextCursor := none
  tookMs := (1 : Nat)

/-- A repeated hit is counted thrice, or makes up for an id that is missing. -/
theorem overlap_of_repeats :
    ¬ ∀ active shadow : SearchResult Unit,
        SearchSound (.fulfilled active) (.fulfilled shadow) (none : Option String) := by
  intro soundOnAll
  have sound := soundOnAll (resultOf ["a"]) (resultOf ["a", "a", "a"])
  have reported : OverlapSound (overlap ["a"] ["a", "a", "a"]) _ _ :=
    sound.reported _ _ rfl rfl _ (List.mem_singleton_self _)
  have atMostOne := reported.atMostOne
  revert atMostOne
  decide +kernel

example : overlap ["a"] ["a", "a", "a"] = 3 ∧ overlap ["a", "b"] ["a", "a", "c"] = 1 := by
  decide +kernel

end ShadowSearchAdapter

end PlatformArchitecture.PlatformSdk
