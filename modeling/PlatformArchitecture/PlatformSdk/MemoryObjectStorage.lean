import Mathlib.Data.List.Nodup
import Mathlib.Logic.Function.Basic
import PlatformArchitecture.Foundations.Run
import PlatformArchitecture.Foundations.SharedArrays

/-!
# The object storage in memory

`MemoryObjectStorage` keeps the arrays it is given.  `put` and `get` go through
`slice`, so callers and storage share no `Uint8Array`; the `slice` of a `Buffer`
is a view of the same bytes.
-/

namespace PlatformArchitecture.PlatformSdk

open PlatformArchitecture.Foundations

/-- The class of an array decides what its `slice` does. -/
inductive ArrayClass where
  | uint8Array
  | buffer
  deriving DecidableEq

/-- A reference to an array. -/
structure ArrayRef where
  kind : ArrayClass
  cell : Nat
  deriving DecidableEq

/-- `array.slice()`. -/
def ArrayRef.slice (memory : Memory UInt8) (array : ArrayRef) : ArrayRef × Memory UInt8 :=
  match array.kind with
  | .uint8Array =>
      (⟨.uint8Array, memory.length⟩, memory.allocate (memory.contents array.cell))
  | .buffer => (array, memory)

namespace MemoryObjectStorage

/-- The memory, the arrays that callers hold, and the `objects` of the storage. -/
structure World where
  memory : Memory UInt8
  held : List ArrayRef
  objects : String → Option ArrayRef

def World.start : World :=
  ⟨[], [], fun _ => none⟩

inductive Action where
  | create (kind : ArrayClass) (bytes : List UInt8)
  | assign (holder index : Nat) (byte : UInt8)
  | put (key : String) (holder : Nat)
  | get (key : String)
  | delete (key : String)

def put (key : String) (body : ArrayRef) (world : World) : World :=
  let (copy, memory) := body.slice world.memory
  { world with memory, objects := Function.update world.objects key (some copy) }

def get (key : String) (world : World) : Except String (ArrayRef × World) :=
  match world.objects key with
  | none => .error "OBJECT_NOT_FOUND"
  | some stored =>
      let (copy, memory) := stored.slice world.memory
      .ok (copy, { world with memory })

def delete (key : String) (world : World) : World :=
  { world with objects := Function.update world.objects key none }

/-- Callers use the arrays they have made or been given. -/
def step (world : World) : Action → World
  | .create kind bytes =>
      { world with
        memory := world.memory.allocate bytes
        held := world.held ++ [⟨kind, world.memory.length⟩] }
  | .assign holder index byte =>
      match world.held[holder]? with
      | none => world
      | some array => { world with memory := world.memory.assign array.cell index byte }
  | .put key holder =>
      match world.held[holder]? with
      | none => world
      | some body => put key body world
  | .get key =>
      match get key world with
      | .error _ => world
      | .ok (copy, after) => { after with held := after.held ++ [copy] }
  | .delete key => delete key world

/-! ## What the storage is for -/

/-- Objects are values: nothing that happens to an array changes another. -/
structure ValueWorld where
  arrays : List (List UInt8)
  objects : String → Option (List UInt8)

def ValueWorld.start : ValueWorld :=
  ⟨[], fun _ => none⟩

def ValueWorld.step (world : ValueWorld) : Action → ValueWorld
  | .create _ bytes => { world with arrays := world.arrays ++ [bytes] }
  | .assign holder index byte =>
      { world with arrays := world.arrays.modify holder fun bytes => bytes.set index byte }
  | .put key holder =>
      match world.arrays[holder]? with
      | none => world
      | some body => { world with objects := Function.update world.objects key (some body) }
  | .get key =>
      match world.objects key with
      | none => world
      | some stored => { world with arrays := world.arrays ++ [stored] }
  | .delete key => { world with objects := Function.update world.objects key none }

/-- What callers and storage can read. -/
def World.values (world : World) : ValueWorld where
  arrays := world.held.map fun array => world.memory.contents array.cell
  objects key := (world.objects key).map fun array => world.memory.contents array.cell

/-! ## The storage keeps values -/

/-- Nobody shares an array. -/
structure World.Apart (world : World) : Prop where
  heldPlain : ∀ array ∈ world.held, array.kind = .uint8Array
  storedPlain : ∀ key array, world.objects key = some array → array.kind = .uint8Array
  heldInside : ∀ array ∈ world.held, array.cell < world.memory.length
  storedInside : ∀ key array, world.objects key = some array →
    array.cell < world.memory.length
  heldDistinct : (world.held.map ArrayRef.cell).Nodup
  heldNotStored : ∀ array ∈ world.held, ∀ key stored, world.objects key = some stored →
    array.cell ≠ stored.cell

theorem stored_of_update {objects : String → Option ArrayRef} {key name : String}
    {value : Option ArrayRef} {array : ArrayRef}
    (stored : Function.update objects key value name = some array) :
    value = some array ∨ objects name = some array := by
  by_cases same : name = key
  · subst same
    rw [Function.update_self] at stored
    exact .inl stored
  · rw [Function.update_of_ne same] at stored
    exact .inr stored

theorem slice_plain {array : ArrayRef} (plain : array.kind = .uint8Array)
    (memory : Memory UInt8) :
    array.slice memory =
      (⟨.uint8Array, memory.length⟩, memory.allocate (memory.contents array.cell)) := by
  rw [ArrayRef.slice, plain]

section Steps

variable {world : World}

/-- A further array that callers hold. -/
theorem World.Apart.hold (apart : world.Apart) (bytes : List UInt8) :
    World.Apart
      { world with
        memory := world.memory.allocate bytes
        held := world.held ++ [⟨.uint8Array, world.memory.length⟩] } := by
  refine ⟨?_, apart.storedPlain, ?_, ?_, ?_, ?_⟩
  · intro array member
    rcases List.mem_append.mp member with before | new
    · exact apart.heldPlain array before
    · rw [List.mem_singleton.mp new]
  · intro array member
    rw [Memory.length_allocate]
    rcases List.mem_append.mp member with before | new
    · exact Nat.lt_succ_of_lt (apart.heldInside array before)
    · rw [List.mem_singleton.mp new]
      exact Nat.lt_succ_self _
  · intro key array stored
    rw [Memory.length_allocate]
    exact Nat.lt_succ_of_lt (apart.storedInside key array stored)
  · rw [List.map_append, List.nodup_append]
    refine ⟨apart.heldDistinct, List.nodup_singleton _, ?_⟩
    intro cell member new isNew same
    obtain ⟨array, isHeld, rfl⟩ := List.mem_map.mp member
    rw [List.map_singleton, List.mem_singleton] at isNew
    have inside := apart.heldInside array isHeld
    rw [same, isNew] at inside
    exact Nat.lt_irrefl _ inside
  · intro array member key stored isStored
    rcases List.mem_append.mp member with before | new
    · exact apart.heldNotStored array before key stored isStored
    · rw [List.mem_singleton.mp new]
      exact Nat.ne_of_gt (apart.storedInside key stored isStored)

theorem World.Apart.values_hold (apart : world.Apart) (bytes : List UInt8) :
    World.values
        { world with
          memory := world.memory.allocate bytes
          held := world.held ++ [⟨.uint8Array, world.memory.length⟩] } =
      { world.values with arrays := world.values.arrays ++ [bytes] } := by
  refine congrArg₂ ValueWorld.mk ?_ ?_
  · rw [List.map_append, List.map_singleton, Memory.contents_allocate_new]
    refine congrArg (· ++ [bytes]) ?_
    apply List.map_congr_left
    intro array member
    exact Memory.contents_allocate_old (apart.heldInside array member) bytes
  · funext key
    apply Option.map_congr
    intro array stored
    exact Memory.contents_allocate_old (apart.storedInside key array stored) bytes

/-- A further array that the storage keeps. -/
theorem World.Apart.keep (apart : world.Apart) (key : String) (bytes : List UInt8) :
    World.Apart
      { world with
        memory := world.memory.allocate bytes
        objects := Function.update world.objects key
          (some ⟨.uint8Array, world.memory.length⟩) } := by
  refine ⟨apart.heldPlain, ?_, ?_, ?_, apart.heldDistinct, ?_⟩
  · intro name array stored
    rcases stored_of_update stored with new | before
    · rw [← Option.some.inj new]
    · exact apart.storedPlain name array before
  · intro array member
    rw [Memory.length_allocate]
    exact Nat.lt_succ_of_lt (apart.heldInside array member)
  · intro name array stored
    rw [Memory.length_allocate]
    rcases stored_of_update stored with new | before
    · rw [← Option.some.inj new]
      exact Nat.lt_succ_self _
    · exact Nat.lt_succ_of_lt (apart.storedInside name array before)
  · intro array member name stored isStored
    rcases stored_of_update isStored with new | before
    · rw [← Option.some.inj new]
      exact Nat.ne_of_lt (apart.heldInside array member)
    · exact apart.heldNotStored array member name stored before

theorem World.Apart.values_keep (apart : world.Apart) (key : String) (bytes : List UInt8) :
    World.values
        { world with
          memory := world.memory.allocate bytes
          objects := Function.update world.objects key
            (some ⟨.uint8Array, world.memory.length⟩) } =
      { world.values with
        objects := Function.update world.values.objects key (some bytes) } := by
  refine congrArg₂ ValueWorld.mk ?_ ?_
  · apply List.map_congr_left
    intro array member
    exact Memory.contents_allocate_old (apart.heldInside array member) bytes
  · funext name
    dsimp only [World.values]
    by_cases same : name = key
    · subst same
      rw [Function.update_self, Function.update_self, Option.map_some,
        Memory.contents_allocate_new]
    · rw [Function.update_of_ne same, Function.update_of_ne same]
      apply Option.map_congr
      intro array stored
      exact Memory.contents_allocate_old (apart.storedInside name array stored) bytes

theorem World.Apart.assign (apart : world.Apart) (cell index : Nat) (byte : UInt8) :
    World.Apart { world with memory := world.memory.assign cell index byte } := by
  refine ⟨apart.heldPlain, apart.storedPlain, ?_, ?_, apart.heldDistinct, apart.heldNotStored⟩
  · intro array member
    rw [Memory.length_assign]
    exact apart.heldInside array member
  · intro key array stored
    rw [Memory.length_assign]
    exact apart.storedInside key array stored

theorem World.Apart.values_assign (apart : world.Apart) {holder : Nat} {array : ArrayRef}
    (isHeld : world.held[holder]? = some array) (index : Nat) (byte : UInt8) :
    World.values { world with memory := world.memory.assign array.cell index byte } =
      { world.values with
        arrays := world.values.arrays.modify holder fun bytes => bytes.set index byte } := by
  refine congrArg₂ ValueWorld.mk ?_ ?_
  · have inside : ∀ cell ∈ world.held.map ArrayRef.cell, cell < world.memory.length := by
      intro cell member
      obtain ⟨other, isOther, rfl⟩ := List.mem_map.mp member
      exact apart.heldInside other isOther
    have atHolder : (world.held.map ArrayRef.cell)[holder]? = some array.cell := by
      rw [List.getElem?_map, isHeld, Option.map_some]
    have written := Memory.map_contents_assign apart.heldDistinct inside atHolder index byte
    rw [List.map_map, List.map_map] at written
    exact written
  · funext key
    apply Option.map_congr
    intro other stored
    have different := apart.heldNotStored array (List.mem_of_getElem? isHeld) key other stored
    exact Memory.contents_assign_other different index byte

theorem World.Apart.delete (apart : world.Apart) (key : String) :
    World.Apart (MemoryObjectStorage.delete key world) := by
  have before : ∀ name array, Function.update world.objects key none name = some array →
      world.objects name = some array := by
    intro name array stored
    rcases stored_of_update stored with gone | before
    · cases gone
    · exact before
  exact ⟨apart.heldPlain, fun name array stored => apart.storedPlain name array (before _ _ stored),
    apart.heldInside, fun name array stored => apart.storedInside name array (before _ _ stored),
    apart.heldDistinct,
    fun array member name stored isStored =>
      apart.heldNotStored array member name stored (before _ _ isStored)⟩

theorem values_delete (key : String) (world : World) :
    (delete key world).values =
      { world.values with objects := Function.update world.values.objects key none } := by
  refine congrArg₂ ValueWorld.mk rfl ?_
  funext name
  dsimp only [World.values, delete]
  by_cases same : name = key
  · subst same
    rw [Function.update_self, Function.update_self, Option.map_none]
  · rw [Function.update_of_ne same, Function.update_of_ne same]

end Steps

/-- One step on references does to the values what the step on values does. -/
theorem World.Apart.step {world : World} (apart : world.Apart) {action : Action}
    (plain : ∀ bytes, action ≠ .create .buffer bytes) :
    World.Apart (MemoryObjectStorage.step world action) ∧
      (MemoryObjectStorage.step world action).values = world.values.step action := by
  cases action with
  | create kind bytes =>
      cases kind with
      | uint8Array => exact ⟨apart.hold bytes, apart.values_hold bytes⟩
      | buffer => exact absurd rfl (plain bytes)
  | assign holder index byte =>
      dsimp only [MemoryObjectStorage.step, ValueWorld.step]
      cases isHeld : world.held[holder]? with
      | none =>
          refine ⟨apart, ?_⟩
          have outside : world.values.arrays.length ≤ holder := by
            rw [World.values, List.length_map]
            exact List.getElem?_eq_none_iff.mp isHeld
          rw [List.modify_eq_self outside]
      | some array => exact ⟨apart.assign _ _ _, apart.values_assign isHeld _ _⟩
  | put key holder =>
      dsimp only [MemoryObjectStorage.step, ValueWorld.step]
      have atHolder : world.values.arrays[holder]? =
          world.held[holder]?.map fun array => world.memory.contents array.cell :=
        List.getElem?_map
      rw [atHolder]
      cases isHeld : world.held[holder]? with
      | none => exact ⟨apart, rfl⟩
      | some body =>
          dsimp only [Option.map_some]
          rw [put, slice_plain (apart.heldPlain body (List.mem_of_getElem? isHeld))]
          exact ⟨apart.keep key _, apart.values_keep key _⟩
  | get key =>
      dsimp only [MemoryObjectStorage.step, MemoryObjectStorage.get, ValueWorld.step]
      have atKey : world.values.objects key =
          (world.objects key).map fun array => world.memory.contents array.cell :=
        rfl
      rw [atKey]
      cases isStored : world.objects key with
      | none => exact ⟨apart, rfl⟩
      | some stored =>
          dsimp only [Option.map_some]
          rw [slice_plain (apart.storedPlain key stored isStored)]
          exact ⟨apart.hold _, apart.values_hold _⟩
  | delete key => exact ⟨apart.delete key, values_delete key world⟩

/-- Every reference leads into the memory. -/
def World.Inside (world : World) : Prop :=
  (∀ array ∈ world.held, array.cell < world.memory.length) ∧
    ∀ key array, world.objects key = some array → array.cell < world.memory.length

theorem slice_inside {array : ArrayRef} {memory : Memory UInt8}
    (inside : array.cell < memory.length) :
    (array.slice memory).1.cell < (array.slice memory).2.length ∧
      memory.length ≤ (array.slice memory).2.length := by
  unfold ArrayRef.slice
  cases array.kind with
  | uint8Array =>
      dsimp only
      rw [Memory.length_allocate]
      exact ⟨Nat.lt_succ_self _, Nat.le_succ _⟩
  | buffer => exact ⟨inside, Nat.le_refl _⟩

theorem World.Inside.step {world : World} (inside : world.Inside) (action : Action) :
    World.Inside (MemoryObjectStorage.step world action) := by
  obtain ⟨held, stored⟩ := inside
  cases action with
  | create kind bytes =>
      refine ⟨?_, ?_⟩
      · intro array member
        dsimp only [MemoryObjectStorage.step]
        rw [Memory.length_allocate]
        rcases List.mem_append.mp member with before | new
        · exact Nat.lt_succ_of_lt (held array before)
        · rw [List.mem_singleton.mp new]
          exact Nat.lt_succ_self _
      · intro key array isStored
        dsimp only [MemoryObjectStorage.step]
        rw [Memory.length_allocate]
        exact Nat.lt_succ_of_lt (stored key array isStored)
  | assign holder index byte =>
      dsimp only [MemoryObjectStorage.step]
      cases world.held[holder]? with
      | none => exact ⟨held, stored⟩
      | some array =>
          unfold World.Inside
          rw [Memory.length_assign]
          exact ⟨held, stored⟩
  | put key holder =>
      dsimp only [MemoryObjectStorage.step]
      cases isHeld : world.held[holder]? with
      | none => exact ⟨held, stored⟩
      | some body =>
          obtain ⟨copyInside, grows⟩ := slice_inside (held body (List.mem_of_getElem? isHeld))
          refine ⟨fun array member => Nat.lt_of_lt_of_le (held array member) grows, ?_⟩
          intro name array isStored
          rcases stored_of_update isStored with new | before
          · rw [← Option.some.inj new]
            exact copyInside
          · exact Nat.lt_of_lt_of_le (stored name array before) grows
  | get key =>
      dsimp only [MemoryObjectStorage.step, MemoryObjectStorage.get]
      cases isStored : world.objects key with
      | none => exact ⟨held, stored⟩
      | some array =>
          obtain ⟨copyInside, grows⟩ := slice_inside (stored key array isStored)
          refine ⟨?_, fun name other isOther =>
            Nat.lt_of_lt_of_le (stored name other isOther) grows⟩
          intro other member
          rcases List.mem_append.mp member with before | new
          · exact Nat.lt_of_lt_of_le (held other before) grows
          · rw [List.mem_singleton.mp new]
            exact copyInside
  | delete key =>
      refine ⟨held, ?_⟩
      intro name array isStored
      rcases stored_of_update isStored with gone | before
      · cases gone
      · exact stored name array before

theorem simulated_run {world : World} {actions : List Action} (apart : world.Apart)
    (plain : ∀ bytes, .create .buffer bytes ∉ actions) :
    (run step world actions).values = run ValueWorld.step world.values actions := by
  induction actions generalizing world with
  | nil => rfl
  | cons action rest inductionHypothesis =>
      have first : ∀ bytes, action ≠ .create .buffer bytes := by
        intro bytes same
        exact plain bytes (by rw [same]; exact List.mem_cons_self)
      obtain ⟨kept, same⟩ := apart.step first
      rw [run_cons, run_cons, ← same]
      exact inductionHypothesis kept fun bytes member =>
        plain bytes (List.mem_cons_of_mem _ member)

/-! ## A `Buffer` is shared -/

/-- The object is the very array of the holder. -/
def World.Shares (key : String) (holder : Nat) (world : World) : Prop :=
  ∃ array, world.held[holder]? = some array ∧ world.objects key = some array

theorem shares_of_put {world : World} {holder : Nat} {array : ArrayRef}
    (isHeld : world.held[holder]? = some array) (isBuffer : array.kind = .buffer)
    (key : String) : World.Shares key holder (step world (.put key holder)) := by
  have view : array.slice world.memory = (array, world.memory) := by
    rw [ArrayRef.slice, isBuffer]
  refine ⟨array, ?_⟩
  simp only [step, isHeld, put, view, Function.update_self, and_self]

/-- Only a `put` or a `delete` of the key ends it. -/
theorem World.Shares.step {world : World} {key : String} {holder : Nat}
    (shares : world.Shares key holder) {action : Action}
    (noPut : ∀ other, action ≠ .put key other) (noDelete : action ≠ .delete key) :
    World.Shares key holder (MemoryObjectStorage.step world action) := by
  obtain ⟨array, isHeld, stored⟩ := shares
  have stillHeld : ∀ more, (world.held ++ more)[holder]? = some array := by
    intro more
    rw [List.getElem?_append_left (List.getElem?_eq_some_iff.mp isHeld).1]
    exact isHeld
  cases action with
  | create kind bytes => exact ⟨array, stillHeld _, stored⟩
  | assign other index byte =>
      dsimp only [MemoryObjectStorage.step]
      cases world.held[other]? with
      | none => exact ⟨array, isHeld, stored⟩
      | some written => exact ⟨array, isHeld, stored⟩
  | put name other =>
      have different : key ≠ name := by
        rintro rfl
        exact noPut other rfl
      dsimp only [MemoryObjectStorage.step]
      cases world.held[other]? with
      | none => exact ⟨array, isHeld, stored⟩
      | some body =>
          exact ⟨array, isHeld, (Function.update_of_ne different _ world.objects).trans stored⟩
  | get name =>
      dsimp only [MemoryObjectStorage.step, MemoryObjectStorage.get]
      cases world.objects name with
      | none => exact ⟨array, isHeld, stored⟩
      | some found => exact ⟨array, stillHeld _, stored⟩
  | delete name =>
      have different : key ≠ name := by
        rintro rfl
        exact noDelete rfl
      exact ⟨array, isHeld, (Function.update_of_ne different _ world.objects).trans stored⟩

theorem shares_run {world : World} {key : String} {holder : Nat} {later : List Action}
    (shares : world.Shares key holder) (noPut : ∀ other, .put key other ∉ later)
    (noDelete : .delete key ∉ later) : World.Shares key holder (run step world later) := by
  induction later generalizing world with
  | nil => exact shares
  | cons action rest inductionHypothesis =>
      rw [run_cons]
      refine inductionHypothesis (shares.step ?_ ?_) ?_ ?_
      · rintro other rfl
        exact noPut other List.mem_cons_self
      · rintro rfl
        exact noDelete List.mem_cons_self
      · intro other member
        exact noPut other (List.mem_cons_of_mem action member)
      · intro member
        exact noDelete (List.mem_cons_of_mem action member)

/-- Holder and storage read the same bytes. -/
theorem World.Shares.values {world : World} {key : String} {holder : Nat}
    (shares : world.Shares key holder) :
    world.values.objects key = world.values.arrays[holder]? := by
  obtain ⟨array, isHeld, stored⟩ := shares
  dsimp only [World.values]
  rw [stored, List.getElem?_map, isHeld]

/-- What the holder writes is written in the object. -/
theorem World.Shares.assign {world : World} {key : String} {holder : Nat}
    (shares : world.Shares key holder) (inside : world.Inside) (index : Nat) (byte : UInt8) :
    (MemoryObjectStorage.step world (.assign holder index byte)).values.objects key =
      (world.values.objects key).map fun bytes => bytes.set index byte := by
  obtain ⟨array, isHeld, stored⟩ := shares
  have within := inside.1 array (List.mem_of_getElem? isHeld)
  simp only [MemoryObjectStorage.step, isHeld, World.values, stored, Option.map_some,
    Memory.contents_assign_self within]

/-- The storage keeps every object as it was when it was put, whatever callers
do to the arrays they made or were given, as long as no `Buffer` is among them:
an object put from a `Buffer` has the contents of its holder, and every write of
it, until the key is put again or deleted. -/
theorem storage_keepsValues (actions : List Action) :
    ((∀ bytes, .create .buffer bytes ∉ actions) →
      (run step World.start actions).values = run ValueWorld.step ValueWorld.start actions) ∧
    ∀ holder array, (run step World.start actions).held[holder]? = some array →
      array.kind = .buffer → ∀ key later, (∀ other, .put key other ∉ later) →
        .delete key ∉ later →
          let reached := run step World.start (actions ++ .put key holder :: later)
          reached.values.objects key = reached.values.arrays[holder]? ∧
            (reached.values.objects key).isSome = true ∧
              ∀ index byte, (step reached (.assign holder index byte)).values.objects key =
                (reached.values.objects key).map fun bytes => bytes.set index byte := by
  have insideAlways : ∀ all, World.Inside (run step World.start all) := by
    intro all
    exact @run_invariant_of_step _ _ step World.Inside (fun _ action held => held.step action)
      World.start all
      ⟨fun _ member => absurd member List.not_mem_nil, fun _ _ stored => by cases stored⟩
  constructor
  · intro plain
    have apart : World.start.Apart := by
      constructor <;> simp [World.start]
    exact simulated_run apart plain
  · intro holder array isHeld isBuffer key later noPut noDelete reached
    have shares : reached.Shares key holder := by
      have afterPut := shares_of_put isHeld isBuffer key
      have afterwards := shares_run afterPut noPut noDelete
      rw [← run_cons, ← run_append] at afterwards
      exact afterwards
    refine ⟨shares.values, ?_, shares.assign (insideAlways _)⟩
    obtain ⟨stored, -, isStored⟩ := shares
    dsimp only [World.values]
    rw [isStored]
    rfl

end MemoryObjectStorage

end PlatformArchitecture.PlatformSdk
