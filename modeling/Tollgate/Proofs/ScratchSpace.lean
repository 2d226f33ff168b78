import Tollgate.Proofs.MemoryLimits
import Tollgate.Proofs.Placement

namespace Tollgate

theorem Run.Course.sizes {b : Guest.Backend} {visible : Option Nat} {r : Run}
    {callable : Guest.Callable} {args : List Guest.Native} {calls : List HostCall}
    {last : Progress} (course : Course b visible r callable args calls last) :
    Guest.Memory.NoneShrinks r.machine.memories last.run.machine.memories := by
  refine course.invariant (motive := fun _ progress =>
    Guest.Memory.NoneShrinks r.machine.memories progress.run.machine.memories) (.refl _) ?_
  intro calls now s kept lawful
  rw [settle_memories]
  exact kept.trans lawful.carries.sizes

namespace Guest.Memory

theorem size_mono {m later : Memory} (more : m.pages ≤ later.pages) : m.size ≤ later.size :=
  Nat.mul_le_mul_right pageSize more

theorem half_aligned (m : Memory) : m.size / 2 % Instance.alignment = 0 := by
  unfold size pageSize Instance.alignment
  omega

theorem size_aligned (m : Memory) : m.size % Instance.alignment = 0 := by
  unfold size pageSize Instance.alignment
  omega

end Guest.Memory

namespace Instance

-- The memory that the host reaches is still there and has lost nothing of its size.
def Keeps (before after : Instance) : Prop :=
  ∀ m, before.memory? = some m → ∃ later, after.memory? = some later ∧ m.size ≤ later.size

theorem Keeps.refl (i : Instance) : i.Keeps i := fun m found => ⟨m, found, Nat.le_refl _⟩

theorem Keeps.size {before after : Instance} {m : Guest.Memory} (keeps : before.Keeps after)
    (found : before.memory? = some m) : before.memorySize ≤ after.memorySize := by
  obtain ⟨later, exported, more⟩ := keeps m found
  rw [memorySize_eq found, memorySize_eq exported]
  exact more

structure Persists (before after : Instance) : Prop where
  cursor : after.heapCursor = before.heapCursor
  keeps : before.Keeps after

theorem Persists.refl (i : Instance) : i.Persists i := ⟨rfl, .refl i⟩

theorem memory_placed {i : Instance} {m : Guest.Memory} (found : i.memory? = some m)
    (written : Guest.Memory) (cursor : Nat) :
    ({ i.setMemory written with heapCursor := cursor } : Instance).memory? = some written :=
  memory_setMemory found written

theorem setMemory_persists {i : Instance} {m grown : Guest.Memory} (found : i.memory? = some m)
    (more : m.size ≤ grown.size) : i.Persists (i.setMemory grown) := by
  refine ⟨?_, fun n listed => ?_⟩
  · unfold setMemory
    split <;> rfl
  · cases found.symm.trans listed
    exact ⟨grown, memory_setMemory found grown, more⟩

theorem allocate_keeps {i next : Instance} {bytes : List UInt8} {address : Nat}
    (allocated : i.allocate bytes = .ok (address, next)) : i.Keeps next := by
  obtain ⟨_, _, m, written, found, stored, rfl⟩ := allocate_ok allocated
  intro n listed
  cases found.symm.trans listed
  exact ⟨written, memory_placed found written _, Nat.le_of_eq (Guest.Memory.size_write stored).symm⟩

end Instance

theorem Vm.call_persists (vm : Vm) (guard : Guard) (i : Instance) (function : String)
    (words : List UInt64) (limits : CallLimits) (tick : Option Nat) :
    i.Persists (vm.call guard i function words limits tick).2.1 := by
  cases prepared : vm.prepare i function words with
  | error f =>
    rw [call_refused guard limits tick prepared]
    exact .refl i
  | ok entry =>
    obtain ⟨live, callable, args⟩ := entry
    obtain ⟨last, course, called⟩ := call_entered guard limits tick prepared
    have opened := prepare_live prepared
    rw [called]
    refine ⟨rfl, fun m found => ?_⟩
    cases exported : i.memoryIndex? with
    | none =>
      simp only [Instance.memory?, exported] at found
      cases opened ▸ found
    | some index =>
      simp only [Instance.memory?, opened, exported] at found
      obtain ⟨later, listed, more⟩ := course.sizes index m found
      refine ⟨later, ?_, Guest.Memory.size_mono more⟩
      have kept : (leftBy i live last.close.1).memoryIndex? = some index := exported
      rw [Progress.close_run] at kept ⊢
      unfold Instance.memory?
      rw [kept]
      exact listed

namespace Instance

def growMemory (i : Instance) (pages : Nat) : Instance :=
  match i.memory?.bind fun m => m.grow? pages with
  | some grown => i.setMemory grown
  | none => i

theorem growMemory_persists (i : Instance) (pages : Nat) : i.Persists (i.growMemory pages) := by
  unfold growMemory
  split
  · rename_i grown room
    obtain ⟨m, found, room⟩ := Option.bind_eq_some_iff.mp room
    exact setMemory_persists found (Guest.Memory.size_mono (Guest.Memory.grows_grow room).pages)
  · exact .refl i

end Instance

-- What happens to an instance and bears on its scratch space.
inductive ScratchRequest
  | allocate (bytes : List UInt8)
  | reset
  | grow (pages : Nat)
  | call (vm : Vm) (guard : Guard) (function : String) (words : List UInt64) (limits : CallLimits)
      (tick : Option Nat)

-- An instance, the midpoint of its memory at the last reset, and the address and length of every
-- buffer that was placed since, oldest first.
structure ScratchBook where
  item : Instance
  middle : Nat
  ranges : List (Nat × Nat) := []

namespace ScratchBook

def reset (i : Instance) : ScratchBook := ⟨i.resetScratch, i.memorySize / 2, []⟩

def step (b : ScratchBook) : ScratchRequest → ScratchBook
  | .allocate bytes =>
    match b.item.allocate bytes with
    | .ok (address, next) =>
      { b with item := next, ranges := b.ranges ++ [(address, bytes.length)] }
    | .error _ => b
  | .reset => reset b.item
  | .grow pages => { b with item := b.item.growMemory pages }
  | .call vm guard function words limits tick =>
    { b with item := (vm.call guard b.item function words limits tick).2.1 }

def run (b : ScratchBook) (requests : List ScratchRequest) : ScratchBook := requests.foldl step b

-- The buffers lie one behind the other between the midpoint and the cursor.
structure Sound (b : ScratchBook) : Prop where
  exported : ∃ m, b.item.memory? = some m
  aligned : b.item.heapCursor % Instance.alignment = 0
  inside : b.item.heapCursor ≤ b.item.memorySize
  behind : b.middle ≤ b.item.heapCursor
  placed : ∀ r ∈ b.ranges, b.middle ≤ r.1 ∧ r.1 + r.2 ≤ b.item.heapCursor
  apart : b.ranges.Pairwise fun r later => r.1 + r.2 ≤ later.1

variable {b : ScratchBook} {i next : Instance} {m : Guest.Memory}

theorem reset_sound (found : i.memory? = some m) : (reset i).Sound := by
  have size : i.memorySize = m.size := Instance.memorySize_eq found
  refine ⟨⟨m, found⟩, ?_, Nat.div_le_self _ 2, Nat.le_refl _, by simp [reset], .nil⟩
  change i.memorySize / 2 % Instance.alignment = 0
  rw [size]
  exact m.half_aligned

theorem Sound.persists (sound : b.Sound) (persists : b.item.Persists next) :
    ({ b with item := next } : ScratchBook).Sound := by
  obtain ⟨m, found⟩ := sound.exported
  obtain ⟨later, exported, _⟩ := persists.keeps m found
  refine ⟨⟨later, exported⟩, ?_, ?_, ?_, ?_, sound.apart⟩
  all_goals rw [persists.cursor]
  · exact sound.aligned
  · exact Nat.le_trans sound.inside (persists.keeps.size found)
  · exact sound.behind
  · exact sound.placed

theorem Sound.allocated (sound : b.Sound) {bytes : List UInt8} {address : Nat}
    (allocated : b.item.allocate bytes = .ok (address, next)) :
    ({ b with item := next, ranges := b.ranges ++ [(address, bytes.length)] } :
      ScratchBook).Sound := by
  obtain ⟨rfl, _, m, written, found, stored, rfl⟩ := Instance.allocate_ok allocated
  have size : b.item.memorySize = m.size := Instance.memorySize_eq found
  have room : b.item.heapCursor + bytes.length ≤ m.size := Guest.Memory.write_room stored
  have rounded := Instance.alignUp_le (b.item.heapCursor + bytes.length)
  have exported := Instance.memory_placed found written
  -- The end of memory cuts off the rounding, but never the buffer itself.
  have beyond : b.item.heapCursor + bytes.length ≤
      min (Instance.alignUp (b.item.heapCursor + bytes.length)) b.item.memorySize :=
    Nat.le_min.mpr ⟨rounded, size ▸ room⟩
  refine ⟨⟨written, exported _⟩, ?_, ?_, ?_, ?_, ?_⟩
  · dsimp only
    rw [size]
    rcases Nat.le_total (Instance.alignUp (b.item.heapCursor + bytes.length)) m.size with low | high
    · rw [Nat.min_eq_left low]
      exact Instance.alignUp_aligned _
    · rw [Nat.min_eq_right high]
      exact m.size_aligned
  · rw [Instance.memorySize_eq (exported _), Guest.Memory.size_write stored, size]
    exact Nat.min_le_right _ _
  · exact Nat.le_trans sound.behind (Nat.le_trans (Nat.le_add_right _ _) beyond)
  · intro r member
    rcases List.mem_append.mp member with earlier | last
    · obtain ⟨first, ended⟩ := sound.placed r earlier
      exact ⟨first, Nat.le_trans ended (Nat.le_trans (Nat.le_add_right _ _) beyond)⟩
    · cases List.mem_singleton.mp last
      exact ⟨sound.behind, beyond⟩
  · refine List.pairwise_append.mpr ⟨sound.apart, List.pairwise_singleton _ _, ?_⟩
    intro r earlier later last
    cases List.mem_singleton.mp last
    exact (sound.placed r earlier).2

theorem Sound.step (sound : b.Sound) (r : ScratchRequest) : (b.step r).Sound := by
  cases r with
  | allocate bytes =>
    unfold ScratchBook.step
    dsimp only
    split
    · rename_i address next allocated
      exact sound.allocated allocated
    · exact sound
  | reset =>
    obtain ⟨m, found⟩ := sound.exported
    exact reset_sound found
  | grow pages => exact sound.persists (b.item.growMemory_persists pages)
  | call vm guard function words limits tick =>
    exact sound.persists (vm.call_persists guard b.item function words limits tick)

theorem Sound.run (sound : b.Sound) (requests : List ScratchRequest) : (b.run requests).Sound := by
  induction requests generalizing b with
  | nil => exact sound
  | cons r rest ih => exact ih (sound.step r)

theorem step_keeps (b : ScratchBook) (r : ScratchRequest) : b.item.Keeps (b.step r).item := by
  cases r with
  | allocate bytes =>
    unfold ScratchBook.step
    dsimp only
    split
    · rename_i address next allocated
      exact Instance.allocate_keeps allocated
    · exact .refl b.item
  | reset => exact .refl b.item
  | grow pages => exact (b.item.growMemory_persists pages).keeps
  | call vm guard function words limits tick =>
    exact (vm.call_persists guard b.item function words limits tick).keeps

end ScratchBook

namespace Instance

variable {i next : Instance} {m : Guest.Memory} {bytes : List UInt8} {address : Nat}

structure Stores (i : Instance) (bytes : List UInt8) (address : Nat) (next : Instance)
    (m written : Guest.Memory) : Prop where
  placed : address = i.heapCursor
  found : i.memory? = some m
  frame : written = { m with cells := written.cells }
  changed : next = { i.setMemory written with
    heapCursor := min (alignUp (address + bytes.length)) i.memorySize }
  stored : written.slice address bytes.length = bytes
  elsewhere (a : Nat) : a < m.size → a < address ∨ address + bytes.length ≤ a →
    written.get a = m.get a

theorem allocate_stores (allocated : i.allocate bytes = .ok (address, next)) :
    ∃ m written, i.Stores bytes address next m written := by
  obtain ⟨rfl, _, m, written, found, stored, rfl⟩ := allocate_ok allocated
  have room : i.heapCursor + bytes.length ≤ pow2 Guest.Memory.level :=
    Nat.le_trans (Guest.Memory.write_room stored) m.size_le
  have spliced : written = m.splice i.heapCursor bytes := by
    unfold Guest.Memory.write? at stored
    split at stored <;> cases stored
    rfl
  refine ⟨m, written, rfl, found, ?_, rfl, ?_, fun a inside outside => ?_⟩
  all_goals rw [spliced]
  · exact m.splice_frame _ _
  · exact m.slice_splice room
  · exact m.get_splice_outside room (Nat.lt_of_lt_of_le inside m.size_le) outside

-- A buffer of this length has no place: it does not fit behind the cursor, its address takes more
-- than 32 bits, or it is as long as all the memory that 32 bits can address.
def Refuses (i : Instance) (length : Nat) : Prop :=
  i.memorySize - i.heapCursor < length ∨ addressBound ≤ i.heapCursor ∨
    (i.heapCursor = 0 ∧ i.memorySize = addressBound ∧ length = addressBound)

theorem refusal_some {length : Nat} (refuses : i.Refuses length) :
    i.refusal? length = some (.outOfMemory length (i.memorySize - i.heapCursor)) := by
  unfold refusal?
  dsimp only
  rcases refuses with misfit | far | ⟨_, _, long⟩
  · exact if_pos misfit
  · split
    · rfl
    · exact if_pos (.inl far)
  · split
    · rfl
    · exact if_pos (.inr (Nat.le_of_eq long.symm))

-- No memory is larger than what 32 bits can address, so that a longer buffer fits into none.
theorem refusal_none (found : i.memory? = some m) (inside : i.heapCursor ≤ i.memorySize)
    {length : Nat} (places : ¬ i.Refuses length) : i.refusal? length = none := by
  have size : i.memorySize = m.size := memorySize_eq found
  have bounded : i.memorySize ≤ addressBound := size ▸ m.size_le
  unfold Refuses at places
  have fits : ¬ i.memorySize - i.heapCursor < length := fun misfit => places (.inl misfit)
  have bounds : ¬ (addressBound ≤ i.heapCursor ∨ addressBound ≤ length) := by omega
  have room : i.heapCursor + length ≤ m.size := by omega
  unfold refusal?
  dsimp only
  rw [if_neg fits, if_neg bounds, open_of_memory found, found]
  exact if_pos room

theorem allocate_error_refuses (found : i.memory? = some m)
    (inside : i.heapCursor ≤ i.memorySize) {f : Fault} : i.allocate bytes = .error f ↔
      i.Refuses bytes.length ∧
        f = .outOfMemory bytes.length (i.memorySize - i.heapCursor) := by
  rw [allocate_error_iff]
  by_cases refuses : i.Refuses bytes.length
  · rw [refusal_some refuses, Option.some.injEq]
    exact ⟨fun same => ⟨refuses, same.symm⟩, fun ⟨_, same⟩ => same.symm⟩
  · rw [refusal_none found inside refuses]
    constructor
    · intro refused
      cases refused
    · rintro ⟨anyway, _⟩
      exact absurd anyway refuses

end Instance

-- What holds of scratch space whatever has happened since a reset, and what a buffer comes to then.
structure ScratchKept (b : ScratchBook) : Prop where
  opened : b.item.isClosed = false
  paged : b.item.memorySize % 65536 = 0
  aligned : b.item.heapCursor % 8 = 0
  inside : b.item.heapCursor ≤ b.item.memorySize
  apart : b.ranges.Pairwise fun r later => r.1 + r.2 ≤ later.1
  placed : ∀ r ∈ b.ranges, b.middle ≤ r.1 ∧ r.1 + r.2 ≤ b.item.memorySize
  growing (r : ScratchRequest) : b.item.memorySize ≤ (b.step r).item.memorySize
  stored (bytes : List UInt8) (address : Nat) (next : Instance) :
    b.item.allocate bytes = .ok (address, next) →
    ∃ m written, b.item.Stores bytes address next m written
  refused (bytes : List UInt8) (f : Fault) : b.item.allocate bytes = .error f ↔
    b.item.Refuses bytes.length ∧
      f = .outOfMemory bytes.length (b.item.memorySize - b.item.heapCursor)
  unchanged (bytes : List UInt8) : b.item.Refuses bytes.length → b.step (.allocate bytes) = b

namespace ScratchBook

theorem Sound.kept {b : ScratchBook} (sound : b.Sound) : ScratchKept b := by
  obtain ⟨m, found⟩ := sound.exported
  have refused (bytes : List UInt8) (f : Fault) : b.item.allocate bytes = .error f ↔
      b.item.Refuses bytes.length ∧
        f = .outOfMemory bytes.length (b.item.memorySize - b.item.heapCursor) :=
    Instance.allocate_error_refuses found sound.inside
  refine ⟨Instance.open_of_memory found, ?_, sound.aligned, sound.inside, sound.apart, ?_,
    fun r => (b.step_keeps r).size found,
    fun _ _ _ allocated => Instance.allocate_stores allocated, refused, ?_⟩
  · rw [Instance.memorySize_eq found]
    exact Nat.mul_mod_left m.pages 65536
  · intro r member
    obtain ⟨first, ended⟩ := sound.placed r member
    exact ⟨first, Nat.le_trans ended sound.inside⟩
  · intro bytes refuses
    unfold ScratchBook.step
    dsimp only
    rw [(refused bytes _).mpr ⟨refuses, rfl⟩]

-- Where the record of an instance with a memory begins: when the instance is created, and whenever
-- its scratch space is reset.
inductive Begun : ScratchBook → Prop
  | created {vm : Vm} {guard : Guard} {c : Contract} {id : String} {pages : Nat}
      {tableLimit : Option Nat} {others : Nat} {tick : Option Nat} {i : Instance}
      {m : Guest.Memory} : (vm.instantiate guard c id pages tableLimit others tick).2 = .ok i →
      i.memory? = some m → Begun ⟨i, i.memorySize / 2, []⟩
  | reset {i : Instance} {m : Guest.Memory} : i.memory? = some m → Begun (reset i)

theorem Begun.sound {b : ScratchBook} (begun : b.Begun) : b.Sound := by
  cases begun with
  | created made exported =>
    -- Creation ends with a reset of its own.
    obtain ⟨live, rfl, _⟩ := Vm.instantiate_parts made
    exact reset_sound exported
  | reset exported => exact reset_sound exported

end ScratchBook

theorem scratch_kept (b : ScratchBook) (begun : b.Begun) (requests : List ScratchRequest) :
    ScratchKept (b.run requests) :=
  (begun.sound.run requests).kept

def Instance.hollow : Instance where
  id := "hollow"
  contract := ⟨"hollow", 0, { exports := [("memory", .memory 0)] }⟩
  live := some {
    functions := #[]
    tables := []
    globals := #[]
    memories := (Vm.memory? 65536 ⟨0, none⟩).toList
    meter := { hostCallFee := 0 } }
  memoryLimitPages := 65536

def spread : List ScratchRequest :=
  [.allocate [9], .grow 2, .allocate [1, 2, 3], .allocate [], .allocate [4], .reset, .grow 1,
    .allocate [5, 6], .allocate [7]]

theorem scratch_kept_spread : (ScratchBook.reset .hollow).Begun ∧
    ((ScratchBook.reset .hollow).run (spread.take 5)).ranges = [(0, 3), (8, 0), (8, 1)] ∧
    ((ScratchBook.reset .hollow).run spread).ranges = [(65536, 2), (65544, 1)] ∧
    ScratchKept ((ScratchBook.reset .hollow).run spread) := by
  have begun : (ScratchBook.reset .hollow).Begun := .reset rfl
  exact ⟨begun, by decide +kernel, by decide +kernel, scratch_kept _ begun spread⟩

-- A buffer as long as the whole of a memory that has grown from nothing fits behind the cursor,
-- which is still at zero, and is refused all the same.
theorem scratch_refuses_whole : ¬ ∀ (start b : ScratchBook) (requests : List ScratchRequest)
    (bytes : List UInt8), start.Begun → b = start.run requests →
    ((∃ f, b.item.allocate bytes = .error f) ↔
      b.item.memorySize - b.item.heapCursor < bytes.length ∨
        Instance.addressBound ≤ b.item.heapCursor) := by
  intro claimed
  have begun : (ScratchBook.reset .hollow).Begun := .reset rfl
  obtain ⟨b, grown⟩ : ∃ b, b = (ScratchBook.reset .hollow).run [.grow 65536] := ⟨_, rfl⟩
  have kept : ScratchKept b := by
    rw [grown]
    exact (begun.sound.run [.grow 65536]).kept
  have cursor : b.item.heapCursor = 0 := by
    cases grown
    rfl
  have size : b.item.memorySize = Instance.addressBound := by
    cases grown
    decide +kernel
  -- The buffer is never spelled out: only its length is looked at.
  obtain ⟨bytes, length⟩ : ∃ bytes : List UInt8, bytes.length = Instance.addressBound :=
    ⟨List.replicate Instance.addressBound 0, List.length_replicate⟩
  have refuses : b.item.Refuses bytes.length := .inr (.inr ⟨cursor, size, length⟩)
  have refused := (claimed _ b [.grow 65536] bytes begun grown).mp
    ⟨_, (kept.refused bytes _).mpr ⟨refuses, rfl⟩⟩
  rw [cursor, size, length] at refused
  revert refused
  decide

end Tollgate
