import Tollgate.Proofs.Marshalling

namespace Tollgate

namespace Guest.Native

-- The first number of 32 bits that stands for a negative one, and what its sign adds in a word.
def signBound : Nat := 2147483648

def signWeight : Nat := 18446744069414584320

theorem word_i32_toNat (v : UInt32) :
    (i32 v).word.toNat = v.toNat + if v.toNat < signBound then 0 else signWeight := by
  have narrow : v.toNat < UInt32.size := v.toNat_lt
  have low : (v.toBitVec.setWidth 64).toNat = v.toNat := by
    rw [BitVec.toNat_setWidth]
    exact Nat.mod_eq_of_lt (Nat.lt_trans narrow (by decide))
  change (v.toBitVec.signExtend 64).toNat = _
  rw [BitVec.toNat_signExtend, low, BitVec.msb_eq_decide]
  change v.toNat + (if decide (signBound ≤ v.toNat) then signWeight else 0) = _
  by_cases negative : signBound ≤ v.toNat
  · rw [if_pos (decide_eq_true negative), if_neg (Nat.not_lt.mpr negative)]
  · rw [if_neg (by simpa using negative), if_pos (Nat.lt_of_not_le negative)]

theorem word_low {v : UInt32} (low : v.toNat < signBound) : (i32 v).word.toNat = v.toNat := by
  rw [word_i32_toNat, if_pos low, Nat.add_zero]

theorem word_high {v : UInt32} (high : signBound ≤ v.toNat) :
    (i32 v).word.toNat = v.toNat + signWeight := by
  rw [word_i32_toNat, if_neg (Nat.not_lt.mpr high)]

end Guest.Native

namespace Instance

variable {i : Instance} {m : Guest.Memory}

theorem read_inside (found : i.memory? = some m) {ptr len : Nat} (inside : ptr + len ≤ m.size) :
    i.read ptr len = .ok (m.slice ptr len) := by
  rw [read_ok_iff found, Guest.Memory.read?, if_pos inside]

theorem read_beyond (found : i.memory? = some m) {ptr len : Nat} (beyond : m.size < ptr + len) :
    i.read ptr len = .error (outOfBounds ptr len m.size) := by
  simp only [read, open_of_memory found, found, Guest.Memory.read?,
    if_neg (Nat.not_le.mpr beyond), Bool.false_eq_true, if_false]

theorem memory_of_read {ptr len : Nat} {bytes : List UInt8} (done : i.read ptr len = .ok bytes) :
    ∃ m, i.memory? = some m ∧ ptr + len ≤ m.size := by
  unfold read at done
  split at done
  · cases done
  · split at done
    · cases done
    · rename_i m found
      refine ⟨m, found, Nat.le_of_not_lt fun beyond => ?_⟩
      rw [Guest.Memory.read?, if_neg (Nat.not_le.mpr beyond)] at done
      cases done

end Instance

namespace Marshal

theorem decodeFrom_buffer {s : MarshalSettings} {read : Nat → Nat → Except Fault (List UInt8)}
    {v : Value} (allowed : 0 < s.maxResults) (uncoded : v.scalar? = none) (address size : UInt64) :
    decodeFrom s read [address, size] [v.type] =
      (decodeBuffer s read v.type address size).map fun v => [v] := by
  have shape : checkShape s [address, size] [v.type] = .ok () :=
    checkShape_ok_iff.mpr ⟨allowed, Value.wordCount_buffer uncoded⟩
  unfold decodeFrom
  rw [shape]
  simp only [decodeMixed, Value.ofScalar_buffer uncoded]
  cases decodeBuffer s read v.type address size <;> rfl

def returnedWords (ptr len : UInt32) : List UInt64 :=
  [.i32 ptr, .i32 len].map Guest.Native.word

-- What becomes of a buffer whose place in memory `m` a guest returns as two integers. They are
-- widened with their sign and then read as numbers without one.
structure Returned (s : MarshalSettings) (i : Instance) (m : Guest.Memory) (v : Value)
    (ptr len : UInt32) : Prop where
  exactly : decodeFrom s i.read (returnedWords ptr len) [v.type] = .ok [v] ↔
    ptr.toNat < Guest.Native.signBound ∧ len.toNat < Guest.Native.signBound
  -- Beyond that it is taken for a place far outside memory, or for a buffer that is far too long.
  high : Guest.Native.signBound ≤ ptr.toNat → len.toNat < Guest.Native.signBound →
    decodeFrom s i.read (returnedWords ptr len) [v.type] =
      .error (Instance.outOfBounds (ptr.toNat + Guest.Native.signWeight) len.toNat m.size)
  long : Guest.Native.signBound ≤ len.toNat →
    decodeFrom s i.read (returnedWords ptr len) [v.type] =
      .error (if s.maxParamSize < len.toNat + Guest.Native.signWeight then
        resultTooLarge (len.toNat + Guest.Native.signWeight)
      else Instance.outOfBounds (Guest.Native.i32 ptr).word.toNat
        (len.toNat + Guest.Native.signWeight) m.size)

variable {s : MarshalSettings} {i : Instance} {m : Guest.Memory} {v : Value} {bytes : List UInt8}
  {ptr len : UInt32}

theorem size_lt_signWeight (m : Guest.Memory) : m.size < Guest.Native.signWeight :=
  Nat.lt_of_le_of_lt m.size_le (by decide)

theorem decodeBuffer_long (found : i.memory? = some m) (t : ValueType) (address : UInt64)
    (sign : Guest.Native.signBound ≤ len.toNat) :
    decodeBuffer s i.read t address (Guest.Native.i32 len).word =
      .error (if s.maxParamSize < len.toNat + Guest.Native.signWeight then
        resultTooLarge (len.toNat + Guest.Native.signWeight)
      else Instance.outOfBounds address.toNat (len.toNat + Guest.Native.signWeight) m.size) := by
  unfold decodeBuffer
  rw [Guest.Native.word_high sign]
  split
  · rfl
  · have far := size_lt_signWeight m
    rw [Instance.read_beyond found (by omega)]

theorem decodeBuffer_high (found : i.memory? = some m) (t : ValueType)
    (small : len.toNat ≤ s.maxParamSize) (sign : Guest.Native.signBound ≤ ptr.toNat)
    (low : len.toNat < Guest.Native.signBound) :
    decodeBuffer s i.read t (Guest.Native.i32 ptr).word (Guest.Native.i32 len).word =
      .error (Instance.outOfBounds (ptr.toNat + Guest.Native.signWeight) len.toNat m.size) := by
  have far := size_lt_signWeight m
  unfold decodeBuffer
  rw [Guest.Native.word_low low, Guest.Native.word_high sign, if_neg (Nat.not_lt.mpr small),
    Instance.read_beyond found (by omega)]

theorem decodeBuffer_low (payload : v.payload? = some bytes)
    (stored : i.read ptr.toNat len.toNat = .ok bytes) (length : len.toNat = bytes.length)
    (small : bytes.length ≤ s.maxParamSize) (near : ptr.toNat < Guest.Native.signBound)
    (low : len.toNat < Guest.Native.signBound) :
    decodeBuffer s i.read v.type (Guest.Native.i32 ptr).word (Guest.Native.i32 len).word =
      .ok v := by
  refine decodeBuffer_payload payload ?_ small ?_
  · rw [Guest.Native.word_low low, length]
  · rw [Guest.Native.word_low near, ← length, stored]

theorem returned (allowed : 0 < s.maxResults) (found : i.memory? = some m)
    (uncoded : v.scalar? = none) (payload : v.payload? = some bytes)
    (stored : i.read ptr.toNat len.toNat = .ok bytes) (length : len.toNat = bytes.length)
    (small : bytes.length ≤ s.maxParamSize) : Returned s i m v ptr len := by
  have decoded : decodeFrom s i.read (returnedWords ptr len) [v.type] =
      (decodeBuffer s i.read v.type (Guest.Native.i32 ptr).word (Guest.Native.i32 len).word).map
        fun v => [v] := decodeFrom_buffer allowed uncoded _ _
  have long (sign : Guest.Native.signBound ≤ len.toNat) :=
    decoded.trans (congrArg _ (decodeBuffer_long found v.type _ sign))
  have high (sign : Guest.Native.signBound ≤ ptr.toNat)
      (low : len.toNat < Guest.Native.signBound) :=
    decoded.trans (congrArg _ (decodeBuffer_high found v.type (length ▸ small) sign low))
  refine ⟨⟨fun done => ?_, fun ⟨near, low⟩ => ?_⟩, high, long⟩
  · rcases Nat.lt_or_ge len.toNat Guest.Native.signBound with low | sign
    · rcases Nat.lt_or_ge ptr.toNat Guest.Native.signBound with near | sign
      · exact ⟨near, low⟩
      · cases (high sign low).symm.trans done
    · cases (long sign).symm.trans done
  · rw [decoded, decodeBuffer_low payload stored length small near low]
    rfl

theorem returned_slice (allowed : 0 < s.maxResults) (found : i.memory? = some m)
    (inside : ptr.toNat + len.toNat ≤ m.size) (small : len.toNat ≤ s.maxParamSize) :
    Returned s i m (.bytes (m.slice ptr.toNat len.toNat)) ptr len := by
  have length : len.toNat = (m.slice ptr.toNat len.toNat).length := by
    simp [Guest.Memory.slice]
  exact returned allowed found rfl rfl (Instance.read_inside found inside) length (length ▸ small)

end Marshal

namespace CallContext

open Marshal

-- Where binding puts one of the buffers. The arguments before it only move it along; those after it
-- leave its words and its bytes alone.
theorem bindFrom_place {s : MarshalSettings} {before after : List Value} {v : Value}
    {i next : Instance} {front words : List UInt64} {index : Nat} {done plan : Plan}
    (fits : Fits s (before ++ v :: after)) (uncoded : v.scalar? = none)
    (bound : bindFrom i (front ++ blankWords (before ++ v :: after)) done
      (segmentsFrom index front.length (before ++ v :: after)) = (next, words, plan, .ok ())) :
    ∃ ahead address back, words = front ++ ahead ++ UInt64.ofNat address ::
        UInt64.ofNat (v.payload?.getD []).length :: back ∧
      ahead.length = wordsNeeded (before.map Value.type) ∧ address < Instance.addressBound ∧
      (v.payload?.getD []).length < Instance.addressBound ∧
      next.read address (v.payload?.getD []).length = .ok (v.payload?.getD []) := by
  induction before generalizing i front index done with
  | nil =>
    obtain ⟨address, following, _, allocated, bound⟩ := bindFrom_buffer uncoded bound
    have place := Instance.allocate_parts allocated
    have later : Fits s after := fun w member => fits w (List.mem_cons_of_mem _ member)
    obtain ⟨⟨back, rfl, _⟩, kept⟩ := bindFrom_laid later bound
    exact ⟨[], address, back, by simp, rfl, place.small.1, place.small.2,
      kept _ _ _ place.cursor place.stored⟩
  | cons w rest ih =>
    have later : Fits s (rest ++ v :: after) := fun u member =>
      fits u (List.mem_cons_of_mem _ member)
    cases scaled : w.scalar? with
    | some word =>
      rw [List.cons_append, bindFrom_scalar scaled] at bound
      obtain ⟨ahead, address, back, rfl, length, facts⟩ := ih later bound
      refine ⟨word :: ahead, address, back, by simp, ?_, facts⟩
      rw [List.length_cons, length, List.map_cons, wordsNeeded_cons,
        Value.wordCount_scalar scaled, Nat.add_comm]
    | none =>
      obtain ⟨place, _, _, _, bound⟩ := bindFrom_buffer scaled bound
      obtain ⟨ahead, address, back, rfl, length, facts⟩ := ih later bound
      refine ⟨UInt64.ofNat place :: UInt64.ofNat (w.payload?.getD []).length :: ahead, address,
        back, by simp, ?_, facts⟩
      rw [List.length_cons, List.length_cons, length, List.map_cons, wordsNeeded_cons,
        Value.wordCount_buffer scaled]
      omega

-- A buffer argument that a guest is handed as two integers, after the words of those before it,
-- and that it returns once it has run, with the memory as it was.
structure Echoed (s : MarshalSettings) (next : Instance) (words : List UInt64)
    (before : List Value) (v : Value) (m : Guest.Memory) (ptr len : UInt32) : Prop where
  memory : next.memory? = some m
  inside : ptr.toNat + len.toNat ≤ m.size
  handed : Vm.nativeArgs [.i32, .i32] (words.drop (wordsNeeded (before.map Value.type))) =
    .ok [.i32 ptr, .i32 len]
  returned (later : Instance) : later.memory? = some m → Returned s later m v ptr len

theorem narrowed_toNat {n : Nat} (small : n < Instance.addressBound) :
    (UInt64.ofNat n).toUInt32.toNat = n := by
  rw [UInt64.toNat_toUInt32, Instance.word_toNat small]
  exact Nat.mod_eq_of_lt small

theorem bind_echoed {p : CallParams} {s : MarshalSettings} {execution : ExecutionSettings}
    {now : Nat} {c bound : CallContext} {i next : Instance} {before after : List Value} {v : Value}
    (allowed : 0 < s.maxResults) (built : build p s execution now = .ok c)
    (binding : c.bind i = (bound, next, .ok ())) (split : p.args = before ++ v :: after)
    (uncoded : v.scalar? = none) : ∃ m ptr len, Echoed s next bound.words before v m ptr len := by
  obtain ⟨fits, _, bindings⟩ := bind_parts built binding
  rw [split] at fits bindings
  obtain ⟨ahead, address, back, words, length, low, short, stored⟩ :=
    bindFrom_place fits uncoded bindings
  obtain ⟨m, found, inside⟩ := Instance.memory_of_read stored
  have place := narrowed_toNat low
  have size := narrowed_toNat short
  refine ⟨m, (UInt64.ofNat address).toUInt32, (UInt64.ofNat (v.payload?.getD []).length).toUInt32,
    found, ?_, ?_, fun later same => ?_⟩
  · rw [place, size]
    exact inside
  · rw [words, ← length, List.nil_append, List.drop_left]
    rfl
  · refine returned allowed same uncoded (Value.payload_buffer uncoded) ?_ size
      (fits v (by simp) uncoded)
    rw [place, size, Instance.read_ok_iff same]
    exact (Instance.read_ok_iff found).mp stored

-- The first part is about the bytes of any memory, the second about the buffers of any call.
theorem buffers_returned {s : MarshalSettings} (allowed : 0 < s.maxResults) :
    (∀ (i : Instance) (m : Guest.Memory) (ptr len : UInt32), i.memory? = some m →
      ptr.toNat + len.toNat ≤ m.size → len.toNat ≤ s.maxParamSize →
      Returned s i m (.bytes (m.slice ptr.toNat len.toNat)) ptr len) ∧
    ∀ (p : CallParams) (execution : ExecutionSettings) (now : Nat) (c bound : CallContext)
      (i next : Instance) (before after : List Value) (v : Value),
      build p s execution now = .ok c → c.bind i = (bound, next, .ok ()) →
      p.args = before ++ v :: after → v.scalar? = none →
      ∃ m ptr len, Echoed s next bound.words before v m ptr len := by
  constructor
  · intro i m ptr len found inside small
    exact returned_slice allowed found inside small
  · intro p execution now c bound i next before after v built binding split uncoded
    exact bind_echoed allowed built binding split uncoded

theorem buffers_returned_letter :
    decodeFrom {} pages.read (returnedWords 131000 3) [.bytes] = .ok [.bytes [7, 7, 7]] ∧
      ∃ c bound next m ptr len, build letter {} {} 0 = .ok c ∧
        c.bind pages = (bound, next, .ok ()) ∧
        Echoed {} next bound.words [.i32 (-5)] (.string "né") m ptr len := by
  have allowed : 0 < ({} : MarshalSettings).maxResults := by decide
  have returned := (buffers_returned allowed).1 pages _ 131000 3 rfl (by decide) (by decide)
  obtain ⟨m, ptr, len, echoed⟩ := (buffers_returned allowed).2 letter {} 0 _ _ pages _ [.i32 (-5)]
    [.f64 0x7FF8000000000001, .bytes [], .string "", .bytes [1, 2, 3], .bool true] (.string "né")
    rfl rfl rfl rfl
  exact ⟨returned.exactly.mpr (by decide), _, _, _, m, ptr, len, rfl, rfl, echoed⟩

def vast : Instance where
  id := "vast"
  contract := ⟨"vast", 0, { exports := [("memory", .memory 0)] }⟩
  live := some {
    functions := #[]
    tables := []
    globals := #[]
    memories := [⟨65536, 65536, .all 7, by decide, by decide⟩]
    meter := { hostCallFee := 0 } }
  heapCursor := 2147483648
  memoryLimitPages := 65536

def note : CallParams where
  entry := "main"
  feeLimit := 1
  memoryLimit := 65536
  args := [.bytes [1, 2]]

theorem buffers_lost :
    vast.memorySize = 4294967296 ∧ vast.read 2147483648 2 = .ok [7, 7] ∧
      decodeFrom {} vast.read (returnedWords 2147483648 2) [.bytes] =
        .error (Instance.outOfBounds 18446744071562067968 2 4294967296) ∧
      ∃ c bound next, build note {} {} 0 = .ok c ∧ c.bind vast = (bound, next, .ok ()) ∧
        Vm.nativeArgs [.i32, .i32] bound.words = .ok [.i32 2147483648, .i32 2] ∧
        next.read 2147483648 2 = .ok [1, 2] ∧
        decodeFrom {} next.read (returnedWords 2147483648 2) [.bytes] =
          .error (Instance.outOfBounds 18446744071562067968 2 4294967296) :=
  ⟨rfl, rfl, rfl, _, _, _, rfl, rfl, rfl, rfl, rfl⟩

end CallContext

end Tollgate
