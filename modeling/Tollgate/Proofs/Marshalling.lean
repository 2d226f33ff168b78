import Tollgate.Proofs.Execution
import Tollgate.Proofs.LinearMemory

namespace Tollgate

theorem Text.ofUtf8_bytesOf (text : String) : ofUtf8 (bytesOf text) = .ok text := by
  have whole : (⟨(bytesOf text).toArray⟩ : ByteArray) = text.toByteArray := by
    unfold bytesOf
    rw [String.toUTF8_eq_toByteArray, Array.toArray_toList]
  have read : String.fromUTF8? text.toByteArray = some text := by
    rw [String.fromUTF8?, dif_pos text.isValidUTF8]
    rfl
  rw [ofUtf8, whole, read]

namespace Value

-- A word of 64 bits keeps the sign of what it holds in its high half.
theorem narrow_widen (n : Int32) : n.toInt64.toUInt64.toUInt32.toInt32 = n := by
  apply Int32.toBitVec_inj.mp
  change (n.toBitVec.signExtend 64).setWidth 32 = n.toBitVec
  ext k below
  simp only [BitVec.getElem_setWidth, BitVec.getLsbD_signExtend]
  simp [below, Nat.lt_trans below (by decide : 32 < 64)]

theorem ofScalar_scalar {v : Value} {word : UInt64} (coded : v.scalar? = some word) :
    ofScalar? word v.type = some v := by
  cases v with
  | i32 n =>
    cases coded
    exact congrArg (fun n => some (Value.i32 n)) (narrow_widen n)
  | u32 n =>
    cases coded
    exact congrArg (fun n => some (Value.u32 n)) (by simp)
  | i64 n =>
    cases coded
    rfl
  | u64 n =>
    cases coded
    rfl
  | f32 bits =>
    cases coded
    exact congrArg (fun n => some (Value.f32 n)) (by simp)
  | f64 bits =>
    cases coded
    rfl
  | bool b =>
    cases coded
    cases b <;> rfl
  | string text => cases coded
  | bytes raw => cases coded

theorem wordCount_scalar {v : Value} {word : UInt64} (coded : v.scalar? = some word) :
    v.type.wordCount = 1 := by
  cases v with
  | string text => cases coded
  | bytes raw => cases coded
  | _ => rfl

theorem payload_buffer {v : Value} (uncoded : v.scalar? = none) :
    v.payload? = some (v.payload?.getD []) := by
  cases v with
  | string text => rfl
  | bytes raw => rfl
  | _ => cases uncoded

theorem wordCount_buffer {v : Value} (uncoded : v.scalar? = none) : v.type.wordCount = 2 := by
  cases v with
  | string text => rfl
  | bytes raw => rfl
  | _ => cases uncoded

theorem ofScalar_buffer {v : Value} (uncoded : v.scalar? = none) (word : UInt64) :
    ofScalar? word v.type = none := by
  cases v with
  | string text => rfl
  | bytes raw => rfl
  | _ => cases uncoded

end Value

namespace Marshal

-- Words that hold values: scalars as they are, buffers as the place where they can be read.
inductive Laid (s : MarshalSettings) (read : Nat → Nat → Except Fault (List UInt8)) :
    List Value → List UInt64 → Prop
  | nil : Laid s read [] []
  | scalar {v : Value} {word : UInt64} {values : List Value} {words : List UInt64} :
      v.scalar? = some word → Laid s read values words → Laid s read (v :: values) (word :: words)
  | buffer {v : Value} {bytes : List UInt8} {address size : UInt64} {values : List Value}
      {words : List UInt64} : v.scalar? = none → v.payload? = some bytes →
      size.toNat = bytes.length → bytes.length ≤ s.maxParamSize →
      read address.toNat bytes.length = .ok bytes → Laid s read values words →
      Laid s read (v :: values) (address :: size :: words)

variable {s : MarshalSettings} {read : Nat → Nat → Except Fault (List UInt8)}
  {values : List Value} {words : List UInt64}

theorem checkShape_ok_iff {types : List ValueType} : checkShape s words types = .ok () ↔
    types.length ≤ s.maxResults ∧ wordsNeeded types = words.length := by
  unfold checkShape
  split
  · rename_i many
    simp [Nat.not_le.mpr many]
  · rename_i few
    split
    · rename_i differ
      simp [differ]
    · rename_i same
      simp [Nat.le_of_not_lt few, Decidable.not_not.mp same]

theorem wordsNeeded_cons (t : ValueType) (types : List ValueType) :
    wordsNeeded (t :: types) = t.wordCount + wordsNeeded types := rfl

theorem Laid.wordsNeeded (laid : Laid s read values words) :
    Marshal.wordsNeeded (values.map Value.type) = words.length := by
  induction laid with
  | nil => rfl
  | scalar coded rest ih =>
    rw [List.map_cons, wordsNeeded_cons, ih, Value.wordCount_scalar coded, List.length_cons,
      Nat.add_comm]
  | buffer uncoded payload size small stored rest ih =>
    rw [List.map_cons, wordsNeeded_cons, ih, Value.wordCount_buffer uncoded, List.length_cons,
      List.length_cons, Nat.add_comm]

theorem decodeBuffer_payload {v : Value} {bytes : List UInt8} {address size : UInt64}
    (payload : v.payload? = some bytes) (length : size.toNat = bytes.length)
    (small : bytes.length ≤ s.maxParamSize) (stored : read address.toNat bytes.length = .ok bytes) :
    decodeBuffer s read v.type address size = .ok v := by
  unfold decodeBuffer
  rw [length, if_neg (Nat.not_lt.mpr small), stored]
  cases v with
  | string text =>
    cases payload
    simp only [Value.type, Text.ofUtf8_bytesOf]
  | bytes raw =>
    cases payload
    rfl
  | _ => cases payload

theorem Laid.decodeMixed (laid : Laid s read values words) :
    Marshal.decodeMixed s read (values.map Value.type) words = .ok values := by
  induction laid with
  | nil => rfl
  | scalar coded rest ih =>
    simp only [List.map_cons, Marshal.decodeMixed, Value.ofScalar_scalar coded, ih, Except.map]
  | buffer uncoded payload length small stored rest ih =>
    simp only [List.map_cons, Marshal.decodeMixed, Value.ofScalar_buffer uncoded,
      decodeBuffer_payload payload length small stored, ih, Except.map]

theorem Laid.decodeFrom (laid : Laid s read values words) (few : values.length ≤ s.maxResults) :
    Marshal.decodeFrom s read words (values.map Value.type) = .ok values := by
  have shape : checkShape s words (values.map Value.type) = .ok () :=
    checkShape_ok_iff.mpr ⟨by rwa [List.length_map], laid.wordsNeeded⟩
  rw [Marshal.decodeFrom, shape]
  exact laid.decodeMixed

def blankWords : List Value → List UInt64
  | [] => []
  | v :: rest =>
    match v.scalar? with
    | some word => word :: blankWords rest
    | none => 0 :: UInt64.ofNat (v.payload?.getD []).length :: blankWords rest

-- The buffers of values that stand from position `index` and from word `word` on.
def segmentsFrom (index word : Nat) : List Value → Plan
  | [] => []
  | v :: rest =>
    match v.scalar? with
    | some _ => segmentsFrom (index + 1) (word + 1) rest
    | none =>
      ⟨s!"arg{index}", word, v.payload?.getD [], none⟩ :: segmentsFrom (index + 1) (word + 2) rest

def Fits (s : MarshalSettings) (values : List Value) : Prop :=
  ∀ v ∈ values, v.scalar? = none → (v.payload?.getD []).length ≤ s.maxParamSize

theorem encodeFrom_parts {index : Nat} {done result : Encoded}
    (coded : encodeFrom s index done values = .ok result) :
    result = ⟨done.words ++ blankWords values, done.types ++ values.map Value.type,
        done.plan ++ segmentsFrom index done.words.length values⟩ ∧ Fits s values := by
  induction values generalizing index done with
  | nil =>
    cases coded
    exact ⟨by simp [blankWords, segmentsFrom], by simp [Fits]⟩
  | cons v rest ih =>
    unfold encodeFrom encodeArg at coded
    cases scaled : v.scalar? with
    | some word =>
      simp only [scaled] at coded
      obtain ⟨rfl, fits⟩ := ih coded
      refine ⟨by simp [blankWords, segmentsFrom, scaled], ?_⟩
      intro w member uncoded
      rcases List.mem_cons.mp member with rfl | later
      · rw [scaled] at uncoded
        cases uncoded
      · exact fits w later uncoded
    | none =>
      simp only [scaled] at coded
      split at coded
      · cases coded
      · rename_i next stepped
        split at stepped
        · cases stepped
        · rename_i small
          cases stepped
          obtain ⟨rfl, fits⟩ := ih coded
          refine ⟨by simp [blankWords, segmentsFrom, scaled], ?_⟩
          intro w member uncoded
          rcases List.mem_cons.mp member with rfl | later
          · exact Nat.le_of_not_lt small
          · exact fits w later uncoded

theorem encode_parts {encoded : Encoded} (coded : encode s values = .ok encoded) :
    encoded = ⟨blankWords values, values.map Value.type, segmentsFrom 0 0 values⟩ ∧
      Fits s values := by
  unfold encode at coded
  split at coded
  · cases coded
  · simpa using encodeFrom_parts coded

end Marshal

namespace Instance

theorem memory_setMemory {i : Instance} {m : Guest.Memory} (found : i.memory? = some m)
    (written : Guest.Memory) : (i.setMemory written).memory? = some written := by
  unfold memory? at found
  split at found
  · rename_i live index opened exported
    obtain ⟨within, _⟩ := List.getElem?_eq_some_iff.mp found
    have kept : ({ i with live := i.live.map fun live =>
        { live with memories := live.memories.set index written } } : Instance).memoryIndex? =
        some index := exported
    unfold setMemory
    rw [exported]
    dsimp only
    unfold memory?
    rw [kept]
    simp only [opened, Option.map_some, List.getElem?_set_self within]
  · cases found

theorem word_toNat {n : Nat} (small : n < addressBound) : (UInt64.ofNat n).toNat = n := by
  have wide : addressBound ≤ UInt64.size := by decide
  exact UInt64.toNat_ofNat_of_lt' (Nat.lt_of_lt_of_le small wide)

theorem alignUp_le (n : Nat) : n ≤ alignUp n := by
  unfold alignUp alignment
  omega

theorem open_of_memory {i : Instance} {m : Guest.Memory} (found : i.memory? = some m) :
    i.isClosed = false := by
  unfold memory? at found
  split at found
  · rename_i live _ opened _
    rw [isClosed, opened]
    rfl
  · cases found

theorem memorySize_eq {i : Instance} {m : Guest.Memory} (found : i.memory? = some m) :
    i.memorySize = m.size := by
  rw [memorySize, found]

theorem read_ok_iff {i : Instance} {m : Guest.Memory} (found : i.memory? = some m)
    {ptr len : Nat} {bytes : List UInt8} :
    i.read ptr len = .ok bytes ↔ m.read? ptr len = some bytes := by
  simp only [read, open_of_memory found, found, Bool.false_eq_true, if_false]
  cases m.read? ptr len <;> simp

-- Reads that came out well below an address come out the same later.
def ReadsKept (below : Nat) (before after : Instance) : Prop :=
  ∀ ptr len bytes, ptr + len ≤ below → before.read ptr len = .ok bytes →
    after.read ptr len = .ok bytes

structure Allocated (i : Instance) (bytes : List UInt8) (address : Nat) (next : Instance) :
    Prop where
  placed : address = i.heapCursor
  small : address < addressBound ∧ bytes.length < addressBound
  stored : next.read address bytes.length = .ok bytes
  cursor : address + bytes.length ≤ next.heapCursor
  kept : ReadsKept i.heapCursor i next

theorem allocate_parts {i next : Instance} {bytes : List UInt8} {address : Nat}
    (allocated : i.allocate bytes = .ok (address, next)) : Allocated i bytes address next := by
  obtain ⟨rfl, small, m, written, found, stored, rfl⟩ := allocate_ok allocated
  have room := Guest.Memory.write_room stored
  have after (cursor : Nat) : ({ i.setMemory written with heapCursor := cursor } :
      Instance).memory? = some written := memory_setMemory found written
  refine ⟨rfl, small, ?_, ?_, ?_⟩
  · exact (read_ok_iff (after _)).mpr (Guest.Memory.read_write stored)
  · exact Nat.le_min.mpr ⟨alignUp_le _, memorySize_eq found ▸ room⟩
  · intro ptr len old below done
    rw [read_ok_iff (after _), Guest.Memory.read_write_before stored below]
    exact (read_ok_iff found).mp done

end Instance

namespace CallContext

open Marshal

theorem bindFrom_scalar {v : Value} {rest : List Value} {word : UInt64} {i : Instance}
    {front : List UInt64} {index : Nat} {done : Plan} (scaled : v.scalar? = some word) :
    bindFrom i (front ++ blankWords (v :: rest)) done
        (segmentsFrom index front.length (v :: rest)) =
      bindFrom i ((front ++ [word]) ++ blankWords rest) done
        (segmentsFrom (index + 1) (front ++ [word]).length rest) := by
  simp [blankWords, segmentsFrom, scaled]

theorem bindFrom_buffer {v : Value} {rest : List Value} {i next : Instance}
    {front words : List UInt64} {index : Nat} {done plan : Plan} (uncoded : v.scalar? = none)
    (bound : bindFrom i (front ++ blankWords (v :: rest)) done
      (segmentsFrom index front.length (v :: rest)) = (next, words, plan, .ok ())) :
    ∃ address following later, i.allocate (v.payload?.getD []) = .ok (address, following) ∧
      bindFrom following
        ((front ++ [UInt64.ofNat address, UInt64.ofNat (v.payload?.getD []).length]) ++
          blankWords rest) later
        (segmentsFrom (index + 1) (front ++ [UInt64.ofNat address,
          UInt64.ofNat (v.payload?.getD []).length]).length rest) =
        (next, words, plan, .ok ()) := by
  simp only [segmentsFrom, uncoded, bindFrom] at bound
  split at bound
  · cases bound
  · rename_i address following allocated
    have shifted : (front ++ blankWords (v :: rest)).set front.length (UInt64.ofNat address) =
        (front ++ [UInt64.ofNat address, UInt64.ofNat (v.payload?.getD []).length]) ++
          blankWords rest := by
      simp [blankWords, uncoded]
    have moved : segmentsFrom (index + 1) (front.length + 2) rest =
        segmentsFrom (index + 1) (front ++ [UInt64.ofNat address,
          UInt64.ofNat (v.payload?.getD []).length]).length rest := by
      simp
    rw [shifted, moved] at bound
    exact ⟨address, following, _, allocated, bound⟩

-- Each buffer is written where the one before it ends at the latest, so that what was laid out
-- stays laid out. `front` holds the words of the arguments already looked at.
theorem bindFrom_laid {s : MarshalSettings} {values : List Value} {i next : Instance}
    {front words : List UInt64} {index : Nat} {done plan : Plan} (fits : Fits s values)
    (bound : bindFrom i (front ++ blankWords values) done
      (segmentsFrom index front.length values) = (next, words, plan, .ok ())) :
    (∃ back, words = front ++ back ∧ Laid s next.read values back) ∧
      Instance.ReadsKept i.heapCursor i next := by
  induction values generalizing i front index done with
  | nil =>
    cases bound
    exact ⟨⟨[], rfl, .nil⟩, fun _ _ _ _ done => done⟩
  | cons v rest ih =>
    have later : Fits s rest := fun w member => fits w (List.mem_cons_of_mem _ member)
    cases scaled : v.scalar? with
    | some word =>
      rw [bindFrom_scalar scaled] at bound
      obtain ⟨⟨back, rfl, laid⟩, kept⟩ := ih later bound
      exact ⟨⟨word :: back, by simp, .scalar scaled laid⟩, kept⟩
    | none =>
      obtain ⟨address, following, _, allocated, bound⟩ := bindFrom_buffer scaled bound
      have place := Instance.allocate_parts allocated
      -- The buffers that follow are written behind this one, so that its bytes stay readable.
      obtain ⟨⟨back, rfl, laid⟩, kept⟩ := ih later bound
      have stored := kept _ _ _ place.cursor place.stored
      have address32 := Instance.word_toNat place.small.1
      have length32 := Instance.word_toNat place.small.2
      refine ⟨⟨UInt64.ofNat address :: UInt64.ofNat (v.payload?.getD []).length :: back, by simp,
        .buffer scaled (Value.payload_buffer scaled) length32
          (fits v List.mem_cons_self scaled) (address32.symm ▸ stored) laid⟩, ?_⟩
      intro ptr len bytes below done
      refine kept ptr len bytes ?_ (place.kept ptr len bytes below done)
      have := place.cursor
      rw [place.placed] at this
      omega

variable {p : CallParams} {marshal : MarshalSettings} {execution : ExecutionSettings} {now : Nat}
  {c bound : CallContext} {i next : Instance}

theorem bind_parts (built : build p marshal execution now = .ok c)
    (binding : c.bind i = (bound, next, .ok ())) :
    Fits marshal p.args ∧ ∃ plan, bindFrom i ([] ++ blankWords p.args) []
      (segmentsFrom 0 ([] : List UInt64).length p.args) = (next, bound.words, plan, .ok ()) := by
  obtain ⟨_, _, coded⟩ := build_parts built
  obtain ⟨parts, fits⟩ := encode_parts coded
  injection parts with words types plan
  unfold bind at binding
  split at binding
  rename_i later filled placed result bindings
  cases binding
  rw [words, plan] at bindings
  exact ⟨fits, placed, bindings⟩

theorem bind_laid (built : build p marshal execution now = .ok c)
    (binding : c.bind i = (bound, next, .ok ())) : Laid marshal next.read p.args bound.words := by
  obtain ⟨fits, _, bindings⟩ := bind_parts built binding
  obtain ⟨⟨back, words, laid⟩, _⟩ := bindFrom_laid fits bindings
  rw [words]
  exact laid

theorem bind_decodeFrom (built : build p marshal execution now = .ok c)
    (few : p.args.length ≤ marshal.maxResults) (binding : c.bind i = (bound, next, .ok ())) :
    decodeFrom marshal next.read bound.words bound.argTypes = .ok p.args := by
  have types : bound.argTypes = p.args.map Value.type := by
    obtain ⟨_, _, coded⟩ := build_parts built
    rw [bind_context binding]
    exact congrArg Encoded.types (encode_parts coded).1
  rw [types]
  exact (bind_laid built binding).decodeFrom few

def pages : Instance where
  id := "pages"
  contract := ⟨"pages", 0, { exports := [("memory", .memory 0)] }⟩
  live := some {
    functions := #[]
    tables := []
    globals := #[]
    memories := [⟨2, 2, .all 7, by decide, by decide⟩]
    meter := { hostCallFee := 0 } }
  heapCursor := 131042
  memoryLimitPages := 2

-- Scalars and buffers in turn, with empty buffers and a number that is none among them.
def letter : CallParams where
  entry := "main"
  feeLimit := 1
  memoryLimit := 65536
  args := [.i32 (-5), .string "né", .f64 0x7FF8000000000001, .bytes [], .string "",
    .bytes [1, 2, 3], .bool true]

theorem bind_decodeFrom_letter :
    ∃ c bound next, build letter {} {} 0 = .ok c ∧ letter.args.length ≤ 16 ∧
      c.bind pages = (bound, next, .ok ()) ∧ next.heapCursor = 131056 ∧
      decodeFrom {} next.read bound.words bound.argTypes = .ok letter.args :=
  ⟨_, _, _, rfl, by decide, rfl, rfl,
    @bind_decodeFrom letter {} {} 0 _ _ pages _ rfl (by decide) rfl⟩

end CallContext

end Tollgate
