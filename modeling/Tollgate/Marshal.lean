import Tollgate.Count
import Tollgate.Fault
import Tollgate.Settings
import Tollgate.Text.Utf8
import Tollgate.Value

namespace Tollgate

namespace Value

def scalar? : Value → Option UInt64
  | .i32 v => some v.toInt64.toUInt64
  | .u32 v => some v.toUInt64
  | .i64 v => some v.toUInt64
  | .u64 v => some v
  | .f32 bits => some bits.toUInt64
  | .f64 bits => some bits
  | .bool v => some (if v then 1 else 0)
  | .string _ => none
  | .bytes _ => none

def ofScalar? (word : UInt64) : ValueType → Option Value
  | .i32 => some (.i32 word.toUInt32.toInt32)
  | .u32 => some (.u32 word.toUInt32)
  | .i64 => some (.i64 word.toInt64)
  | .u64 => some (.u64 word)
  | .f32 => some (.f32 word.toUInt32)
  | .f64 => some (.f64 word)
  | .bool => some (.bool (word.toUInt32 != 0))
  | .string => none
  | .bytes => none

end Value

-- A buffer argument that waits for its place in linear memory.
structure Segment where
  name : String
  wordIndex : Nat
  bytes : List UInt8
  address : Option Nat
deriving Repr, DecidableEq, Inhabited

def Segment.size (s : Segment) : Nat := s.bytes.length

def Segment.isBound (s : Segment) : Bool := s.address.isSome

abbrev Plan := List Segment

def Plan.totalSize (p : Plan) : Nat := sumOf (p.map Segment.size)

def Plan.isBound (p : Plan) : Bool := p.all Segment.isBound

structure Encoded where
  words : List UInt64 := []
  types : List ValueType := []
  plan : Plan := []
deriving Repr, DecidableEq, Inhabited

namespace Marshal

def tooManyParams (count limit : Nat) : Fault :=
  (Fault.validation "TOO_MANY_PARAMS" "Too many arguments").withDetails
    s!"{count} arguments, limit is {limit}"

def paramTooLarge (index size limit : Nat) : Fault :=
  (Fault.validation "PARAM_TOO_LARGE" "Argument exceeds the size limit").withDetails
    s!"arg{index} is {size} bytes, limit is {limit}"

def tooManyResults (count limit : Nat) : Fault :=
  (Fault.validation "TOO_MANY_RESULTS" "Too many result values").withDetails
    s!"{count} results, limit is {limit}"

def resultCountMismatch (words expected : Nat) : Fault :=
  (Fault.validation "RESULT_COUNT_MISMATCH"
    "Result count does not match declared return types").withDetails
    s!"got {words} words, declared types need {expected}"

def resultNeedsMemory (type : ValueType) : Fault :=
  (Fault.validation "RESULT_NEEDS_MEMORY"
    "Result type must be read from linear memory").withDetails type.name

def resultTooLarge (size : Nat) : Fault :=
  (Fault.validation "RESULT_TOO_LARGE" "Result exceeds the size limit").withDetails
    s!"{size} bytes"

def resultNotUtf8 (flaw : Text.Utf8Flaw) : Fault :=
  (Fault.validation "INVALID_UTF8" "String result is not UTF-8").withSource flaw.message

def encodeArg (s : MarshalSettings) (index : Nat) (done : Encoded) (v : Value) :
    Except Fault Encoded :=
  match v.scalar? with
  | some word =>
    .ok { done with words := done.words ++ [word], types := done.types ++ [v.type] }
  | none =>
    let bytes := v.payload?.getD []
    if s.maxParamSize < bytes.length then
      .error (paramTooLarge index bytes.length s.maxParamSize)
    else
      .ok { words := done.words ++ [0, UInt64.ofNat bytes.length]
            types := done.types ++ [v.type]
            plan := done.plan ++ [⟨s!"arg{index}", done.words.length, bytes, none⟩] }

def encodeFrom (s : MarshalSettings) (index : Nat) (done : Encoded) :
    List Value → Except Fault Encoded
  | [] => .ok done
  | v :: rest =>
    match encodeArg s index done v with
    | .error f => .error f
    | .ok next => encodeFrom s (index + 1) next rest

def encode (s : MarshalSettings) (args : List Value) : Except Fault Encoded :=
  if s.maxParams < args.length then .error (tooManyParams args.length s.maxParams)
  else encodeFrom s 0 {} args

def wordsNeeded (types : List ValueType) : Nat := sumOf (types.map ValueType.wordCount)

def checkShape (s : MarshalSettings) (words : List UInt64) (types : List ValueType) :
    Except Fault Unit :=
  if s.maxResults < types.length then .error (tooManyResults types.length s.maxResults)
  else if wordsNeeded types ≠ words.length then
    .error (resultCountMismatch words.length (wordsNeeded types))
  else .ok ()

def decodeScalars : List ValueType → List UInt64 → Except Fault (List Value)
  | t :: types, w :: words =>
    match Value.ofScalar? w t with
    | none => .error (resultNeedsMemory t)
    | some v => (decodeScalars types words).map (v :: ·)
  | _, _ => .ok []

-- Results that need no linear memory.
def decode (s : MarshalSettings) (words : List UInt64) (types : List ValueType) :
    Except Fault (List Value) :=
  match checkShape s words types with
  | .error f => .error f
  | .ok () => decodeScalars types words

def decodeBuffer (s : MarshalSettings) (read : Nat → Nat → Except Fault (List UInt8))
    (t : ValueType) (address size : UInt64) : Except Fault Value :=
  if s.maxParamSize < size.toNat then .error (resultTooLarge size.toNat)
  else match read address.toNat size.toNat with
    | .error f => .error f
    | .ok bytes =>
      match t with
      | .string =>
        match Text.ofUtf8 bytes with
        | .ok text => .ok (.string text)
        | .error flaw => .error (resultNotUtf8 flaw)
      | _ => .ok (.bytes bytes)

def decodeMixed (s : MarshalSettings) (read : Nat → Nat → Except Fault (List UInt8)) :
    List ValueType → List UInt64 → Except Fault (List Value)
  | [], _ => .ok []
  | t :: types, words =>
    match words with
    | [] => .ok []
    | w :: rest =>
      match Value.ofScalar? w t with
      | some v => (decodeMixed s read types rest).map (v :: ·)
      | none =>
        match rest with
        | [] => .ok []
        | n :: rest =>
          match decodeBuffer s read t w n with
          | .error f => .error f
          | .ok v => (decodeMixed s read types rest).map (v :: ·)

def decodeFrom (s : MarshalSettings) (read : Nat → Nat → Except Fault (List UInt8))
    (words : List UInt64) (types : List ValueType) : Except Fault (List Value) :=
  match checkShape s words types with
  | .error f => .error f
  | .ok () => decodeMixed s read types words

end Marshal

end Tollgate
