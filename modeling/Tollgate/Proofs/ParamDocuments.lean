import Tollgate.CallParams
import Tollgate.Proofs.ValueText

namespace Tollgate

namespace Document

theorem asInt?_int (low high : Int) {n : Int} (above : low ≤ n) (below : n < high + 1) :
    (int n).asInt? low high = some n :=
  if_pos ⟨above, Int.le_of_lt_add_one below⟩

theorem asNat?_nat (high : Nat) {n : Nat} (below : n < high + 1) :
    (nat n).asNat? high = some n := by
  have within : (nat n).asInt? 0 high = some (n : Int) :=
    asInt?_int 0 high (Int.natCast_nonneg n) (Int.ofNat_lt.mpr below)
  rw [asNat?, within]
  rfl

-- By induction on the items; each is read by itself.
theorem asList?_map {f : Document → Option α} {g : α → Document} {xs : List α}
    (reads : ∀ x ∈ xs, f (g x) = some x) : (list (xs.map g)).asList? f = some xs := by
  have items : (xs.map g).mapM f = some xs := by
    induction xs with
    | nil => rfl
    | cons x rest ih =>
      have first : f (g x) = some x := reads x List.mem_cons_self
      have others := ih fun y member => reads y (List.mem_cons_of_mem x member)
      rw [List.map_cons, List.mapM_cons, first, others]
      rfl
  exact items

theorem asInt32?_int (n : Int32) : (int n.toInt).asInt32? = some n := by
  have within := asInt?_int (-2147483648) 2147483647 n.le_toInt n.toInt_lt
  rw [asInt32?, within]
  exact congrArg some n.ofInt_toInt

theorem asUInt32?_nat (n : UInt32) : (nat n.toNat).asUInt32? = some n := by
  rw [asUInt32?, asNat?_nat 4294967295 n.toNat_lt]
  exact congrArg some UInt32.ofNat_toNat

theorem asInt64?_int (n : Int64) : (int n.toInt).asInt64? = some n := by
  have within := asInt?_int (-9223372036854775808) 9223372036854775807 n.le_toInt n.toInt_lt
  rw [asInt64?, within]
  exact congrArg some n.ofInt_toInt

theorem asUInt64?_nat (n : UInt64) : (nat n.toNat).asUInt64? = some n := by
  rw [asUInt64?, asNat?_nat 18446744073709551615 n.toNat_lt]
  exact congrArg some UInt64.ofNat_toNat

theorem asBytes?_list (raw : List UInt8) :
    (list (raw.map fun b => nat b.toNat)).asBytes? = some raw := by
  refine asList?_map fun b _ => ?_
  rw [asNat?_nat 255 b.toNat_lt]
  exact congrArg some UInt8.ofNat_toNat

end Document

open Document

theorem ValueType.ofDocument?_toDocument (t : ValueType) : ofDocument? t.toDocument = some t := by
  cases t <;> rfl

namespace Value

theorem ofContent?_content {v : Value} (exact : v.isFloat = false) :
    ofContent? v.type v.content = some v := by
  cases v with
  | i32 n => exact congrArg (Option.map i32) (asInt32?_int n)
  | u32 n => exact congrArg (Option.map u32) (asUInt32?_nat n)
  | i64 n => exact congrArg (Option.map i64) (asInt64?_int n)
  | u64 n => exact congrArg (Option.map u64) (asUInt64?_nat n)
  | f32 bits => cases exact
  | f64 bits => cases exact
  | bool b => rfl
  | string text => rfl
  | bytes raw => exact congrArg (Option.map bytes) (asBytes?_list raw)

theorem ofDocument?_toDocument {v : Value} (exact : v.isFloat = false) :
    ofDocument? v.toDocument = some v := by
  have tag := v.type.ofDocument?_toDocument
  have body := ofContent?_content exact
  have split : v.toDocument.record? ["type", "value"] =
      some [some v.type.toDocument, some v.content] := rfl
  simp only [ofDocument?, split, tag, body, Option.bind_eq_bind, Option.bind_some]

end Value

namespace CallParams

structure InRange (p : CallParams) : Prop where
  feeLimit : p.feeLimit ≤ 18446744073709551615
  memoryLimit : p.memoryLimit ≤ 4294967295
  early : -9223372036854775808 ≤ p.timeout
  late : p.timeout ≤ 9223372036854775807
  blockHeight : p.blockHeight ≤ 18446744073709551615

theorem record?_toDocument (p : CallParams) : p.toDocument.record? fieldNames =
    some [some (.text p.entry), some (.nat p.feeLimit), some (.nat p.memoryLimit),
      some (.int p.timeout), some (.text p.caller), some (.text p.contractAddress),
      some (.nat p.blockHeight), none, some (.list (p.args.map Value.toDocument)),
      some (.list (p.returnTypes.map ValueType.toDocument))] :=
  rfl

-- Floating-point arguments are left out: the text of a document has no numbers that are infinite
-- or undefined.
theorem document_readBack (p : CallParams) (range : p.InRange)
    (exact : ∀ v ∈ p.args, v.isFloat = false) :
    ofDocument? p.toDocument = some { p with payload := [] } := by
  have fee : asSize? (.nat p.feeLimit) = some p.feeLimit :=
    asNat?_nat 18446744073709551615 (Nat.lt_succ_of_le range.feeLimit)
  have memory : asSmall? (.nat p.memoryLimit) = some p.memoryLimit :=
    asNat?_nat 4294967295 (Nat.lt_succ_of_le range.memoryLimit)
  have height : asSize? (.nat p.blockHeight) = some p.blockHeight :=
    asNat?_nat 18446744073709551615 (Nat.lt_succ_of_le range.blockHeight)
  have timeout : asInt? (-9223372036854775808) 9223372036854775807 (.int p.timeout) =
      some p.timeout :=
    asInt?_int _ _ range.early (Int.lt_add_one_of_le range.late)
  have args : asList? Value.ofDocument? (.list (p.args.map Value.toDocument)) = some p.args :=
    asList?_map fun v member => Value.ofDocument?_toDocument (exact v member)
  have returns : asList? ValueType.ofDocument?
      (.list (p.returnTypes.map ValueType.toDocument)) = some p.returnTypes :=
    asList?_map fun t _ => t.ofDocument?_toDocument
  -- The payload is the one field the document does not have, so it falls back to no bytes.
  simp only [ofDocument?, record?_toDocument, fieldOr, asText?, fee, memory, height, timeout, args,
    returns, Option.bind_eq_bind, Option.bind_some, Option.pure_def]

def furthest : CallParams where
  entry := ""
  feeLimit := 18446744073709551615
  memoryLimit := 4294967295
  timeout := -9223372036854775808
  caller := "\"payload\": [1]"
  blockHeight := 18446744073709551615
  payload := [0, 97, 115, 109]
  args := [.i32 (-2147483648), .u32 4294967295, .i64 (-9223372036854775808),
    .u64 18446744073709551615, .bool false, .string "\u0000", .bytes [0, 255], .bytes []]
  returnTypes := ValueType.all

theorem document_readBack_furthest : furthest.InRange ∧
    (∀ v ∈ furthest.args, v.isFloat = false) ∧
    ofDocument? furthest.toDocument = some { furthest with payload := [] } := by
  have range : furthest.InRange := by constructor <;> decide
  have exact : ∀ v ∈ furthest.args, v.isFloat = false := by decide
  exact ⟨range, exact, document_readBack furthest range exact⟩

end CallParams

end Tollgate
