import Tollgate.Proofs.Numerals
import Tollgate.Value.Text

namespace Tollgate

theorem ValueType.read_name (t : ValueType) : read t.name = .ok t := by
  cases t <;> rfl

theorem ValueType.colon_not_mem_name (t : ValueType) : ':' ∉ t.name.toList := by
  cases t <;> decide

namespace Value

-- A tag without a colon ends at the first one, whatever follows.
theorem splitColon_tagged {tag : String} (plain : ':' ∉ tag.toList) (raw : String) :
    splitColon? (tag ++ ":" ++ raw) = some (tag, raw) := by
  have tagged : ∀ c ∈ tag.toList, decide (c ≠ ':') = true := by
    intro c member
    exact decide_eq_true fun colon => plain (colon ▸ member)
  have spelled : (tag ++ ":" ++ raw).toList = tag.toList ++ ':' :: raw.toList := by
    simp
  unfold splitColon?
  dsimp only
  rw [spelled, List.dropWhile_append_of_pos tagged, List.takeWhile_append_of_pos tagged]
  simp

theorem read_tagged (t : ValueType) (raw : String) : read (t.name ++ ":" ++ raw) =
    (readAs t raw).mapError fun why => s!"invalid {t.name} '{raw}': {why}" := by
  rw [read, splitColon_tagged t.colon_not_mem_name]
  simp only [ValueType.read_name, bind, Except.bind]

def isFloat : Value → Bool
  | .f32 _ => true
  | .f64 _ => true
  | _ => false

theorem numeral_body (low high : Int) {n : Int} (above : low ≤ n) (below : n < high + 1)
    (make : Int → Value) : ((Text.readInteger low high (toString n)).map make).mapError
      (·.message) = .ok (make n) := by
  rw [Text.readInteger_toString above (Int.le_of_lt_add_one below)]
  rfl

theorem readAs_body {v : Value} (exact : v.isFloat = false) : readAs v.type v.body = .ok v := by
  cases v with
  | i32 n =>
    have read := numeral_body (-2147483648) 2147483647 n.le_toInt n.toInt_lt fun k =>
      i32 (Int32.ofInt k)
    exact read.trans (congrArg (Except.ok <| i32 ·) n.ofInt_toInt)
  | u32 n =>
    have read := numeral_body 0 4294967295 (Int.natCast_nonneg _) (Int.ofNat_lt.mpr n.toNat_lt)
      fun k => u32 (UInt32.ofNat k.toNat)
    exact read.trans (congrArg (Except.ok <| u32 ·) UInt32.ofNat_toNat)
  | i64 n =>
    have read := numeral_body (-9223372036854775808) 9223372036854775807 n.le_toInt n.toInt_lt
      fun k => i64 (Int64.ofInt k)
    exact read.trans (congrArg (Except.ok <| i64 ·) n.ofInt_toInt)
  | u64 n =>
    have read := numeral_body 0 18446744073709551615 (Int.natCast_nonneg _)
      (Int.ofNat_lt.mpr n.toNat_lt) fun k => u64 (UInt64.ofNat k.toNat)
    exact read.trans (congrArg (Except.ok <| u64 ·) UInt64.ofNat_toNat)
  | f32 bits => cases exact
  | f64 bits => cases exact
  | bool b => cases b <;> rfl
  | string text => rfl
  | bytes raw =>
    rw [type, body, readAs, Text.unhex_hex]
    rfl

theorem read_text {v : Value} (exact : v.isFloat = false) : read v.text = .ok v := by
  rw [text, read_tagged, readAs_body exact]
  rfl

theorem text_readBack : (∀ v : Value, v.isFloat = false → read v.text = .ok v) ∧
    ∀ v w : Value, v.isFloat = false → w.isFloat = false → v ≠ w → v.text ≠ w.text := by
  refine ⟨fun v exact => read_text exact, fun v w first second apart same => apart ?_⟩
  have both : Except.ok v = (Except.ok w : Except String Value) := by
    rw [← read_text first, same, read_text second]
  exact Except.ok.inj both

-- A text that looks like a tagged one, and the number that has no counterpart above zero.
theorem text_readBack_hard :
    (Value.string " I32:-7\n\x00é").isFloat = false ∧ (Value.i32 (-2147483648)).isFloat = false ∧
      read (Value.string " I32:-7\n\x00é").text = .ok (.string " I32:-7\n\x00é") ∧
      read (Value.i32 (-2147483648)).text = .ok (.i32 (-2147483648)) ∧
      (Value.string " I32:-7\n\x00é").text ≠ (Value.i32 (-2147483648)).text :=
  ⟨rfl, rfl, text_readBack.1 _ rfl, text_readBack.1 _ rfl,
    text_readBack.2 _ _ rfl rfl (by decide)⟩

theorem read_bytes (t : String) : read ("bytes:" ++ t) = ((Text.unhex t).map bytes).mapError
    fun why => s!"invalid bytes '{t}': {why.message}" := by
  have tagged : "bytes:" ++ t = ValueType.bytes.name ++ ":" ++ t := rfl
  rw [tagged, read_tagged, readAs]
  cases Text.unhex t <;> rfl

theorem read_bytes_ok_iff {t : String} {v : Value} :
    read ("bytes:" ++ t) = .ok v ↔ ∃ raw, v = .bytes raw ∧ Text.unhex t = .ok raw := by
  rw [read_bytes]
  cases Text.unhex t with
  | error flaw =>
    constructor
    · intro done
      cases done
    · rintro ⟨raw, _, decoded⟩
      cases decoded
  | ok raw =>
    constructor
    · intro done
      cases done
      exact ⟨raw, rfl, rfl⟩
    · rintro ⟨_, rfl, decoded⟩
      cases decoded
      rfl

structure ReadAsBytes (t : String) : Prop where
  exactly : (∃ v, read ("bytes:" ++ t) = .ok v) ↔ t.length % 2 = 0 ∧
    ∀ k c, t.toList[k]? = some c → Text.IsHexDigit c ∨ c = '+' ∧ k % 2 = 0
  result (v : Value) : read ("bytes:" ++ t) = .ok v → ∃ raw, v = .bytes raw ∧
    t.length = 2 * raw.length ∧ v.text = "bytes:" ++ String.ofList (t.toList.map Text.plainDigit)
  -- Without a sign in it the text is one of digits, and is written in lower case.
  unsigned : '+' ∉ t.toList → ((∃ v, read ("bytes:" ++ t) = .ok v) ↔
    t.length % 2 = 0 ∧ ∀ c ∈ t.toList, Text.IsHexDigit c)
  lower (v : Value) : '+' ∉ t.toList → read ("bytes:" ++ t) = .ok v →
    v.text = "bytes:" ++ Text.lowerAscii t

theorem readable_iff (t : String) :
    (∃ v, read ("bytes:" ++ t) = .ok v) ↔ Text.InPairs t.toList := by
  constructor
  · rintro ⟨v, done⟩
    obtain ⟨raw, _, decoded⟩ := read_bytes_ok_iff.mp done
    exact (Text.unhex_parts decoded).1
  · intro pairs
    obtain ⟨raw, decoded⟩ := Text.unhex_inPairs pairs
    exact ⟨.bytes raw, read_bytes_ok_iff.mpr ⟨raw, rfl, decoded⟩⟩

theorem text_of_bytes {t : String} {v : Value} (done : read ("bytes:" ++ t) = .ok v) :
    ∃ raw, v = .bytes raw ∧ t.length = 2 * raw.length ∧
      v.text = "bytes:" ++ String.ofList (t.toList.map Text.plainDigit) := by
  obtain ⟨raw, rfl, decoded⟩ := read_bytes_ok_iff.mp done
  obtain ⟨_, length, chars⟩ := Text.unhex_parts decoded
  refine ⟨raw, rfl, String.length_toList.symm.trans length, ?_⟩
  rw [← chars]
  rfl

theorem bytesText_exact (t : String) : ReadAsBytes t := by
  refine ⟨?_, fun v done => text_of_bytes done, fun unsigned => ?_, fun v unsigned done => ?_⟩
  · rw [readable_iff, ← String.length_toList]
    exact Iff.rfl
  · rw [readable_iff, Text.inPairs_unsigned unsigned, String.length_toList]
  · obtain ⟨raw, _, _, spelled⟩ := text_of_bytes done
    have lowered : t.toList.map Text.plainDigit = t.toList.map Char.toLower :=
      List.map_congr_left fun c member =>
        if_neg fun (plus : c = '+') => unsigned (plus ▸ member)
    rw [spelled, lowered]
    rfl

theorem bytesText_signed : ¬ ∀ t : String, (∃ v, read ("bytes:" ++ t) = .ok v) ↔
    t.length % 2 = 0 ∧ ∀ c ∈ t.toList, Text.IsHexDigit c := by
  intro claimed
  have digits := (claimed "+f").mp ⟨.bytes [15], rfl⟩
  exact absurd (digits.2 '+' (by decide)) (by decide)

end Value

end Tollgate
