import Tollgate.Text.Hex
import Tollgate.Text.Integer

namespace Tollgate.Text

section Decimal

variable {low high : Int} {digits : List Char}

theorem decimalDigit_of_isDigit {c : Char} (digit : c.isDigit = true) :
    decimalDigit? c = some (c.toNat - '0'.toNat) := by
  have within : '0' ≤ c ∧ c ≤ '9' := by
    simpa [Char.isDigit, Char.le_def] using digit
  rw [decimalDigit?, if_pos within]
  rfl

theorem le_ofDigitChars (digits : List Char) (value : Nat) :
    value ≤ Nat.ofDigitChars 10 digits value := by
  induction digits generalizing value with
  | nil => exact Nat.le_refl _
  | cons c rest ih =>
    rw [Nat.ofDigitChars_cons]
    exact Nat.le_trans (by omega) (ih _)

-- No prefix of the digits is worth more than all of them, so none of them leaves the bounds.
theorem risingDigits_ok (value : Nat) (numeral : ∀ c ∈ digits, c.isDigit = true)
    (bounded : (Nat.ofDigitChars 10 digits value : Int) ≤ high) :
    risingDigits high value digits = .ok (Nat.ofDigitChars 10 digits value) := by
  induction digits generalizing value with
  | nil => rfl
  | cons c rest ih =>
    obtain ⟨digit, later⟩ := List.forall_mem_cons.mp numeral
    rw [Nat.ofDigitChars_cons] at bounded ⊢
    have next := le_ofDigitChars rest (10 * value + (c.toNat - '0'.toNat))
    unfold risingDigits
    rw [decimalDigit_of_isDigit digit]
    dsimp only
    rw [if_neg (by omega)]
    exact_mod_cast ih _ later bounded

theorem fallingDigits_ok (value : Nat) (numeral : ∀ c ∈ digits, c.isDigit = true)
    (bounded : low ≤ -(Nat.ofDigitChars 10 digits value : Int)) :
    fallingDigits low (-value) digits = .ok (-(Nat.ofDigitChars 10 digits value : Int)) := by
  induction digits generalizing value with
  | nil => rfl
  | cons c rest ih =>
    obtain ⟨digit, later⟩ := List.forall_mem_cons.mp numeral
    rw [Nat.ofDigitChars_cons] at bounded ⊢
    have next := le_ofDigitChars rest (10 * value + (c.toNat - '0'.toNat))
    have step : 10 * (-(value : Int)) - ((c.toNat - '0'.toNat : Nat) : Int) =
        -((10 * value + (c.toNat - '0'.toNat) : Nat) : Int) := by
      omega
    unfold fallingDigits
    rw [decimalDigit_of_isDigit digit]
    dsimp only
    rw [step, if_neg (by omega), ih _ later bounded]

theorem isDigit_toDigits (n : Nat) : ∀ c ∈ Nat.toDigits 10 n, c.isDigit = true :=
  fun _ => Nat.isDigit_of_mem_toDigits (by decide) (by decide)

theorem risingDigits_toDigits {n : Nat} (bounded : (n : Int) ≤ high) :
    risingDigits high 0 (Nat.toDigits 10 n) = .ok n := by
  have value : Nat.ofDigitChars 10 (Nat.toDigits 10 n) 0 = n :=
    Nat.ofDigitChars_toDigits (by decide) (by decide)
  have within : (Nat.ofDigitChars 10 (Nat.toDigits 10 n) 0 : Int) ≤ high := by
    rw [value]
    exact bounded
  have risen := risingDigits_ok 0 (isDigit_toDigits n) within
  rw [value] at risen
  exact risen

theorem fallingDigits_toDigits {n : Nat} (bounded : low ≤ -(n : Int)) :
    fallingDigits low 0 (Nat.toDigits 10 n) = .ok (-n) := by
  have value : Nat.ofDigitChars 10 (Nat.toDigits 10 n) 0 = n :=
    Nat.ofDigitChars_toDigits (by decide) (by decide)
  have within : low ≤ -(Nat.ofDigitChars 10 (Nat.toDigits 10 n) 0 : Int) := by
    rw [value]
    exact bounded
  have fallen := fallingDigits_ok 0 (isDigit_toDigits n) within
  rw [value] at fallen
  exact fallen

theorem toDigits_cons (n : Nat) :
    ∃ c rest, Nat.toDigits 10 n = c :: rest ∧ c ≠ '+' ∧ c ≠ '-' := by
  cases spelled : Nat.toDigits 10 n with
  | nil => exact absurd spelled Nat.toDigits_ne_nil
  | cons c rest =>
    have digit : c.isDigit = true := isDigit_toDigits n c (spelled ▸ List.mem_cons_self)
    refine ⟨c, rest, rfl, ?_, ?_⟩
    · rintro rfl
      cases digit
    · rintro rfl
      cases digit

theorem readInteger_unsigned {text : String} {n : Nat} (spelled : text.toList = Nat.toDigits 10 n) :
    readInteger low high text = risingDigits high 0 (Nat.toDigits 10 n) := by
  obtain ⟨c, rest, digits, plus, minus⟩ := toDigits_cons n
  unfold readInteger
  rw [spelled, digits]
  split <;> simp_all

theorem readInteger_minus {text : String} {n : Nat}
    (spelled : text.toList = '-' :: Nat.toDigits 10 n) (negative : low < 0) :
    readInteger low high text = fallingDigits low 0 (Nat.toDigits 10 n) := by
  obtain ⟨c, rest, digits, _, _⟩ := toDigits_cons n
  unfold readInteger
  rw [spelled, digits]
  split <;> simp_all

theorem readInteger_toString {n : Int} (above : low ≤ n) (below : n ≤ high) :
    readInteger low high (toString n) = .ok n := by
  rcases Int.lt_or_le n 0 with negative | natural
  · have spelled : (toString n).toList = '-' :: Nat.toDigits 10 (-n).toNat := by
      rw [Int.toString_eq_repr, Int.repr_eq_if, if_neg (Int.not_le.mpr negative),
        String.toList_append, Nat.toList_repr]
      rfl
    rw [readInteger_minus spelled (by omega), fallingDigits_toDigits (by omega)]
    congr 1
    omega
  · have spelled : (toString n).toList = Nat.toDigits 10 n.toNat := by
      rw [Int.toString_eq_repr, Int.repr_eq_if, if_pos natural, Nat.toList_repr]
    rw [readInteger_unsigned spelled, risingDigits_toDigits (by omega)]
    congr 1
    omega

end Decimal

section Hexadecimal

def IsHexDigit (c : Char) : Prop :=
  '0' ≤ c ∧ c ≤ '9' ∨ 'a' ≤ c ∧ c ≤ 'f' ∨ 'A' ≤ c ∧ c ≤ 'F'

instance (c : Char) : Decidable (IsHexDigit c) :=
  inferInstanceAs (Decidable ('0' ≤ c ∧ c ≤ '9' ∨ 'a' ≤ c ∧ c ≤ 'f' ∨ 'A' ≤ c ∧ c ≤ 'F'))

-- How bytes spell a digit that is read: in lower case, and with a zero for a sign.
def plainDigit (c : Char) : Char := if c = '+' then '0' else c.toLower

theorem bytesOf_toList (text : String) :
    bytesOf text = text.toList.flatMap String.utf8EncodeChar := by
  have spelled (cs : List Char) :
      bytesOf (String.ofList cs) = cs.flatMap String.utf8EncodeChar := by
    simp [bytesOf, List.utf8Encode]
  rw [← spelled, String.ofList_toList]

theorem encodeChar_ascii {c : Char} (ascii : c.toNat < 128) :
    String.utf8EncodeChar c = [c.toUInt8] := by
  have low : c.val.toNat ≤ 127 := Nat.le_of_lt_succ ascii
  simp only [String.utf8EncodeChar, if_pos low]
  rfl

-- A character that takes more than one byte starts with a byte that none of the ASCII ones has.
theorem encodeChar_wide {c : Char} (wide : 128 ≤ c.toNat) :
    ∃ b ∈ String.utf8EncodeChar c, 128 ≤ b.toNat := by
  have beyond : ¬ c.val.toNat ≤ 127 := Nat.not_le.mpr wide
  unfold String.utf8EncodeChar
  dsimp only
  rw [if_neg beyond]
  split
  · exact ⟨_, List.mem_cons_self, by rw [UInt8.toNat_ofNat']; omega⟩
  · split
    · exact ⟨_, List.mem_cons_self, by rw [UInt8.toNat_ofNat']; omega⟩
    · exact ⟨_, List.mem_cons_self, by rw [UInt8.toNat_ofNat']; omega⟩

theorem bytesOf_ascii {text : String} (ascii : ∀ c ∈ text.toList, c.toNat < 128) :
    bytesOf text = text.toList.map Char.toUInt8 := by
  rw [bytesOf_toList]
  generalize text.toList = cs at ascii ⊢
  induction cs with
  | nil => rfl
  | cons c rest ih =>
    obtain ⟨first, later⟩ := List.forall_mem_cons.mp ascii
    rw [List.flatMap_cons, encodeChar_ascii first, ih later]
    rfl

theorem ascii_of_bytesOf {text : String} (low : ∀ b ∈ bytesOf text, b.toNat < 128) :
    ∀ c ∈ text.toList, c.toNat < 128 := by
  intro c member
  refine Nat.lt_of_not_le fun wide => ?_
  obtain ⟨b, coded, high⟩ := encodeChar_wide wide
  rw [bytesOf_toList] at low
  exact absurd (low b (List.mem_flatMap.mpr ⟨c, member, coded⟩)) (Nat.not_lt.mpr high)

-- The ASCII characters, one by one: which of them have a value, and how it is spelled.
theorem isSome_hexValue : ∀ k < 128,
    (hexValue? (Char.ofNat k).toUInt8).isSome = decide (IsHexDigit (Char.ofNat k)) := by
  decide

theorem all_hexValue : ∀ k < 128, (hexValue? (Char.ofNat k).toUInt8).all
    (fun n => n < 16 ∧ hexDigit n = plainDigit (Char.ofNat k)) = true := by
  decide

theorem plus_of_byte : ∀ k < 128, (Char.ofNat k).toUInt8 = 43 → Char.ofNat k = '+' := by
  decide

theorem hexValue_hexDigit : ∀ n < 16, hexValue? (hexDigit n).toUInt8 = some n := by
  decide

theorem ascii_hexDigit : ∀ n < 16, (hexDigit n).toNat < 128 := by
  decide

structure DigitOf (c : Char) (n : Nat) : Prop where
  digit : IsHexDigit c
  small : n < 16
  spelled : hexDigit n = plainDigit c

theorem digit_of_value {c : Char} {n : Nat} (ascii : c.toNat < 128)
    (read : hexValue? c.toUInt8 = some n) : DigitOf c n := by
  have some := isSome_hexValue c.toNat ascii
  have all := all_hexValue c.toNat ascii
  rw [Char.ofNat_toNat, read] at some all
  simp at some all
  exact ⟨some, all.1, all.2⟩

theorem value_of_digit {c : Char} (ascii : c.toNat < 128) (digit : IsHexDigit c) :
    ∃ n, hexValue? c.toUInt8 = some n := by
  have some := isSome_hexValue c.toNat ascii
  rw [Char.ofNat_toNat, decide_eq_true digit] at some
  exact Option.isSome_iff_exists.mp some

theorem byte_lt_of_value {b : UInt8} {n : Nat} (read : hexValue? b = some n) : b.toNat < 128 := by
  unfold hexValue? at read
  dsimp only at read
  split at read
  · omega
  · split at read
    · omega
    · split at read
      · omega
      · cases read

theorem hexByte_ofNat {h l : Nat} (high : h < 16) (low : l < 16) :
    hexByte (UInt8.ofNat (16 * h + l)) = [hexDigit h, hexDigit l] := by
  have value : (UInt8.ofNat (16 * h + l)).toNat = 16 * h + l := by
    rw [UInt8.toNat_ofNat']
    omega
  rw [hexByte, value]
  congr <;> omega

inductive Paired : List UInt8 → List UInt8 → Prop
  | nil : Paired [] []
  | pair {high low byte : UInt8} {raw bytes : List UInt8} : hexPair? high low = some byte →
      Paired raw bytes → Paired (high :: low :: raw) (byte :: bytes)

theorem unhexPairs_paired {offset : Nat} {done raw bytes : List UInt8} (paired : Paired raw bytes) :
    unhexPairs offset done raw = .ok (done.reverse ++ bytes) := by
  induction paired generalizing offset done with
  | nil => simp [unhexPairs]
  | pair read rest ih =>
    rw [unhexPairs, read]
    dsimp only
    rw [ih, List.reverse_cons, List.append_assoc]
    rfl

theorem paired_of_unhexPairs {offset : Nat} {done raw out : List UInt8} (even : raw.length % 2 = 0)
    (read : unhexPairs offset done raw = .ok out) :
    ∃ bytes, out = done.reverse ++ bytes ∧ Paired raw bytes := by
  fun_induction unhexPairs offset done raw with
  | case1 offset done high low rest b pair ih =>
    have fewer : rest.length % 2 = 0 := by
      rw [List.length_cons, List.length_cons] at even
      omega
    obtain ⟨bytes, rfl, paired⟩ := ih fewer read
    exact ⟨b :: bytes, by simp, .pair pair paired⟩
  | case2 => cases read
  | case3 raw offset done single =>
    cases read
    match raw with
    | [] => exact ⟨[], by simp, .nil⟩
    | [_] => cases even
    | high :: low :: rest => exact absurd rfl (single high low rest)

theorem Paired.length {raw bytes : List UInt8} (paired : Paired raw bytes) :
    raw.length = 2 * bytes.length := by
  induction paired with
  | nil => rfl
  | pair read rest ih =>
    rw [List.length_cons, List.length_cons, List.length_cons, ih]
    omega

theorem unhex_ok_iff {text : String} {bytes : List UInt8} :
    unhex text = .ok bytes ↔ Paired (bytesOf text) bytes := by
  unfold unhex
  dsimp only
  constructor
  · intro read
    split at read
    · cases read
    · rename_i even
      obtain ⟨out, rfl, paired⟩ := paired_of_unhexPairs (Decidable.not_not.mp even) read
      exact paired
  · intro paired
    rw [if_neg (by rw [paired.length]; omega), unhexPairs_paired paired]
    rfl

theorem hexPair_parts {high low byte : UInt8} (read : hexPair? high low = some byte) :
    ∃ l, hexValue? low = some l ∧
      ((∃ h, hexValue? high = some h ∧ byte = UInt8.ofNat (16 * h + l)) ∨
        high = 43 ∧ byte = UInt8.ofNat l) := by
  unfold hexPair? at read
  split at read
  · rename_i h l first second
    cases read
    exact ⟨l, second, .inl ⟨h, first, rfl⟩⟩
  · rename_i l first second
    split at read
    · rename_i plus
      cases read
      exact ⟨l, second, .inr ⟨plus, rfl⟩⟩
    · cases read
  · cases read

-- Digits in pairs, where a sign may stand for the first of a pair.
def InPairs (cs : List Char) : Prop :=
  cs.length % 2 = 0 ∧ ∀ k c, cs[k]? = some c → IsHexDigit c ∨ c = '+' ∧ k % 2 = 0

section Characters

variable {a b : Char} {cs : List Char} {byte : UInt8} {bytes : List UInt8} {text : String}

theorem ascii_of_digit (digit : IsHexDigit a) : a.toNat < 128 := by
  unfold IsHexDigit at digit
  simp only [Char.le_def, UInt32.le_iff_toNat_le] at digit
  change a.val.toNat < 128
  change 48 ≤ _ ∧ _ ≤ 57 ∨ 97 ≤ _ ∧ _ ≤ 102 ∨ 65 ≤ _ ∧ _ ≤ 70 at digit
  omega

theorem digits_of_pair (first : a.toNat < 128) (second : b.toNat < 128)
    (read : hexPair? a.toUInt8 b.toUInt8 = some byte) :
    (IsHexDigit a ∨ a = '+') ∧ IsHexDigit b ∧ hexByte byte = [plainDigit a, plainDigit b] := by
  obtain ⟨l, low, high⟩ := hexPair_parts read
  have last := digit_of_value second low
  rcases high with ⟨h, high, rfl⟩ | ⟨sign, rfl⟩
  · have lead := digit_of_value first high
    refine ⟨.inl lead.digit, last.digit, ?_⟩
    rw [hexByte_ofNat lead.small last.small, lead.spelled, last.spelled]
  · have plus : a = '+' := by
      have signed := plus_of_byte a.toNat first
      rw [Char.ofNat_toNat] at signed
      exact signed sign
    have spelled := hexByte_ofNat (h := 0) (by decide) last.small
    rw [Nat.mul_zero, Nat.zero_add, last.spelled] at spelled
    refine ⟨.inr plus, last.digit, ?_⟩
    rw [spelled, plus]
    rfl

theorem pair_of_digits (first : IsHexDigit a ∨ a = '+') (second : IsHexDigit b) :
    ∃ byte, hexPair? a.toUInt8 b.toUInt8 = some byte := by
  obtain ⟨l, low⟩ := value_of_digit (ascii_of_digit second) second
  rcases first with digit | rfl
  · obtain ⟨h, high⟩ := value_of_digit (ascii_of_digit digit) digit
    exact ⟨_, by rw [hexPair?, high, low]⟩
  · have unvalued : hexValue? '+'.toUInt8 = none := by decide
    exact ⟨UInt8.ofNat l, by rw [hexPair?, unvalued, low]; rfl⟩

theorem inPairs_cons : InPairs (a :: b :: cs) ↔
    (IsHexDigit a ∨ a = '+') ∧ IsHexDigit b ∧ InPairs cs := by
  unfold InPairs
  constructor
  · rintro ⟨even, listed⟩
    refine ⟨?_, ?_, ?_, fun k c found => ?_⟩
    · exact (listed 0 a rfl).imp_right And.left
    · exact (listed 1 b rfl).resolve_right fun sign => absurd sign.2 (by decide)
    · rw [List.length_cons, List.length_cons] at even
      omega
    · have later := listed (k + 2) c (by simpa using found)
      rwa [Nat.add_mod_right] at later
  -- Two places further on the parity is the same, so the rest keeps its pairs.
  · rintro ⟨first, second, even, listed⟩
    refine ⟨?_, fun k c found => ?_⟩
    · rw [List.length_cons, List.length_cons]
      omega
    · match k with
      | 0 =>
        cases found
        exact first.imp_right fun plus => ⟨plus, rfl⟩
      | 1 =>
        cases found
        exact .inl second
      | k + 2 =>
        rw [Nat.add_mod_right]
        exact listed k c (by simpa using found)

theorem inPairs_unsigned (unsigned : '+' ∉ cs) :
    InPairs cs ↔ cs.length % 2 = 0 ∧ ∀ c ∈ cs, IsHexDigit c := by
  constructor
  · rintro ⟨even, listed⟩
    refine ⟨even, fun c member => ?_⟩
    obtain ⟨k, within, rfl⟩ := List.mem_iff_getElem.mp member
    rcases listed k _ (List.getElem?_eq_getElem within) with digit | ⟨sign, _⟩
    · exact digit
    · exact absurd (sign ▸ member) unsigned
  · rintro ⟨even, digits⟩
    exact ⟨even, fun k c found => .inl (digits c (List.mem_of_getElem? found))⟩

theorem InPairs.ascii (pairs : InPairs cs) : ∀ c ∈ cs, c.toNat < 128 := by
  intro c member
  obtain ⟨k, within, rfl⟩ := List.mem_iff_getElem.mp member
  rcases pairs.2 k _ (List.getElem?_eq_getElem within) with digit | ⟨sign, _⟩
  · exact ascii_of_digit digit
  · rw [sign]
    decide

theorem InPairs.paired : ∀ {cs : List Char}, InPairs cs →
    ∃ bytes, Paired (cs.map Char.toUInt8) bytes
  | [], _ => ⟨[], .nil⟩
  | [_], pairs => absurd pairs.1 (by simp)
  | a :: b :: rest, pairs => by
    obtain ⟨first, second, later⟩ := inPairs_cons.mp pairs
    obtain ⟨byte, read⟩ := pair_of_digits first second
    obtain ⟨bytes, paired⟩ := later.paired
    exact ⟨byte :: bytes, .pair read paired⟩

theorem Paired.ascii {raw : List UInt8} (paired : Paired raw bytes) : ∀ b ∈ raw, b.toNat < 128 := by
  induction paired with
  | nil => exact fun b member => absurd member List.not_mem_nil
  | @pair high low byte raw bytes read rest ih =>
    obtain ⟨l, second, first⟩ := hexPair_parts read
    have lead : high.toNat < 128 := by
      rcases first with ⟨h, valued, _⟩ | ⟨sign, _⟩
      · exact byte_lt_of_value valued
      · rw [sign]
        decide
    exact List.forall_mem_cons.mpr ⟨lead, List.forall_mem_cons.mpr ⟨byte_lt_of_value second, ih⟩⟩

theorem Paired.inPairs (ascii : ∀ c ∈ cs, c.toNat < 128)
    (paired : Paired (cs.map Char.toUInt8) bytes) :
    InPairs cs ∧ hexChars bytes = cs.map plainDigit := by
  generalize spelled : cs.map Char.toUInt8 = raw at paired
  induction paired generalizing cs with
  | nil =>
    rw [List.map_eq_nil_iff] at spelled
    subst spelled
    exact ⟨⟨rfl, fun k c found => by cases found⟩, rfl⟩
  | pair read rest ih =>
    obtain ⟨a, others, rfl, rfl, behind⟩ := List.map_eq_cons_iff.mp spelled
    obtain ⟨b, tail, rfl, rfl, more⟩ := List.map_eq_cons_iff.mp behind
    obtain ⟨first, ascii⟩ := List.forall_mem_cons.mp ascii
    obtain ⟨second, ascii⟩ := List.forall_mem_cons.mp ascii
    obtain ⟨lead, last, byte⟩ := digits_of_pair first second read
    obtain ⟨pairs, chars⟩ := ih ascii more
    refine ⟨inPairs_cons.mpr ⟨lead, last, pairs⟩, ?_⟩
    rw [hexChars, List.flatMap_cons, byte, ← hexChars, chars]
    rfl

theorem unhex_parts (read : unhex text = .ok bytes) : InPairs text.toList ∧
    text.toList.length = 2 * bytes.length ∧ hexChars bytes = text.toList.map plainDigit := by
  have paired := unhex_ok_iff.mp read
  have ascii := ascii_of_bytesOf paired.ascii
  rw [bytesOf_ascii ascii] at paired
  obtain ⟨pairs, chars⟩ := paired.inPairs ascii
  refine ⟨pairs, ?_, chars⟩
  rw [← paired.length, List.length_map]

theorem unhex_inPairs (pairs : InPairs text.toList) : ∃ bytes, unhex text = .ok bytes := by
  obtain ⟨bytes, paired⟩ := pairs.paired
  rw [← bytesOf_ascii pairs.ascii] at paired
  exact ⟨bytes, unhex_ok_iff.mpr paired⟩

theorem hexPair_hexByte (byte : UInt8) : hexPair? (hexDigit (byte.toNat / 16)).toUInt8
    (hexDigit (byte.toNat % 16)).toUInt8 = some byte := by
  have bounded := byte.toNat_lt
  rw [hexPair?, hexValue_hexDigit _ (by omega), hexValue_hexDigit _ (by omega)]
  have value : 16 * (byte.toNat / 16) + byte.toNat % 16 = byte.toNat := by omega
  dsimp only
  rw [value, UInt8.ofNat_toNat]

theorem paired_hexChars (bytes : List UInt8) :
    Paired ((hexChars bytes).map Char.toUInt8) bytes := by
  induction bytes with
  | nil => exact .nil
  | cons byte rest ih =>
    rw [hexChars, List.flatMap_cons, List.map_append]
    exact .pair (hexPair_hexByte byte) ih

theorem ascii_hexChars (bytes : List UInt8) : ∀ c ∈ hexChars bytes, c.toNat < 128 := by
  intro c member
  obtain ⟨byte, _, written⟩ := List.mem_flatMap.mp member
  have bounded := byte.toNat_lt
  rcases List.mem_cons.mp written with rfl | last
  · exact ascii_hexDigit _ (by omega)
  · rw [List.mem_singleton.mp last]
    exact ascii_hexDigit _ (by omega)

theorem unhex_hex (bytes : List UInt8) : unhex (hex bytes) = .ok bytes := by
  have spelled : (hex bytes).toList = hexChars bytes := String.toList_ofList
  have ascii : ∀ c ∈ (hex bytes).toList, c.toNat < 128 := by
    rw [spelled]
    exact ascii_hexChars bytes
  rw [unhex_ok_iff, bytesOf_ascii ascii, spelled]
  exact paired_hexChars bytes

end Characters

end Hexadecimal

end Tollgate.Text
