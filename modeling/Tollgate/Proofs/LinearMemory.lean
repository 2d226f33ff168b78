import Tollgate.Proofs.GuestStep

namespace Tollgate.Guest

namespace Cells

-- A region of `2 ^ level` addresses looks at the low bits of an address only.
def Agree (level a b : Nat) : Prop := ∀ k, k < level → a.testBit k = b.testBit k

theorem get_all (level : Nat) (byte : UInt8) (address : Nat) :
    get level (.all byte) address = byte := by
  cases level <;> rfl

theorem get_set_same (level : Nat) (cells : Cells) (address : Nat) (byte : UInt8) :
    get level (set level cells address byte) address = byte := by
  induction level generalizing cells with
  | zero => cases cells <;> rfl
  | succ level ih =>
    cases cells with
    | all old =>
      unfold set
      split
      · rename_i high
        rw [get, if_pos high, ih]
      · rename_i low
        rw [get, if_neg low, ih]
    | split low high =>
      unfold set
      split
      · rename_i up
        rw [get, if_pos up, ih]
      · rename_i down
        rw [get, if_neg down, ih]

-- Either the addresses part at the top bit, and the look-up goes the other way, or they part
-- further down.
theorem get_set_other {level : Nat} (cells : Cells) {written read : Nat} (byte : UInt8)
    (apart : ¬ Agree level written read) :
    get level (set level cells written byte) read = get level cells read := by
  induction level generalizing cells with
  | zero => exact absurd (fun k below => absurd below (Nat.not_lt_zero k)) apart
  | succ level ih =>
    have below (same : written.testBit level = read.testBit level) :
        ¬ Agree level written read := by
      intro agree
      refine apart fun k bound => ?_
      rcases Nat.lt_succ_iff_lt_or_eq.mp bound with less | rfl
      · exact agree k less
      · exact same
    cases cells with
    | all old =>
      rw [get_all]
      unfold set
      cases top : written.testBit level <;> cases look : read.testBit level
      · simp only [get, look, Bool.false_eq_true, if_false]
        rw [ih _ (below (top.trans look.symm)), get_all]
      · simp only [get, look, Bool.false_eq_true, if_false, if_true]
      · simp only [get, look, Bool.false_eq_true, if_false, if_true]
      · simp only [get, look, if_true]
        rw [ih _ (below (top.trans look.symm)), get_all]
    | split low high =>
      unfold set
      cases top : written.testBit level <;> cases look : read.testBit level
      · simp only [get, look, Bool.false_eq_true, if_false]
        exact ih low (below (top.trans look.symm))
      · simp only [get, look, Bool.false_eq_true, if_false, if_true]
      · simp only [get, look, Bool.false_eq_true, if_false, if_true]
      · simp only [get, look, if_true]
        exact ih high (below (top.trans look.symm))

end Cells

namespace Memory

theorem agree_eq {a b : Nat} (first : a < pow2 level) (second : b < pow2 level)
    (agree : Cells.Agree level a b) : a = b := by
  refine Nat.eq_of_testBit_eq fun k => ?_
  by_cases inside : k < level
  · exact agree k inside
  · -- Both numbers are too small to have the bit.
    have beyond : pow2 level ≤ pow2 k :=
      Nat.pow_le_pow_right (by decide) (Nat.le_of_not_lt inside)
    have low : a.testBit k = false := Nat.testBit_lt_two_pow (Nat.lt_of_lt_of_le first beyond)
    have high : b.testBit k = false := Nat.testBit_lt_two_pow (Nat.lt_of_lt_of_le second beyond)
    rw [low, high]

theorem get_set_same (m : Memory) (address : Nat) (byte : UInt8) :
    (m.set address byte).get address = byte := Cells.get_set_same level m.cells address byte

theorem get_set_other (m : Memory) {written read : Nat} (byte : UInt8) (apart : written ≠ read)
    (first : written < pow2 level) (second : read < pow2 level) :
    (m.set written byte).get read = m.get read :=
  Cells.get_set_other m.cells byte fun agree => apart (agree_eq first second agree)

theorem size_le (m : Memory) : m.size ≤ pow2 level := by
  have pages : m.pages ≤ maxPages := Nat.le_trans m.fits m.reachable
  have bytes : m.pages * pageSize ≤ maxPages * pageSize := Nat.mul_le_mul_right pageSize pages
  exact Nat.le_trans bytes (by decide)

theorem size_splice (m : Memory) (address : Nat) (bytes : List UInt8) :
    (m.splice address bytes).size = m.size := by
  induction bytes generalizing m address with
  | nil => rfl
  | cons b rest ih =>
    rw [splice, ih]
    rfl

theorem get_splice_outside (m : Memory) {address read : Nat} {bytes : List UInt8}
    (room : address + bytes.length ≤ pow2 level) (reached : read < pow2 level)
    (outside : read < address ∨ address + bytes.length ≤ read) :
    (m.splice address bytes).get read = m.get read := by
  induction bytes generalizing m address with
  | nil => rfl
  | cons b rest ih =>
    rw [List.length_cons] at room outside
    rw [splice, ih _ (by omega) (by omega)]
    exact get_set_other m b (by omega) (by omega) reached

theorem slice_succ (m : Memory) (address size : Nat) :
    m.slice address (size + 1) = m.get address :: m.slice (address + 1) size := by
  unfold slice
  rw [List.range_succ_eq_map, List.map_cons, List.map_map]
  refine congrArg _ (List.map_congr_left fun k _ => ?_)
  rw [Function.comp_apply, Nat.succ_eq_add_one, Nat.add_assoc, Nat.add_comm 1 k]

theorem slice_splice (m : Memory) {address : Nat} {bytes : List UInt8}
    (room : address + bytes.length ≤ pow2 level) :
    (m.splice address bytes).slice address bytes.length = bytes := by
  induction bytes generalizing m address with
  | nil => rfl
  | cons b rest ih =>
    rw [List.length_cons] at room
    have later : address + 1 + rest.length ≤ pow2 level := by omega
    have first : ((m.set address b).splice (address + 1) rest).get address = b := by
      rw [get_splice_outside _ later (by omega) (.inl (Nat.lt_succ_self address)), get_set_same]
    rw [List.length_cons, splice, slice_succ, first, ih _ later]

theorem slice_splice_outside (m : Memory) {address : Nat} {bytes : List UInt8} {place size : Nat}
    (room : address + bytes.length ≤ pow2 level) (reached : place + size ≤ pow2 level)
    (outside : place + size ≤ address) :
    (m.splice address bytes).slice place size = m.slice place size := by
  refine List.map_congr_left fun k member => ?_
  have inside : k < size := List.mem_range.mp member
  exact get_splice_outside m room (by omega) (.inl (by omega))

variable {m written : Memory} {address : Nat} {bytes : List UInt8}

theorem size_write (stored : m.write? address bytes = some written) : written.size = m.size := by
  unfold write? at stored
  split at stored
  · cases stored
    exact m.size_splice address bytes
  · cases stored

theorem write_room (stored : m.write? address bytes = some written) :
    address + bytes.length ≤ m.size := by
  unfold write? at stored
  split at stored
  · assumption
  · cases stored

theorem read_write (stored : m.write? address bytes = some written) :
    written.read? address bytes.length = some bytes := by
  have room := write_room stored
  have fits : address + bytes.length ≤ written.size := by
    rw [size_write stored]
    exact room
  rw [write?, if_pos room] at stored
  cases stored
  rw [read?, if_pos fits, slice_splice m (Nat.le_trans room m.size_le)]

-- Writing leaves alone what lies before it.
theorem read_write_before (stored : m.write? address bytes = some written) {place size : Nat}
    (before : place + size ≤ address) : written.read? place size = m.read? place size := by
  have room := write_room stored
  have same := size_write stored
  rw [write?, if_pos room] at stored
  cases stored
  have reachable := m.size_le
  unfold read?
  rw [same, slice_splice_outside m (by omega) (by omega) before]

end Memory

end Tollgate.Guest
