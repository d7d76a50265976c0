import Beans.Hash.Through
import Mathlib.Data.Nat.Digits.Defs
/-!
# Runs of bytes in a word

Each byte that is written goes below those that are there. What is turned to the low end with it is the
highest byte of the word, and this is zero until eight bytes have been written. So up to eight bytes come
out as the number that they spell, those of a later run below those of an earlier one.
-/

set_option autoImplicit false

namespace Beans.Through

variable {state : UInt64} {b : UInt8} {bytes written : List UInt8} {count n : Nat}

/-- The number that bytes spell, the lowest first. -/
def spelled (bytes : List UInt8) : Nat :=
  Nat.ofDigits 256 (bytes.map (·.toNat))

theorem spelled_cons (b : UInt8) (bytes : List UInt8) :
    spelled (b :: bytes) = b.toNat + 256 * spelled bytes :=
  Nat.ofDigits_cons

theorem spelled_lt (bytes : List UInt8) : spelled bytes < 256 ^ bytes.length := by
  induction bytes with
  | nil => decide
  | cons b bytes ih =>
    have hb := b.toNat_lt
    rw [spelled_cons, List.length_cons, Nat.pow_succ]
    omega

theorem littleEndian_spelled (bytes : List UInt8) :
    littleEndian bytes.length (spelled bytes) = bytes := by
  induction bytes with
  | nil => rfl
  | cons b bytes ih =>
    have hb := b.toNat_lt
    have hlow : (b.toNat + 256 * spelled bytes) % 256 = b.toNat := by omega
    have hhigh : (b.toNat + 256 * spelled bytes) / 256 = spelled bytes := by omega
    rw [spelled_cons, List.length_cons, littleEndian, hlow, hhigh, ih]
    simp

theorem length_littleEndian (count n : Nat) : (littleEndian count n).length = count := by
  induction count generalizing n with
  | zero => rfl
  | succ count ih => simp [littleEndian, ih]

theorem spelled_littleEndian (h : n < 256 ^ count) : spelled (littleEndian count n) = n := by
  induction count generalizing n with
  | zero =>
    obtain rfl : n = 0 := by simpa using h
    rfl
  | succ count ih =>
    have hrest : n / 256 < 256 ^ count := by
      rw [Nat.pow_succ] at h
      exact Nat.div_lt_of_lt_mul (by omega)
    have hbyte : (n % 256).toUInt8.toNat = n % 256 := by simp
    rw [littleEndian, spelled_cons, ih hrest, hbyte]
    omega

/-! ### What one byte does -/

theorem toNat_push (h : state.toNat < 256 ^ 7) (b : UInt8) :
    (push state b).toNat = b.toNat + 256 * state.toNat := by
  have hb := b.toNat_lt
  have hturned : state >>> 56 = 0 := by
    apply UInt64.toNat_inj.mp
    rw [UInt64.toNat_shiftRight, Nat.shiftRight_eq_div_pow]
    exact Nat.div_eq_of_lt h
  have hshifted : (state <<< 8).toNat = state.toNat * 256 := by
    rw [UInt64.toNat_shiftLeft]
    change (state.toNat <<< 8) % 2 ^ 64 = _
    rw [Nat.shiftLeft_eq]
    omega
  rw [push, hturned, UInt64.or_zero, UInt64.toNat_add, hshifted, UInt8.toNat_toUInt64]
  omega

/-! ### What runs do -/

theorem writeBytes_cons (state : UInt64) (b : UInt8) (bytes : List UInt8) :
    writeBytes state (b :: bytes) = push (writeBytes state bytes) b := by
  unfold writeBytes
  rw [List.reverse_cons, List.foldl_append]
  rfl

/-- The bytes of a run go below those that were written before it. -/
theorem toNat_writeBytes (h : state.toNat = spelled written)
    (hlength : bytes.length + written.length ≤ 8) :
    (writeBytes state bytes).toNat = spelled (bytes ++ written) := by
  induction bytes with
  | nil => exact h
  | cons b bytes ih =>
    rw [List.length_cons] at hlength
    have hrest := ih (by omega)
    have hsmall : (writeBytes state bytes).toNat < 256 ^ 7 := by
      have hlt := spelled_lt (bytes ++ written)
      rw [List.length_append] at hlt
      rw [hrest]
      apply Nat.lt_of_lt_of_le hlt
      apply Nat.pow_le_pow_right <;> omega
    rw [writeBytes_cons, toNat_push hsmall, hrest, List.cons_append, spelled_cons]

theorem toNat_runs {runs : List (List UInt8)} (h : state.toNat = spelled written)
    (hlength : runs.flatten.length + written.length ≤ 8) :
    (runs.foldl writeBytes state).toNat = spelled (runs.reverse.flatten ++ written) := by
  induction runs generalizing state written with
  | nil => exact h
  | cons bytes runs ih =>
    rw [List.flatten_cons, List.length_append] at hlength
    have hfirst : (writeBytes state bytes).toNat = spelled (bytes ++ written) :=
      toNat_writeBytes h (by omega)
    rw [List.foldl_cons, ih hfirst (by rw [List.length_append]; omega)]
    simp

/-- A number of one width hashes as the word that it is in the greatest one. -/
theorem writeBytes_littleEndian (h : n < 256 ^ count) (hcount : count ≤ 8) :
    writeBytes 0 (littleEndian count n) = n.toUInt64 := by
  have hnothing : (0 : UInt64).toNat = spelled [] := rfl
  apply UInt64.toNat_inj.mp
  rw [toNat_writeBytes hnothing (by simpa [length_littleEndian] using hcount), List.append_nil,
    spelled_littleEndian h]
  have hword : n < 2 ^ 64 := by
    apply Nat.lt_of_lt_of_le h
    exact Nat.pow_le_pow_right (by omega) hcount
  exact (Nat.mod_eq_of_lt hword).symm

theorem toWord_of_lt {k : IntKind} (h : n < 2 ^ k.width) : k.toWord n = n := by
  change ((n : Int) % (2 ^ k.width : Nat)).toNat = n
  rw [← Int.natCast_emod, Int.toNat_natCast, Nat.mod_eq_of_lt h]

/-- A number of at most eight bytes hashes as a word, whether it is given as such or as its bytes. -/
theorem writeInt_zero {k : IntKind} (hk : k ∈ [IntKind.u8, .u16, .u32, .u64])
    (h : n < 2 ^ k.width) :
    writeBytes 0 (littleEndian (k.width / 8) (k.toWord n)) = n.toUInt64 ∧
      writeInt 0 k n = n.toUInt64 := by
  have hbytes : writeBytes 0 (littleEndian (k.width / 8) (k.toWord n)) = n.toUInt64 := by
    rw [toWord_of_lt h]
    have hwidth : k.width / 8 ≤ 8 ∧ 256 ^ (k.width / 8) = 2 ^ k.width := by
      simp only [List.mem_cons, List.not_mem_nil, or_false] at hk
      rcases hk with rfl | rfl | rfl | rfl <;> decide
    exact writeBytes_littleEndian (hwidth.2 ▸ h) hwidth.1
  refine ⟨hbytes, ?_⟩
  simp only [List.mem_cons, List.not_mem_nil, or_false] at hk
  rcases hk with rfl | rfl | rfl | rfl
  · exact hbytes
  · exact hbytes
  · exact hbytes
  · exact congrArg Nat.toUInt64 (toWord_of_lt h)

/-- Runs of up to eight bytes in all come out as the number that they spell, byte by byte, the last run
lowest. So a number that is written as its bytes hashes alike in all widths, and as a word. -/
theorem runs_spell :
    (∀ runs : List (List UInt8), runs.flatten.length ≤ 8 →
      (runs.foldl writeBytes 0).toNat = spelled runs.reverse.flatten ∧
        littleEndian runs.flatten.length (runs.foldl writeBytes 0).toNat = runs.reverse.flatten) ∧
    ∀ k ∈ [IntKind.u8, .u16, .u32, .u64], ∀ n, k.InRange n → ∀ state,
      writeBytes 0 (littleEndian (k.width / 8) (k.toWord n)) = writeInt state .u64 n ∧
        writeInt 0 k n = writeInt state .u64 n := by
  constructor
  · intro runs h
    have hnothing : (0 : UInt64).toNat = spelled [] := rfl
    have hspelled := toNat_runs hnothing h
    rw [List.append_nil] at hspelled
    have hlength : runs.flatten.length = runs.reverse.flatten.length := by simp
    refine ⟨hspelled, ?_⟩
    rw [hspelled, hlength, littleEndian_spelled]
  · intro k hk n hn state
    obtain ⟨hlow, hhigh⟩ := hn
    have hbounds : k.min = 0 ∧ k.max = (2 ^ k.width : Nat) - 1 ∧ 2 ^ k.width ≤ 2 ^ 64 := by
      simp only [List.mem_cons, List.not_mem_nil, or_false] at hk
      rcases hk with rfl | rfl | rfl | rfl <;> decide
    obtain ⟨hmin, hmax, hwide⟩ := hbounds
    obtain ⟨m, rfl⟩ := Int.eq_ofNat_of_zero_le (hmin ▸ hlow)
    have hm : m < 2 ^ k.width := by omega
    have hword : writeInt state .u64 m = m.toUInt64 :=
      congrArg Nat.toUInt64 (toWord_of_lt (k := .u64) (Nat.lt_of_lt_of_le hm hwide))
    rw [hword]
    exact writeInt_zero hk hm

/-- An empty run between two others, and the greatest number of two bytes. -/
theorem bytes_of_runs :
    ([[1, 2], [], [255]].foldl writeBytes 0).toNat = 0x0201ff ∧
      writeBytes 0 [255, 255] = writeInt 7 .u64 65535 := by
  obtain ⟨hruns, hnumbers⟩ := runs_spell
  exact ⟨(hruns [[1, 2], [], [255]] (by decide)).1,
    (hnumbers .u16 (by decide) 65535 (by decide) 7).1⟩

end Beans.Through
