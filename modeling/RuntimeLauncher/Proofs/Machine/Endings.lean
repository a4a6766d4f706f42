import Mathlib.Tactic
import RuntimeLauncher.Machine.WaitStatus

/-! How a child ended, by the bits of its wait status as the system defines them, and the exit code
that this makes. -/
namespace RuntimeLauncher

namespace WaitStatus

/-- The status as the system hands it over, a word with a sign. -/
def word (s : WaitStatus) : Int32 := s.raw.toInt32

/-- The child came to its end by itself, with a code. The shift keeps the sign of the word, and the
mask takes off what it brings in. -/
structure Exited (s : WaitStatus) (code : Nat) : Prop where
  test : s.word &&& 0x7F = 0
  code : ((s.word >>> 8) &&& 0xFF).toInt = code

/-- A signal ended the child. The sum is taken into eight bits, where it is below zero if all seven
are set, as they are for a child that is stopped. -/
structure Killed (s : WaitStatus) (signal : Nat) : Prop where
  test : (0 : Int8) < ((s.word &&& 0x7F) + 1).toInt8 >>> 1
  signal : (s.word &&& 0x7F).toInt = signal

/-- The same status but for the bit that says whether the memory of the child was saved. -/
def flipCore (s : WaitStatus) : WaitStatus := ⟨s.raw ^^^ 0x80⟩

section Bits
variable (s : WaitStatus)

theorem low_lt : s.low < 128 := Nat.mod_lt _ (by decide)

theorem toNat_masked : (s.word &&& 0x7F).toBitVec.toNat = s.low := by
  have hmask : (0x7F : Int32).toBitVec.toNat = 2 ^ 7 - 1 := rfl
  rw [Int32.toBitVec_and, BitVec.toNat_and, hmask, Nat.and_two_pow_sub_one_eq_mod, word,
    UInt32.toBitVec_toInt32, UInt32.toNat_toBitVec]
  rfl

theorem toInt_masked : (s.word &&& 0x7F).toInt = s.low := by
  have hlow := s.low_lt
  rw [← toNat_masked] at hlow ⊢
  exact BitVec.toInt_eq_toNat_of_lt (by omega)

/-- Of a byte that is shifted down nothing but the byte itself is left, whatever the sign is. -/
theorem sshiftRight_and (x : BitVec 32) : x.sshiftRight 8 &&& 0xFF#32 = (x >>> 8) &&& 0xFF#32 := by
  apply BitVec.eq_of_getLsbD_eq
  intro i hi
  rw [BitVec.getLsbD_and, BitVec.getLsbD_and, BitVec.getLsbD_sshiftRight,
    BitVec.getLsbD_ushiftRight]
  by_cases hbyte : i < 8
  · have hinside : 8 + i < 32 := by omega
    have hshort : ¬ 32 ≤ i := by omega
    simp [hinside, hshort]
  · have hmask : (0xFF#32).getLsbD i = false := by
      have hones : (0xFF#32).toNat = 2 ^ 8 - 1 := rfl
      rw [← BitVec.testBit_toNat, hones, Nat.testBit_two_pow_sub_one]
      exact decide_eq_false hbyte
    rw [hmask, Bool.and_false, Bool.and_false]

theorem toInt_code : ((s.word >>> 8) &&& 0xFF).toInt = (s.raw.toNat / 256 % 256 : Nat) := by
  have hmask : (0xFF#32).toNat = 2 ^ 8 - 1 := rfl
  have hbits : ((s.word >>> 8) &&& 0xFF).toBitVec.toNat = s.raw.toNat / 256 % 256 := by
    rw [Int32.toBitVec_and, Int32.toBitVec_shiftRight]
    change (s.raw.toBitVec.sshiftRight 8 &&& 0xFF#32).toNat = _
    rw [sshiftRight_and, BitVec.toNat_and, hmask, Nat.and_two_pow_sub_one_eq_mod,
      BitVec.toNat_ushiftRight, Nat.shiftRight_eq_div_pow, UInt32.toNat_toBitVec]
  have hbyte : s.raw.toNat / 256 % 256 < 256 := Nat.mod_lt _ (by decide)
  rw [← hbits] at hbyte ⊢
  exact BitVec.toInt_eq_toNat_of_lt (by omega)

theorem toInt_half (x : Int8) : (x >>> 1).toInt = x.toInt / 2 := by
  rw [← Int8.toInt_toBitVec, Int8.toBitVec_shiftRight]
  change (x.toBitVec.sshiftRight 1).toInt = _
  rw [BitVec.toInt_sshiftRight, Int.shiftRight_eq_div_pow]
  rfl

theorem test_killed_iff :
    (0 : Int8) < ((s.word &&& 0x7F) + 1).toInt8 >>> 1 ↔ 1 ≤ s.low ∧ s.low ≤ 126 := by
  have hlow := s.low_lt
  have hone : (1 : Int32).toInt = 1 := rfl
  have hzero : (0 : Int8).toInt = 0 := rfl
  rw [Int8.lt_iff_toInt_lt, toInt_half, Int32.toInt_toInt8, Int32.toInt_add, toInt_masked, hone,
    hzero]
  simp only [Int.bmod]
  omega

theorem exited_iff {code : Nat} : s.Exited code ↔ s.code? = some code := by
  have htest : s.word &&& 0x7F = 0 ↔ s.low = 0 := by
    rw [← Int32.toInt_inj, toInt_masked]
    exact Int.natCast_eq_zero
  unfold code?
  rw [Option.ite_none_right_eq_some, Option.some.injEq, ← htest, ← Int.natCast_inj, ← toInt_code]
  exact ⟨fun h => ⟨h.test, h.code⟩, fun h => ⟨h.1, h.2⟩⟩

theorem killed_iff {signal : Nat} : s.Killed signal ↔ s.signal? = some signal := by
  unfold signal?
  rw [Option.ite_none_right_eq_some, Option.some.injEq, ← test_killed_iff, ← Int.natCast_inj,
    ← toInt_masked]
  exact ⟨fun h => ⟨h.test, h.signal⟩, fun h => ⟨h.1, h.2⟩⟩

theorem low_flipCore : s.flipCore.low = s.low := by
  unfold low flipCore
  have hbits : (s.raw ^^^ 0x80).toNat % 2 ^ 7 = s.raw.toNat % 2 ^ 7 := by
    rw [UInt32.toNat_xor, Nat.xor_mod_two_pow]
    exact Nat.xor_zero _
  exact hbits

end Bits

section ExitCode
variable {s : WaitStatus} {code signal : Nat}

theorem Exited.exitCode_eq (h : s.Exited code) : s.exitCode = code := by
  rw [exitCode, s.exited_iff.1 h]

theorem Exited.code_lt (h : s.Exited code) : code < 256 := by
  have hcode := h.code
  rw [toInt_code] at hcode
  omega

theorem Killed.not_exited (h : s.Killed signal) : ¬ s.Exited code := by
  intro hexited
  have hlow := s.test_killed_iff.1 h.test
  have hzero := s.toInt_masked
  rw [hexited.test, Int32.toInt_zero] at hzero
  omega

theorem Killed.bounds (h : s.Killed signal) : 1 ≤ signal ∧ signal ≤ 126 := by
  have hlow := s.test_killed_iff.1 h.test
  have hsignal := h.signal
  rw [toInt_masked] at hsignal
  omega

theorem Killed.exitCode_eq (h : s.Killed signal) : s.exitCode = 128 + signal := by
  have hcode : s.code? = none := by
    rw [Option.eq_none_iff_forall_ne_some]
    exact fun code hcode => h.not_exited (s.exited_iff.2 hcode)
  rw [exitCode, hcode, s.killed_iff.1 h]

theorem Killed.flipCore (h : s.Killed signal) : s.flipCore.Killed signal := by
  rw [killed_iff] at h ⊢
  rwa [signal?, s.low_flipCore]

theorem exitCode_of_not_ended (hexited : ∀ code, ¬ s.Exited code)
    (hkilled : ∀ signal, ¬ s.Killed signal) : s.exitCode = 1 := by
  simp only [exited_iff] at hexited
  simp only [killed_iff] at hkilled
  rw [exitCode, Option.eq_none_iff_forall_ne_some.2 hexited,
    Option.eq_none_iff_forall_ne_some.2 hkilled]

/-- A child came to its end by itself, or by a signal, or it did not end. -/
theorem exitCode_cases (s : WaitStatus) :
    (∃ code, s.Exited code) ∨ (∃ signal, s.Killed signal) ∨ s.exitCode = 1 := by
  by_cases hexited : ∃ code, s.Exited code
  · exact .inl hexited
  · by_cases hkilled : ∃ signal, s.Killed signal
    · exact .inr (.inl hkilled)
    · exact .inr (.inr (exitCode_of_not_ended (not_exists.1 hexited) (not_exists.1 hkilled)))

theorem exitCode_le (s : WaitStatus) : s.exitCode ≤ 255 := by
  rcases s.exitCode_cases with ⟨code, h⟩ | ⟨signal, h⟩ | h
  · have hcode := h.code_lt
    rw [h.exitCode_eq]
    omega
  · have hsignal := h.bounds
    rw [h.exitCode_eq]
    omega
  · rw [h]
    decide

theorem exitCode_eq_zero_iff : s.exitCode = 0 ↔ s.Exited 0 := by
  constructor
  · intro hzero
    rcases s.exitCode_cases with ⟨code, h⟩ | ⟨signal, h⟩ | h
    · rwa [← h.exitCode_eq, hzero] at h
    · rw [h.exitCode_eq] at hzero
      omega
    · rw [h] at hzero
      contradiction
  · exact fun h => h.exitCode_eq

/-- What a status comes to fits in a byte, so that a launcher exits with it as it is. -/
theorem forwardedCode_exitCode (s : WaitStatus) : forwardedCode s.exitCode = s.exitCode := by
  have hle := s.exitCode_le
  rw [forwardedCode, if_pos (by omega), Int.toNat_natCast]

end ExitCode

end WaitStatus

end RuntimeLauncher
