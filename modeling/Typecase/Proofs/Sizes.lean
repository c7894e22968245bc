import Mathlib.Data.Nat.Log
import Mathlib.Order.Bounds.Basic
import Typecase.Proofs.Crowding

/-! How many slots a cache has. It wants the least power of two with room for twice the types that
it expects, takes as much of it as its configuration allows, and fails only where no word holds it.
As a rehash expects the types that are known, half of the slots suffice for them afterwards, unless
the table is as large as it may be. -/

namespace Typecase

section Doubling
open private Nat.nextPowerOfTwo.go from Init.Data.Nat.Power2.Basic

/-- Doubling a power of two stops at the first one with room, behind which the others are. -/
theorem least_doubled (room power : Nat) (positive : 0 < power) (start : power.isPowerOfTwo) :
    room ≤ Nat.nextPowerOfTwo.go room power positive ∧
    ∀ bits, power ≤ slotsOf bits → room ≤ slotsOf bits →
      Nat.nextPowerOfTwo.go room power positive ≤ slotsOf bits := by
  fun_induction Nat.nextPowerOfTwo.go room power positive with
  | case1 power positive short ih =>
    obtain ⟨enough, least⟩ := ih (Nat.isPowerOfTwo_mul_two_of_isPowerOfTwo start)
    refine ⟨enough, fun bits below wide => least bits ?_ wide⟩
    -- A power that is too small lies strictly below any with room, so its double is not above it.
    obtain ⟨exponent, rfl⟩ := start
    have smaller : exponent < bits :=
      (Nat.pow_lt_pow_iff_right Nat.one_lt_two).1 (Nat.lt_of_lt_of_le short wide)
    exact Nat.pow_le_pow_right Nat.two_pos smaller
  | case2 power positive enough =>
    exact ⟨Nat.le_of_not_lt enough, fun bits below _ => below⟩

theorem le_nextPowerOfTwo (room : Nat) : room ≤ room.nextPowerOfTwo :=
  (least_doubled room 1 Nat.one_pos Nat.isPowerOfTwo_one).1

theorem nextPowerOfTwo_le (room bits : Nat) (wide : room ≤ slotsOf bits) :
    room.nextPowerOfTwo ≤ slotsOf bits :=
  (least_doubled room 1 Nat.one_pos Nat.isPowerOfTwo_one).2 bits (slotsOf_pos bits) wide

end Doubling

theorem slotsOf_le_iff (fewer bits : Nat) : slotsOf fewer ≤ slotsOf bits ↔ fewer ≤ bits :=
  Nat.pow_le_pow_iff_right (by decide)

theorem clog_le_iff (room bits : Nat) : Nat.clog 2 room ≤ bits ↔ room ≤ slotsOf bits :=
  Nat.clog_le_iff_le_pow (by decide)

theorem isLeast_clog (room : Nat) : IsLeast {bits | room ≤ slotsOf bits} (Nat.clog 2 room) := by
  constructor
  · exact (clog_le_iff room _).1 (Nat.le_refl _)
  · intro bits wide
    exact (clog_le_iff room bits).2 wide

theorem nextPowerOfTwo_eq (room : Nat) : room.nextPowerOfTwo = slotsOf (Nat.clog 2 room) := by
  apply Nat.le_antisymm
  · exact nextPowerOfTwo_le room _ (isLeast_clog room).1
  · obtain ⟨bits, power⟩ := Nat.isPowerOfTwo_nextPowerOfTwo room
    change room.nextPowerOfTwo = slotsOf bits at power
    have enough := le_nextPowerOfTwo room
    rw [power] at enough ⊢
    exact (slotsOf_le_iff _ bits).2 ((clog_le_iff room bits).2 enough)

namespace Config

theorem slotsFor_eq (expected : Nat) :
    slotsFor expected = slotsOf (Nat.clog 2 (roomFor expected)) :=
  nextPowerOfTwo_eq (roomFor expected)

theorem roomFor_mono (fewer expected : Nat) (ordered : fewer ≤ expected) :
    roomFor fewer ≤ roomFor expected := by
  unfold roomFor
  omega

theorem roomFor_of_le (expected : Nat) (small : expected ≤ slotsOf 62) :
    roomFor expected = 2 * max expected 1 := by
  have half : slotsOf 62 = 4611686018427387904 := rfl
  unfold roomFor Word.limit64
  omega

/-- No word holds the wanted number of slots exactly if more than `2 ^ 62` types are expected. -/
theorem limit64_le_slotsFor_iff (expected : Nat) :
    Word.limit64 ≤ slotsFor expected ↔ slotsOf 62 < expected := by
  have word : Word.limit64 = slotsOf 64 := rfl
  rw [slotsFor_eq, word, slotsOf_le_iff, ← Nat.not_lt, Nat.lt_succ_iff, clog_le_iff]
  have half : slotsOf 62 = 4611686018427387904 := rfl
  have whole : slotsOf 63 = 9223372036854775808 := rfl
  unfold roomFor Word.limit64
  omega

section Bits
variable (config : Config)

theorem bitsFor_eq (expected : Nat) :
    config.bitsFor expected =
      min config.maxBits (max config.minBits (Nat.clog 2 (roomFor expected))) := by
  rw [bitsFor, slotsFor_eq]
  congr 2
  exact Nat.log2_two_pow

theorem bitsFor_mono (fewer expected : Nat) (ordered : fewer ≤ expected) :
    config.bitsFor fewer ≤ config.bitsFor expected := by
  have wider := Nat.clog_mono_right 2 (roomFor_mono fewer expected ordered)
  rw [bitsFor_eq, bitsFor_eq]
  omega

variable (ordered : config.minBits ≤ config.maxBits)
include ordered

theorem checkedBitsFor_of_le (expected : Nat) (small : expected ≤ slotsOf 62) :
    config.checkedBitsFor expected = .ok (config.bitsFor expected) := by
  have room : ¬Word.limit64 ≤ slotsFor expected := by
    rw [limit64_le_slotsFor_iff]
    exact Nat.not_lt_of_le small
  rw [checkedBitsFor, if_neg room, if_neg (Nat.not_lt_of_le ordered)]

theorem checkedBitsFor_error_iff (expected : Nat) (fault : Fault) :
    config.checkedBitsFor expected = .error fault ↔
      slotsOf 62 < expected ∧ fault = .sizeOverflow expected := by
  by_cases small : expected ≤ slotsOf 62
  · rw [config.checkedBitsFor_of_le ordered expected small]
    constructor
    · intro failed
      cases failed
    · intro large
      exact absurd large.1 (Nat.not_lt_of_le small)
  · have large := Nat.lt_of_not_le small
    rw [checkedBitsFor, if_pos ((limit64_le_slotsFor_iff expected).2 large)]
    simp [large, eq_comm]

end Bits

end Config

namespace Cache

/-- Half of the slots suffice for the known tokens, or there are as many slots as there may be. -/
def Roomy (cache : Cache) : Prop :=
  2 * cache.size ≤ cache.slotCount ∨ cache.bits = cache.config.maxBits

section Roomy
variable (cache : Cache)

theorem rehashedBits_roomy (valid : cache.config.Valid) :
    2 * cache.size ≤ slotsOf cache.rehashedBits ∨ cache.rehashedBits = cache.config.maxBits := by
  have bounded := valid.bounded
  have enough := cache.config.bitsFor_eq cache.size
  by_cases largest : cache.rehashedBits = cache.config.maxBits
  · exact Or.inr largest
  · left
    have wanted : Nat.clog 2 (Config.roomFor cache.size) ≤ cache.rehashedBits := by
      unfold rehashedBits at largest ⊢
      omega
    have small : slotsOf cache.rehashedBits ≤ slotsOf Config.largestBits := by
      apply (slotsOf_le_iff _ _).2
      exact Nat.le_trans cache.rehashedBits_le bounded
    have most : slotsOf Config.largestBits = 1048576 := rfl
    have room := (clog_le_iff _ _).1 wanted
    unfold Config.roomFor Word.limit64 at room
    omega

theorem roomy_rehash (formed : cache.Formed) : cache.rehash.Roomy := by
  unfold Roomy slotCount
  rw [(cache.formed_rehash formed).full]
  exact cache.rehashedBits_roomy formed.valid

/-- Also a rehash that a look-up sets off leaves enough room, for the token looked up as well. -/
theorem roomy_perform (formed : cache.Formed) (request : Request)
    (rehashed : (cache.perform request).state.counts.rehashes ≠ cache.counts.rehashes) :
    (cache.perform request).state.Roomy := by
  rcases cache.perform_cases request with ⟨-, calm⟩ | ⟨ready, before, -, after, store⟩
  · exact absurd calm.rehashes rehashed
  · have valid : ready.config.Valid := before.config ▸ formed.valid
    have size : (cache.perform request).state.size = ready.size := congrArg Store.size store
    unfold Roomy slotCount
    rw [(cache.formed_perform formed request).full, after.bits, after.config, size]
    exact ready.rehashedBits_roomy valid

end Roomy

end Cache

/-- The size for a hint is the least that leaves every other slot free, brought into the configured
range, unless the hint is above `2 ^ 62`, where computing it fails. It grows with the hint, and each
rehash makes a cache that has room for the tokens that it knows. -/
theorem Config.sizes_follow_hints (config : Config) (ordered : config.minBits ≤ config.maxBits) :
    (∀ hint fault, config.checkedBitsFor hint = .error fault ↔
      slotsOf 62 < hint ∧ fault = .sizeOverflow hint) ∧
    (∀ hint ≤ slotsOf 62, ∃ bits, IsLeast {bits | 2 * max hint 1 ≤ slotsOf bits} bits ∧
      config.checkedBitsFor hint = .ok (max config.minBits (min config.maxBits bits))) ∧
    (∀ fewer hint bits, fewer ≤ hint → config.checkedBitsFor hint = .ok bits →
      ∃ less ≤ bits, config.checkedBitsFor fewer = .ok less) ∧
    ∀ hint backing cache, Cache.create hint config backing = .ok cache →
      ∀ requests, (cache.run requests).rehash.Roomy ∧
        ∀ request, ((cache.run requests).perform request).state.counts.rehashes ≠
            (cache.run requests).counts.rehashes →
          ((cache.run requests).perform request).state.Roomy := by
  refine ⟨config.checkedBitsFor_error_iff ordered, ?_, ?_, ?_⟩
  · intro hint small
    refine ⟨Nat.clog 2 (2 * max hint 1), isLeast_clog _, ?_⟩
    rw [config.checkedBitsFor_of_le ordered hint small, config.bitsFor_eq, roomFor_of_le hint small]
    congr 1
    omega
  · intro fewer hint bits smaller sized
    have small : hint ≤ slotsOf 62 := by
      by_contra large
      rw [(config.checkedBitsFor_error_iff ordered hint _).2 ⟨Nat.lt_of_not_le large, rfl⟩] at sized
      cases sized
    rw [config.checkedBitsFor_of_le ordered hint small] at sized
    cases sized
    exact ⟨config.bitsFor fewer, config.bitsFor_mono fewer hint smaller,
      config.checkedBitsFor_of_le ordered fewer (Nat.le_trans smaller small)⟩
  · intro hint backing cache created requests
    obtain ⟨valid, -, -, rfl⟩ := (Cache.create_eq_ok_iff hint config backing cache).1 created
    have formed := Cache.formed_run _ (Cache.formed_fresh hint config backing valid) requests
    exact ⟨Cache.roomy_rehash _ formed, Cache.roomy_perform _ formed⟩

/-- One type is expected and two come by. They share a slot until a look-up finds the cache crowded
and sets off a rehash, and then there are two slots for each of them. -/
theorem Config.sizes_follow_hints_crowded :
    let config := { Config.default with minBits := 0, maxBits := 3, rehashThreshold := 1 }
    let requests := [Cache.Request.lookup ⟨8⟩, .lookup ⟨24⟩, .lookup ⟨8⟩]
    config.minBits ≤ config.maxBits ∧
    config.checkedBitsFor (slotsOf 62 + 1) = .error (.sizeOverflow (slotsOf 62 + 1)) ∧
    (∃ bits, IsLeast {bits | 2 * max 1 1 ≤ slotsOf bits} bits ∧
      config.checkedBitsFor 1 = .ok (max 0 (min 3 bits))) ∧
    ∃ cache, Cache.create 1 config .arrival = .ok cache ∧
      ((cache.run requests).perform (.lookup ⟨24⟩)).state.counts.rehashes ≠
        (cache.run requests).counts.rehashes ∧
      ((cache.run requests).perform (.lookup ⟨24⟩)).state.Roomy := by
  intro config requests
  have ordered : config.minBits ≤ config.maxBits := by decide
  obtain ⟨fails, least, -, roomy⟩ := config.sizes_follow_hints ordered
  have created := (Cache.create_eq_ok_iff 1 config .arrival _).2 ⟨by decide, by cbv, by decide, rfl⟩
  have rehashed : (((Cache.fresh 1 config .arrival).run requests).perform
      (.lookup ⟨24⟩)).state.counts.rehashes ≠
      ((Cache.fresh 1 config .arrival).run requests).counts.rehashes := by
    unfold config requests
    cbv
  exact ⟨ordered, (fails _ _).2 ⟨Nat.lt_succ_self _, rfl⟩, least 1 (by decide), _, created,
    rehashed, (roomy 1 .arrival _ created requests).2 _ rehashed⟩

end Typecase
