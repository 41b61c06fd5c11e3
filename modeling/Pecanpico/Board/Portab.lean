import Mathlib.Data.BitVec
import Mathlib.Data.Nat.Find

/-! The board portability module `portab.c`: counting the radios of `radio_list`, and packing
the I/O lines into a byte. -/
namespace Pecanpico.Board

inductive RadioUnit where
  | pktRadioNone
  | pktRadio (n : Nat)
  deriving DecidableEq, Repr

def radioListUnits (i : Nat) : RadioUnit := if i = 0 then .pktRadio 1 else .pktRadioNone

/-- The `while` loop of `pktGetNumRadios` from index `i`, with `fuel` passes: the result is `i`
after the pass that read the end mark. `i` is a `uint8_t`; after 256 passes without the end
mark the loop is back where it started and never ends (`none`). -/
def numRadiosLoop (units : Nat → RadioUnit) : Nat → Nat → Option Nat
  | 0, _ => none
  | fuel + 1, i =>
    if units i ≠ .pktRadioNone then numRadiosLoop units fuel ((i + 1) % 256)
    else some ((i + 1) % 256)

/-- `pktGetNumRadios`: `while(radio_list[i++].unit != PKT_RADIO_NONE); return --i;`. -/
def pktGetNumRadios (units : Nat → RadioUnit) : Option Nat :=
  (numRadiosLoop units 256 0).map fun i => (i + 255) % 256

section
variable {units : Nat → RadioUnit}

theorem numRadiosLoop_of_end {fuel i k : Nat} (h : k < 256) (hk : k < i + fuel) (hik : i ≤ k)
    (hend : units k = .pktRadioNone) (hbefore : ∀ j, i ≤ j → j < k → units j ≠ .pktRadioNone) :
    numRadiosLoop units fuel i = some ((k + 1) % 256) := by
  induction fuel generalizing i with
  | zero => omega
  | succ fuel ih =>
    rcases Nat.eq_or_lt_of_le hik with rfl | hlt
    · simp [numRadiosLoop, hend]
    · rw [numRadiosLoop, if_pos (hbefore i le_rfl hlt), Nat.mod_eq_of_lt (by omega)]
      exact ih (by omega) hlt fun j hj hjk => hbefore j (by omega) hjk

theorem numRadiosLoop_of_no_end {fuel i : Nat} (hi : i < 256)
    (hnone : ∀ j < 256, units j ≠ .pktRadioNone) : numRadiosLoop units fuel i = none := by
  induction fuel generalizing i with
  | zero => rfl
  | succ fuel ih =>
    rw [numRadiosLoop, if_pos (hnone i hi)]
    exact ih (Nat.mod_lt _ (by decide))

theorem numRadiosLoop_spec {fuel : Nat} (h : 256 ≤ fuel) :
    numRadiosLoop units fuel 0 = if hex : ∃ k, k < 256 ∧ units k = .pktRadioNone then
      some ((Nat.find hex + 1) % 256) else none := by
  by_cases hex : ∃ k, k < 256 ∧ units k = .pktRadioNone
  · obtain ⟨hlt, hend⟩ := Nat.find_spec hex
    rw [dif_pos hex, numRadiosLoop_of_end hlt (by omega) (Nat.zero_le _) hend
      fun j _ hj h => Nat.find_min hex hj ⟨hj.trans hlt, h⟩]
  · rw [dif_neg hex, numRadiosLoop_of_no_end (by decide) fun j hj h => hex ⟨j, hj, h⟩]

/-- The C loop has no fuel: every number of passes from one whole `uint8_t` cycle on gives
what 256 passes give, so "never returns" is not an artefact of the bound. -/
theorem numRadiosLoop_fuel {fuel : Nat} (h : 256 ≤ fuel) :
    numRadiosLoop units fuel 0 = numRadiosLoop units 256 0 :=
  (numRadiosLoop_spec h).trans (numRadiosLoop_spec le_rfl).symm

/-- `pktGetNumRadios` returns the index of the first end mark of `radio_list` when it lies
among the first 256 entries, and never returns otherwise. -/
theorem pktGetNumRadios_spec (units : Nat → RadioUnit) :
    (∀ k, pktGetNumRadios units = some k ↔
      k < 256 ∧ units k = .pktRadioNone ∧ ∀ j < k, units j ≠ .pktRadioNone) ∧
    (pktGetNumRadios units = none ↔ ∀ j < 256, units j ≠ .pktRadioNone) := by
  rw [pktGetNumRadios, numRadiosLoop_spec le_rfl]
  by_cases hex : ∃ k, k < 256 ∧ units k = .pktRadioNone
  · obtain ⟨hlt, hend⟩ := Nat.find_spec hex
    rw [dif_pos hex, Option.map_some',
      show ((Nat.find hex + 1) % 256 + 255) % 256 = Nat.find hex by omega]
    refine ⟨fun k => ?_, ?_⟩
    · rw [Option.some.injEq, Nat.find_eq_iff]
      exact ⟨fun ⟨⟨hk, hkend⟩, hkmin⟩ => ⟨hk, hkend, fun j hj h => hkmin j hj ⟨by omega, h⟩⟩,
        fun ⟨hk, hkend, hkmin⟩ => ⟨⟨hk, hkend⟩, fun j hj h => hkmin j hj h.2⟩⟩
    · simp only [reduceCtorEq, false_iff, not_forall, not_not]
      exact ⟨_, hlt, hend⟩
  · have hnone : ∀ j < 256, units j ≠ .pktRadioNone := fun j hj h => hex ⟨j, hj, h⟩
    rw [dif_neg hex, Option.map_none']
    refine ⟨fun k => ?_, iff_of_true rfl hnone⟩
    simp only [reduceCtorEq, false_iff, not_and]
    exact fun hk hend => absurd hend (hnone k hk)

end

example : pktGetNumRadios radioListUnits = some 1 := by decide

def palReadLine (high : Bool) : Nat := if high then 1 else 0

/-- `pktReadIOlines`: `GPIO_PIN1 | IO_TXD << 1 | IO_RXD << 2 | GPIO_PIN2` as a `uint8_t`. -/
def pktReadIOlines (pin1 txd rxd pin2 : Bool) : BitVec 8 :=
  BitVec.ofNat 8
    (palReadLine pin1 ||| palReadLine txd <<< 1 ||| palReadLine rxd <<< 2 ||| palReadLine pin2)

-- The byte holds TXD in bit 1 and RXD in bit 2, but GPIO_PIN2 lands in bit 0 with GPIO_PIN1.
example : ∀ pin1 txd rxd pin2, (pktReadIOlines pin1 txd rxd pin2).toNat =
    palReadLine (pin1 || pin2) + 2 * palReadLine txd + 4 * palReadLine rxd := by
  decide

end Pecanpico.Board
