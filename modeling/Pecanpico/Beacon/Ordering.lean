import Pecanpico.Beacon.Schedule

/-! Telemetry configuration before position: what the first pass past the check guarantees. -/
namespace Pecanpico.Beacon

section
variable {W n : Nat} {sram : ConfSram} {conf : BcnAppConf} {t0 : Nat}

theorem Chronological.tail {τ : Nat} {r : BcnRound} {rs : List BcnRound}
    (h : Chronological τ (r :: rs)) : Chronological τ rs := by
  obtain ⟨hr, hrs⟩ := chronological_cons.mp h
  cases rs with
  | nil => exact List.Chain.nil
  | cons q rs =>
    obtain ⟨hq, hrest⟩ := chronological_cons.mp hrs
    exact chronological_cons.mpr ⟨hr.trans hq, hrest⟩

/-- The first pass that reaches the check within the first wrap. -/
def FirstCheckInTime (W t0 c : Nat) (rounds : List BcnRound) : Prop :=
  ∀ pre r post, rounds = pre ++ r :: post → (∀ q ∈ pre, ¬Reaches q) → Reaches r →
    r.now - t0 + c < 2 ^ W

theorem FirstCheckInTime.tail {c : Nat} {r : BcnRound} {rs : List BcnRound}
    (h : FirstCheckInTime W t0 c (r :: rs)) (hr : ¬Reaches r) : FirstCheckInTime W t0 c rs := by
  intro pre q post hrs hpre
  exact h (r :: pre) q post (by simp [hrs]) (by simpa [hr] using hpre)

end

end Pecanpico.Beacon
