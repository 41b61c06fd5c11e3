import Pecanpico.Beacon.Thread
import Mathlib.Tactic.Ring
import Mathlib.Tactic.Linarith

/-! The telemetry configuration schedule: groups start at `t0`, `t0 + c`, `t0 + 2c`, ... -/
namespace Pecanpico.Beacon

/-- The number of telemetry configuration groups a list of events starts. -/
def groupsStarted (evs : List BcnEvent) : Nat := evs.count (.trace msgTelemetryConfiguration)

/-- Real time never goes back: each pass reads the clock no earlier than the one before. -/
def Chronological (t0 : Nat) (rounds : List BcnRound) : Prop :=
  List.Chain (· ≤ ·) t0 (rounds.map BcnRound.now)

/-- After `k` groups, `last_conf_transmission` holds `t0 + (k - 1) c` in `W` bits, and the
clock `τ` has reached that instant: no group started early. -/
def OnSchedule (W t0 c k : Nat) (last : Int) (τ : Nat) : Prop :=
  last = ((t0 : Int) + ((k : Int) - 1) * c) % 2 ^ W ∧ (t0 : Int) + ((k : Int) - 1) * c ≤ τ

@[simp] theorem groupsStarted_nil : groupsStarted [] = 0 := rfl

theorem emod_le_of_nonneg {d m : Int} (hd : 0 ≤ d) (hm : 0 < m) : d % m ≤ d := by
  have := Int.ediv_nonneg hd hm.le
  have := Int.mul_nonneg hm.le this
  rw [Int.emod_def]
  omega

@[simp] theorem groupsStarted_append (a b : List BcnEvent) :
    groupsStarted (a ++ b) = groupsStarted a + groupsStarted b :=
  List.count_append _ _ _

theorem mem_sendPacket {e : BcnEvent} {p : BcnPacket} {o : Option Bool} {a b : String}
    (h : e ∈ sendPacket p o a b) :
    e = .trace a ∨ e = .trace b ∨ ∃ ok, e = .transmitOnRadio p ok := by
  rcases o with _ | _ | _ <;>
    simp only [sendPacket, List.mem_cons, List.mem_singleton, List.not_mem_nil, or_false] at h <;>
    rcases h with rfl | rfl <;> simp

theorem groupsStarted_sendPacket {p : BcnPacket} {o : Option Bool} {a b : String}
    (ha : a ≠ msgTelemetryConfiguration) (hb : b ≠ msgTelemetryConfiguration) :
    groupsStarted (sendPacket p o a b) = 0 := by
  refine List.count_eq_zero.mpr fun h => ?_
  rcases mem_sendPacket h with h | h | ⟨_, h⟩ <;> simp_all

theorem groupsStarted_telemetryConfiguration (n : Nat) (conf : BcnAppConf)
    (f : Nat → Option Bool) : groupsStarted (telemetryConfiguration n conf f) = 0 := by
  refine List.count_eq_zero.mpr fun h => ?_
  obtain ⟨_, -, h⟩ := List.mem_flatMap.mp h
  rcases mem_sendPacket h with h | h | ⟨_, h⟩ <;> simp [msgTelemetryConfiguration] at h

theorem groupsStarted_configurationGroup (n : Nat) (conf : BcnAppConf)
    (f : Nat → Option Bool) : groupsStarted (configurationGroup n conf f) = 1 := by
  unfold configurationGroup groupsStarted
  rw [List.count_cons_self]
  exact congrArg (· + 1) (groupsStarted_telemetryConfiguration n conf f)

theorem groupsStarted_cons_of_ne {e : BcnEvent} (h : BcnEvent.trace msgTelemetryConfiguration ≠ e)
    (l : List BcnEvent) : groupsStarted (e :: l) = groupsStarted l :=
  List.count_cons_of_ne h l

theorem groupsStarted_positionAndAprsd (sram : ConfSram) (conf : BcnAppConf) (r : BcnRound) :
    groupsStarted (positionAndAprsd sram conf r) = 0 := by
  dsimp only [positionAndAprsd]
  rw [groupsStarted_append, groupsStarted_cons_of_ne (by decide),
    groupsStarted_cons_of_ne (by decide), groupsStarted_sendPacket (by decide) (by decide),
    groupsStarted_sendPacket (by decide) (by decide)]

theorem groupsStarted_bcnIteration (W n : Nat) (sram : ConfSram) (conf : BcnAppConf)
    (last : Int) (r : BcnRound) :
    groupsStarted (bcnIteration W n sram conf last r).2 =
      if Reaches r ∧ configDue W sram last r.now = true then 1 else 0 := by
  have hcycle := groupsStarted_cons_of_ne (BcnEvent.noConfusion : BcnEvent.trace _ ≠
    .traceCycle conf.call conf.frequencyCode)
  by_cases hr : Reaches r
  · cases hd : configDue W sram last r.now
    · rw [bcnIteration_of_not_due W n hr hd, hcycle, groupsStarted_positionAndAprsd]
      simp
    · rw [bcnIteration_of_due W n hr hd, hcycle, groupsStarted_append,
        groupsStarted_configurationGroup, groupsStarted_positionAndAprsd, if_pos ⟨hr, rfl⟩]
  · rw [if_neg (show ¬(Reaches r ∧ _) from fun h => hr h.1), bcnIteration_of_not_reaches W n hr,
      hcycle]
    split
    · rfl
    · exact groupsStarted_cons_of_ne BcnEvent.noConfusion _

theorem groupsStarted_bcnIteration_le_one (W n : Nat) (sram : ConfSram) (conf : BcnAppConf)
    (last : Int) (r : BcnRound) : groupsStarted (bcnIteration W n sram conf last r).2 ≤ 1 := by
  rw [groupsStarted_bcnIteration]
  split <;> omega

theorem chronological_cons {τ : Nat} {r : BcnRound} {rs : List BcnRound} :
    Chronological τ (r :: rs) ↔ τ ≤ r.now ∧ Chronological r.now rs :=
  List.chain_cons

theorem Chronological.le_of_mem {τ : Nat} {rounds : List BcnRound} (h : Chronological τ rounds)
    {r : BcnRound} (hr : r ∈ rounds) : τ ≤ r.now :=
  List.Chain.rel h (List.mem_map_of_mem _ hr)

theorem Chronological.of_append {τ : Nat} {pre : List BcnRound} {r : BcnRound}
    (h : Chronological τ (pre ++ [r])) :
    Chronological τ pre ∧ ∀ q ∈ pre, q.now ≤ r.now := by
  induction pre generalizing τ with
  | nil => exact ⟨List.Chain.nil, by simp⟩
  | cons q pre ih =>
    obtain ⟨hq, hrest⟩ := chronological_cons.mp h
    obtain ⟨hpre, hle⟩ := ih hrest
    refine ⟨chronological_cons.mpr ⟨hq, hpre⟩, fun q' hq' => ?_⟩
    rcases List.mem_cons.mp hq' with rfl | hq'
    · exact hrest.le_of_mem (by simp)
    · exact hle q' hq'

theorem OnSchedule.mono {W t0 c k : Nat} {last : Int} {τ τ' : Nat}
    (h : OnSchedule W t0 c k last τ) (hτ : τ ≤ τ') : OnSchedule W t0 c k last τ' :=
  ⟨h.1, h.2.trans (by exact_mod_cast hτ)⟩

/-- A `conf_sram` with the default three-hour cycle at a 10 kHz system tick. -/
def wrapSram : ConfSram :=
  { telEncCycle := 108000000, baseEnabled := false, baseCall := "", basePath := "" }

def wrapConf : BcnAppConf :=
  { call := "DL7AD-12", path := "WIDE1-1", runOnce := false, frequencyCode := "APRS" }

/-- A pass with a valid position where every packet is encoded and sent. -/
def fixRound (t : Nat) : BcnRound :=
  { now := t, sleep := false, dataPoint := some 0, positionValid := true,
    configuration := fun _ => some true, position := some true, aprsd := some true }

section
variable {W n : Nat} {sram : ConfSram} {conf : BcnAppConf} {t0 : Nat}

theorem chVTTimeElapsedSinceX_emod (x : Int) (t : Nat) :
    chVTTimeElapsedSinceX W (x % 2 ^ W) t = ((t : Int) - x) % 2 ^ W :=
  (Int.sub_emod _ _ _).symm

@[simp] theorem configDue_eq_true (last : Int) (t : Nat) :
    configDue W sram last t = true ↔
      sram.telEncCycle ≠ 0 ∧ (sram.telEncCycle : Int) ≤ chVTTimeElapsedSinceX W last t := by
  simp [configDue]

theorem onSchedule_initial (W : Nat) (sram : ConfSram) (t0 : Nat) :
    OnSchedule W t0 sram.telEncCycle 0 (initialLast W sram t0) t0 := by
  refine ⟨?_, by omega⟩
  rw [initialLast, chVTGetSystemTime, Int.sub_emod, Int.emod_emod, ← Int.sub_emod]
  push_cast
  ring_nf

/-- A pass that starts a group does so no earlier than the schedule's next instant, and moves
`last_conf_transmission` on by exactly one cycle. -/
theorem onSchedule_bcnIteration (n : Nat) (conf : BcnAppConf) {k : Nat} {last : Int} {τ : Nat}
    {r : BcnRound}
    (h : OnSchedule W t0 sram.telEncCycle k last τ) (hτ : τ ≤ r.now) :
    OnSchedule W t0 sram.telEncCycle (k + groupsStarted (bcnIteration W n sram conf last r).2)
      (bcnIteration W n sram conf last r).1 r.now := by
  obtain ⟨hlast, hle⟩ := h
  rw [groupsStarted_bcnIteration]
  by_cases hr : Reaches r
  · cases hd : configDue W sram last r.now
    · rw [bcnIteration_of_not_due W n hr hd]
      simpa using OnSchedule.mono ⟨hlast, hle⟩ hτ
    · obtain ⟨-, hdue⟩ := (configDue_eq_true last r.now).mp hd
      rw [hlast, chVTTimeElapsedSinceX_emod] at hdue
      have hmod := emod_le_of_nonneg (by omega : (0 : Int) ≤ r.now - (t0 + ((k : Int) - 1) *
        sram.telEncCycle)) (pow_pos (by norm_num : (0 : Int) < 2) W)
      rw [bcnIteration_of_due W n hr hd, if_pos ⟨hr, rfl⟩]
      refine ⟨?_, ?_⟩
      · rw [hlast, Int.emod_add_emod]
        push_cast
        ring_nf
      · push_cast
        linarith
  · rw [bcnIteration_of_not_reaches W n hr, if_neg (fun h => hr h.1)]
    exact OnSchedule.mono ⟨hlast, hle⟩ hτ

/-- Every run keeps the schedule; the clock bound `B` is any instant no pass is later than. -/
theorem onSchedule_bcnRun (n : Nat) (conf : BcnAppConf) {k : Nat} {last : Int} {τ B : Nat}
    {rounds : List BcnRound}
    (h : OnSchedule W t0 sram.telEncCycle k last τ) (hchron : Chronological τ rounds)
    (hτ : τ ≤ B) (hB : ∀ r ∈ rounds, r.now ≤ B) :
    OnSchedule W t0 sram.telEncCycle (k + groupsStarted (bcnRun W n sram conf last rounds).2)
      (bcnRun W n sram conf last rounds).1 B := by
  induction rounds generalizing k last τ with
  | nil => simpa [bcnRun, groupsStarted] using h.mono hτ
  | cons r rs ih =>
    obtain ⟨hr, hrs⟩ := chronological_cons.mp hchron
    have hstep := onSchedule_bcnIteration n conf h hr
    have := ih hstep hrs (hB r (List.mem_cons_self r rs))
      (fun q hq => hB q (List.mem_cons_of_mem r hq))
    simpa [bcnRun, Nat.add_assoc] using this


/-- Below the wrap of `systime_t`, the elapsed-time test reads the true lag behind the schedule,
so a group is due exactly when the `k` groups so far have all fallen due. -/
theorem configDue_iff_below_wrap {k : Nat} {last : Int} {t : Nat}
    (h : OnSchedule W t0 sram.telEncCycle k last t) (ht0 : t0 ≤ t) (hc : sram.telEncCycle ≠ 0)
    (hlag : (t : Int) - (t0 + ((k : Int) - 1) * sram.telEncCycle) < 2 ^ W) :
    configDue W sram last t = true ↔ k ≤ (t - t0) / sram.telEncCycle := by
  rw [configDue_eq_true, h.1, chVTTimeElapsedSinceX_emod, Int.emod_eq_of_lt (by linarith [h.2])
    hlag, Nat.le_div_iff_mul_le (Nat.pos_of_ne_zero hc), ← Nat.cast_le (α := Int),
    Nat.cast_sub ht0]
  push_cast
  constructor
  · rintro ⟨-, h⟩
    linarith
  · intro h
    exact ⟨hc, by linarith⟩

theorem le_of_onSchedule {c K : Nat} {last : Int} {B : Nat} (h : OnSchedule W t0 c K last B)
    (hB : t0 ≤ B) (hc : c ≠ 0) : K ≤ (B - t0) / c + 1 := by
  rcases K with _ | k
  · exact Nat.zero_le _
  · have h2 := h.2
    push_cast at h2
    have : k * c ≤ B - t0 := by
      rw [← Nat.cast_le (α := Int), Nat.cast_sub hB]
      push_cast
      linarith
    have := (Nat.le_div_iff_mul_le (Nat.pos_of_ne_zero hc)).mpr this
    omega

/-- The drift-free schedule, as far as the `W`-bit clock can see it. In a pass reaching the
check at `now` after `k` groups, while `now` lags the schedule's point `t0 + (k - 1) c` by
less than `2 ^ W` ticks, a group starts exactly when `k ≤ (now - t0) / c`; no pass starts two
groups; and by real time `B` no run has started more than `(B - t0) / c + 1` groups. -/
theorem telemetry_configuration_schedule (sram : ConfSram) (conf : BcnAppConf) (t0 : Nat) :
    (∀ (pre : List BcnRound) (r : BcnRound), sram.telEncCycle ≠ 0 →
      Chronological t0 (pre ++ [r]) → Reaches r →
      (r.now : Int) - (t0 + ((groupsStarted (bcnRun W n sram conf (initialLast W sram t0)
        pre).2 : Int) - 1) * sram.telEncCycle) < 2 ^ W →
      (groupsStarted (bcnIteration W n sram conf
          (bcnRun W n sram conf (initialLast W sram t0) pre).1 r).2 = 1 ↔
        groupsStarted (bcnRun W n sram conf (initialLast W sram t0) pre).2 ≤
          (r.now - t0) / sram.telEncCycle)) ∧
    (∀ (last : Int) (r : BcnRound), groupsStarted (bcnIteration W n sram conf last r).2 ≤ 1) ∧
    (∀ (rounds : List BcnRound) (B : Nat), sram.telEncCycle ≠ 0 → Chronological t0 rounds →
      t0 ≤ B → (∀ r ∈ rounds, r.now ≤ B) →
      groupsStarted (bcnRun W n sram conf (initialLast W sram t0) rounds).2 ≤
        (B - t0) / sram.telEncCycle + 1) := by
  refine ⟨fun pre r hc hchron hr hlag => ?_, groupsStarted_bcnIteration_le_one W n sram conf,
    fun rounds B hc hchron hB hle => ?_⟩
  · obtain ⟨hpre, hle⟩ := hchron.of_append
    have ht0 : t0 ≤ r.now := hchron.le_of_mem (by simp)
    have hs := onSchedule_bcnRun n conf (onSchedule_initial W sram t0) hpre ht0 hle
    rw [Nat.zero_add] at hs
    rw [groupsStarted_bcnIteration, ← configDue_iff_below_wrap hs ht0 hc hlag]
    simp [hr]
  · have hs := onSchedule_bcnRun n conf (onSchedule_initial W sram t0) hchron hB hle
    rw [Nat.zero_add] at hs
    exact le_of_onSchedule hs hB hc

theorem telemetry_configuration_schedule_fixRound :
    let run := bcnRun 32 4 wrapSram wrapConf (initialLast 32 wrapSram 0) [fixRound 0]
    let r := fixRound wrapSram.telEncCycle
    wrapSram.telEncCycle ≠ 0 ∧ Chronological 0 ([fixRound 0] ++ [r]) ∧ Reaches r ∧
      (r.now : Int) - (0 + ((groupsStarted run.2 : Int) - 1) * wrapSram.telEncCycle) < 2 ^ 32 ∧
      (groupsStarted (bcnIteration 32 4 wrapSram wrapConf run.1 r).2 = 1 ↔
        groupsStarted run.2 ≤ (r.now - 0) / wrapSram.telEncCycle) := by
  intro run r
  have hc : wrapSram.telEncCycle ≠ 0 := by decide
  have hchron : Chronological 0 ([fixRound 0] ++ [r]) := by simp [Chronological, r, fixRound]
  have hlag : (r.now : Int) - (0 + ((groupsStarted run.2 : Int) - 1) * wrapSram.telEncCycle) <
      2 ^ 32 := by decide
  exact ⟨hc, hchron, ⟨rfl, rfl, rfl⟩, hlag,
    (@telemetry_configuration_schedule 32 4 wrapSram wrapConf 0).1 [fixRound 0] r hc hchron
      ⟨rfl, rfl, rfl⟩ hlag⟩


theorem initialLast_eq : initialLast W sram t0 = ((t0 : Int) - sram.telEncCycle) % 2 ^ W := by
  rw [initialLast, chVTGetSystemTime, Int.sub_emod, Int.emod_emod, ← Int.sub_emod]

/-- A first check `2 ^ W - c` ticks after `t0`, when the whole lag is one wrap, reads an
elapsed time of zero. -/
theorem configDue_initial_at_wrap (W : Nat) (sram : ConfSram) (t0 : Nat)
    (hc : sram.telEncCycle ≤ 2 ^ W) :
    configDue W sram (initialLast W sram t0) (t0 + 2 ^ W - sram.telEncCycle) = false := by
  rw [Bool.eq_false_iff, ne_eq, configDue_eq_true, initialLast_eq, chVTTimeElapsedSinceX_emod,
    Nat.cast_sub (by omega)]
  push_cast
  rw [show (t0 : Int) + 2 ^ W - sram.telEncCycle - (t0 - sram.telEncCycle) = 2 ^ W by ring,
    Int.emod_self]
  omega

end

theorem telemetry_configuration_skipped_after_wrap :
    ¬ ∀ (pre : List BcnRound) (r : BcnRound), Chronological 0 (pre ++ [r]) → Reaches r →
      (groupsStarted (bcnIteration 32 4 wrapSram wrapConf
          (bcnRun 32 4 wrapSram wrapConf (initialLast 32 wrapSram 0) pre).1 r).2 = 1 ↔
        groupsStarted (bcnRun 32 4 wrapSram wrapConf (initialLast 32 wrapSram 0) pre).2 ≤
          (r.now - 0) / wrapSram.telEncCycle) := by
  intro h
  have hdue : configDue 32 wrapSram (bcnRun 32 4 wrapSram wrapConf (initialLast 32 wrapSram 0)
      []).1 (fixRound (2 ^ 32 - wrapSram.telEncCycle)).now = false := by
    simpa using configDue_initial_at_wrap 32 wrapSram 0 (by decide)
  have := h [] (fixRound (2 ^ 32 - wrapSram.telEncCycle)) (by simp [Chronological]) ⟨rfl, rfl, rfl⟩
  rw [groupsStarted_bcnIteration, hdue] at this
  simp [bcnRun] at this

end Pecanpico.Beacon
