import Pecanpico.Shell.Chprintf
import Mathlib.Data.BitVec
import Mathlib.Tactic.Ring

/-! The `printConfig` shell command, and the number its frequency line prints. -/
namespace Pecanpico.Shell

inductive FreqType where
  | freqStatic
  | freqAprsDynamic
  deriving DecidableEq, Repr

structure Frequency where
  type : FreqType
  hz : BitVec 32
  deriving DecidableEq, Repr

/-- The fields of `config[id]` that `printConfig` prints, as the values `chprintf` is passed. -/
structure ModuleConf where
  power : Int
  frequency : Frequency
  modulation : Int
  initDelay : Int
  packetSpacing : Int
  wdgTimeout : Int
  deriving DecidableEq, Repr

def frequencyFormat : ShellFormat := ⟨"Frequency: %d.%03d MHz\r\n", by decide⟩

def dynamicFrequencyFormat : ShellFormat :=
  ⟨"Frequency: APRS region dependent (currently %d.%03d MHz)\r\n", by decide⟩

/-- The frequency block of `printConfig`; `getFrequency` resolves a dynamic frequency. -/
def printFrequency (frequency : Frequency) (getFrequency : Frequency → BitVec 32) :
    List Char :=
  if frequency.type = .freqStatic then
    let freq := frequency.hz.toNat
    if (freq / 1000) * 1000 = freq then
      chprintf frequencyFormat [(freq / 1000000 : Nat), ((freq % 1000000) / 1000 : Nat)]
    else chprintf frequencyFormat [(freq / 1000000 : Nat), (freq % 1000000 : Nat)]
  else
    let freq := (getFrequency frequency).toNat
    chprintf dynamicFrequencyFormat [(freq / 1000000 : Nat), ((freq % 1000000) / 1000 : Nat)]

/-- `printConfig`: `args` are the values `atoi` returns for the arguments, `config` the
configuration table. -/
def printConfig (args : List Int) (config : Nat → ModuleConf)
    (getFrequency : Frequency → BitVec 32) : List Char :=
  match args with
  | [] =>
    chprintf ⟨"Argument missing!\r\n", by decide⟩ [] ++
      chprintf ⟨"Argument 1: Id of config\r\n", by decide⟩ []
  | a :: _ =>
    let id := (a % 256).toNat
    chprintf ⟨"Config ID=%d\r\n", by decide⟩ [id] ++
      chprintf ⟨"Power: %d\r\n", by decide⟩ [(config id).power] ++
      printFrequency (config id).frequency getFrequency ++
      chprintf ⟨"Modulation: %d\r\n", by decide⟩ [(config id).modulation] ++
      chprintf ⟨"Initial Delay: %d\r\n", by decide⟩ [(config id).initDelay] ++
      chprintf ⟨"Packet Spacing: %d\r\n", by decide⟩ [(config id).packetSpacing] ++
      chprintf ⟨"Sleep config: xx\r\n", by decide⟩ [] ++
      chprintf ⟨"Trigger config: xx\r\n", by decide⟩ [] ++
      chprintf ⟨"Modulation config: xx\r\n", by decide⟩ [] ++
      chprintf ⟨"Protocol config: xx\r\n", by decide⟩ [] ++
      chprintf ⟨"SSDV config: xx\r\n", by decide⟩ [] ++
      chprintf ⟨"Watchdog timeout: %d\r\n", by decide⟩ [(config id).wdgTimeout]

theorem partsText_lits (cs : List Char) (ps : List Part) (args : List Int) :
    partsText (cs.map Part.lit ++ ps) args = cs ++ partsText ps args := by
  induction cs with
  | nil => rfl
  | cons c cs ih => simp [partsText, ih]

theorem frequencyFormat_pieces :
    frequencyFormat.pieces =
      ("Frequency: ".toList.map Part.lit ++ .point 0 3 :: " MHz\r\n".toList.map Part.lit).flatMap
        Part.pieces := by
  decide

theorem chprintf_point_line {fmt : ShellFormat} {pre post : List Char}
    (hp : fmt.pieces =
      (pre.map Part.lit ++ .point 0 3 :: post.map Part.lit).flatMap Part.pieces) (a b : Int) :
    chprintf fmt [a, b] = pre ++ pointText 0 3 a b ++ post := by
  rw [chprintf, hp, format_parts, partsText_lits, List.append_assoc]
  simpa [partsText] using partsText_lits post [] []

theorem chprintf_frequencyFormat (a b : Int) :
    chprintf frequencyFormat [a, b] =
      "Frequency: ".toList ++ pointText 0 3 a b ++ " MHz\r\n".toList :=
  chprintf_point_line frequencyFormat_pieces a b

theorem div_pow_ten_inj {b : ℚ} (hb : b ≠ 0) {k n : Nat} :
    b / 10 ^ k = b / 10 ^ n ↔ k = n := by
  rw [div_eq_div_iff (by positivity) (by positivity), mul_right_inj' hb, eq_comm]
  exact pow_right_inj₀ (by norm_num) (by norm_num)

theorem chLtoa_length_eq_six_iff {b : Nat} (hb : b < 10 ^ 6) :
    (chLtoa b 10).length = 6 ↔ 10 ^ 5 ≤ b := by
  obtain ⟨h1, h2⟩ := chLtoa_length_bounds b
  constructor
  · intro h
    rw [h] at h2
    omega
  · intro h
    refine le_antisymm (Nat.le_of_not_lt fun hL => ?_) (Nat.le_of_not_lt fun hL => ?_)
    · have := Nat.pow_le_pow_right (by decide : 10 > 0) (Nat.succ_le_of_lt hL)
      omega
    · have := Nat.pow_le_pow_right (by decide : 10 > 0) (Nat.le_of_lt_succ hL)
      omega

/-- The static frequency line always prints a number, and that number is `hz / 10^6` exactly
when `hz` is a whole number of kHz or its part below 1 MHz takes six digits; otherwise the
`%03d` fraction is read with too few decimals. -/
theorem printFrequency_static_reads_exactly_iff (hz : BitVec 32)
    (getFrequency : Frequency → BitVec 32) :
    ∃ text, printFrequency ⟨.freqStatic, hz⟩ getFrequency =
        "Frequency: ".toList ++ text ++ " MHz\r\n".toList ∧
      (∃ q, readDecimal text = some q) ∧
      (readDecimal text = some ((hz.toNat : ℚ) / 1000000) ↔
        hz.toNat % 1000 = 0 ∨ 100000 ≤ hz.toNat % 1000000) := by
  have hf := hz.isLt
  have hmhz : ((hz.toNat / 1000000 : ℕ) : ℚ) + ((hz.toNat % 1000000 : ℕ) : ℚ) / 1000000 =
      (hz.toNat : ℚ) / 1000000 := by
    exact_mod_cast div_add_mod_div_cast hz.toNat 1000000 (by decide)
  by_cases hk : hz.toNat % 1000 = 0
  · obtain ⟨q, hq⟩ : ∃ q, hz.toNat % 1000000 = 1000 * q :=
      ⟨hz.toNat % 1000000 / 1000, by omega⟩
    have hread : readDecimal (pointText 0 3 (hz.toNat / 1000000 : ℕ)
        (hz.toNat % 1000000 / 1000 : ℕ)) = some ((hz.toNat : ℚ) / 1000000) := by
      rw [readDecimal_pointText 0 3 (by omega) (by omega) (by omega) (by omega) (by decide)
        (by decide), if_neg (by omega), Int.natAbs_ofNat, one_mul, ← hmhz, Int.cast_natCast, hq,
        Nat.mul_div_cancel_left q (by decide)]
      congr 1
      push_cast
      ring
    refine ⟨_, ?_, ⟨_, hread⟩, iff_of_true hread (.inl hk)⟩
    simp only [printFrequency, if_pos (show hz.toNat / 1000 * 1000 = hz.toNat by omega),
      chprintf_frequencyFormat, if_true]
  · have hb0 : ((hz.toNat % 1000000 : ℕ) : ℚ) ≠ 0 := by exact_mod_cast (by omega)
    have hread : readDecimal (pointText 0 3 (hz.toNat / 1000000 : ℕ) (hz.toNat % 1000000 : ℕ)) =
        some (((hz.toNat / 1000000 : ℕ) : ℚ) + ((hz.toNat % 1000000 : ℕ) : ℚ) /
          10 ^ max 3 (chLtoa (hz.toNat % 1000000) 10).length) := by
      rw [pointText, intText, int32Of_of_bounds (by omega) (by omega),
        int32Of_of_bounds (by omega) (by omega), readDecimal_point, if_neg (by omega),
        if_neg (by omega), Int.natAbs_ofNat, Int.natAbs_ofNat, one_mul]
    refine ⟨_, ?_, ⟨_, hread⟩, ?_⟩
    · simp only [printFrequency, if_neg (show hz.toNat / 1000 * 1000 ≠ hz.toNat by omega),
        chprintf_frequencyFormat, if_true]
    rw [hread, ← hmhz, Option.some_inj, add_right_inj, show (1000000 : ℚ) = 10 ^ 6 by norm_num,
      div_pow_ten_inj hb0, or_iff_right hk]
    have := chLtoa_length_eq_six_iff (show hz.toNat % 1000000 < 10 ^ 6 by omega)
    omega

theorem chprintf_dynamicFrequency (a b : Int) :
    chprintf dynamicFrequencyFormat [a, b] =
      "Frequency: APRS region dependent (currently ".toList ++ pointText 0 3 a b ++
        " MHz)\r\n".toList :=
  chprintf_point_line (by decide) a b

/-- The line for a dynamic frequency prints the frequency `getFrequency` resolves in MHz, cut
to whole kHz, for every frequency: there `%03d` gets the kHz, which always take three digits. -/
theorem printFrequency_dynamic_reads_kHz (hz : BitVec 32) (getFrequency : Frequency → BitVec 32) :
    ∃ text, printFrequency ⟨.freqAprsDynamic, hz⟩ getFrequency =
        "Frequency: APRS region dependent (currently ".toList ++ text ++ " MHz)\r\n".toList ∧
      readDecimal text =
        some (((getFrequency ⟨.freqAprsDynamic, hz⟩).toNat / 1000 : ℕ) / 1000 : ℚ) := by
  set f := (getFrequency ⟨.freqAprsDynamic, hz⟩).toNat
  have hf : f < 2 ^ 32 := BitVec.isLt _
  refine ⟨pointText 0 3 (f / 1000 / 1000 : ℕ) (f / 1000 % 1000 : ℕ), ?_, ?_⟩
  · simp only [printFrequency, reduceCtorEq, if_false, chprintf_dynamicFrequency]
    rw [show f / 1000000 = f / 1000 / 1000 by omega, show f % 1000000 / 1000 = f / 1000 % 1000 by
      omega]
  · exact_mod_cast readDecimal_pointText_div_mod 0 3 (by norm_num) (by omega) (by decide)
      (by decide)

/-- 144000500 Hz is printed as `144.500`, which reads as 144.5 MHz. -/
theorem printFrequency_144000500 (getFrequency : Frequency → BitVec 32) :
    printFrequency ⟨.freqStatic, 144000500⟩ getFrequency =
        "Frequency: 144.500 MHz\r\n".toList ∧
      readDecimal "144.500".toList = some (289 / 2) := by
  refine ⟨?_, by simp [readDecimal, readUnsigned, readDigits]; norm_num⟩
  simp only [printFrequency, if_true]
  decide

end Pecanpico.Shell
