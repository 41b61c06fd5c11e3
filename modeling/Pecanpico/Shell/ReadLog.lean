import Pecanpico.Shell.Chprintf
import Mathlib.Data.BitVec

/-! The `readLog` shell command: one CSV row per stored track point, and what a reader of the
CSV gets back from each field. -/
namespace Pecanpico.Shell

/-- The fields of a stored track point that `readLog` prints, each in its C type; latitude,
longitude, battery power and temperature are the signed ones. -/
structure TrackPoint where
  id : BitVec 32
  gpsTime : BitVec 32
  gpsLat : BitVec 32
  gpsLon : BitVec 32
  gpsAlt : BitVec 16
  gpsSats : BitVec 8
  gpsTtff : BitVec 8
  adcVbat : BitVec 16
  adcVsol : BitVec 16
  pacPbat : BitVec 16
  senI1Press : BitVec 32
  senI1Temp : BitVec 16
  senI1Hum : BitVec 8
  deriving DecidableEq, Repr

/-- The header line `readLog` prints first. -/
def readLogHeader : String :=
  "addr,id,time,lat,lon,alt,sats,ttff,vbat,vsol,vsub,pbat,rbat,press,temp,hum,idimg\r\n"

/-- The format of one row. -/
def readLogFormat : ShellFormat :=
  ⟨"%08x,%d,%d,%d.%05d,%d.%05d,%d,%d,%d,%d.%03d,%d.%03d,%d,%d.%01d,%2d.%02d,%2d.%01d\r\n",
    by decide⟩

/-- `(x > 0 ? 1:-1)*(x/100)%100000`, the fraction printed for a coordinate. -/
def coordinateFraction (x : Int) : Int := ((if x > 0 then 1 else -1) * x.tdiv 100).tmod 100000

/-- The arguments of a row as the C expressions compute them: `tp` is the record's address,
signed fields divide with truncation, unsigned ones are never negative. -/
def readLogArgs (addr : Nat) (tp : TrackPoint) : List Int :=
  [addr, tp.id.toNat, tp.gpsTime.toNat,
    tp.gpsLat.toInt.tdiv 10000000, coordinateFraction tp.gpsLat.toInt,
    tp.gpsLon.toInt.tdiv 10000000, coordinateFraction tp.gpsLon.toInt, tp.gpsAlt.toNat,
    tp.gpsSats.toNat, tp.gpsTtff.toNat,
    (tp.adcVbat.toNat / 1000 : Nat), (tp.adcVbat.toNat % 1000 : Nat),
    (tp.adcVsol.toNat / 1000 : Nat), (tp.adcVsol.toNat % 1000 : Nat), tp.pacPbat.toInt,
    (tp.senI1Press.toNat / 10 : Nat), (tp.senI1Press.toNat % 10 : Nat),
    tp.senI1Temp.toInt.tdiv 100, tp.senI1Temp.toInt.tmod 100,
    (tp.senI1Hum.toNat / 10 : Nat), (tp.senI1Hum.toNat % 10 : Nat)]

/-- One row: `chprintf` of the format for the record at address `addr`. -/
def readLogRow (addr : Nat) (tp : TrackPoint) : List Char :=
  chprintf readLogFormat (readLogArgs addr tp)

/-- `readLog`: the header, then a row for each record `getLogBuffer` returns before `NULL`
whose `id` is not `0xFFFFFFFF`. -/
def readLog (log : List (Nat × TrackPoint)) : List Char :=
  chprintf ⟨readLogHeader, by decide⟩ [] ++
    log.flatMap fun (addr, tp) => if tp.id ≠ 0xFFFFFFFF then readLogRow addr tp else []

/-- The format of a row, part by part. -/
def readLogParts : List Part :=
  [.hex 8, .lit ',', .int 0, .lit ',', .int 0, .lit ',', .point 0 5, .lit ',', .point 0 5,
    .lit ',', .int 0, .lit ',', .int 0, .lit ',', .int 0, .lit ',', .point 0 3, .lit ',',
    .point 0 3, .lit ',', .int 0, .lit ',', .point 0 1, .lit ',', .point 2 2, .lit ',',
    .point 2 1, .lit '\r', .lit '\n']

theorem readLogFormat_pieces : readLogFormat.pieces = readLogParts.flatMap Part.pieces := by
  decide

/-- The fields of a row as the format prints them. -/
def readLogFields (addr : Nat) (tp : TrackPoint) : List (List Char) :=
  [hexText 8 addr, intText 0 tp.id.toNat, intText 0 tp.gpsTime.toNat,
    pointText 0 5 (tp.gpsLat.toInt.tdiv 10000000) (coordinateFraction tp.gpsLat.toInt),
    pointText 0 5 (tp.gpsLon.toInt.tdiv 10000000) (coordinateFraction tp.gpsLon.toInt),
    intText 0 tp.gpsAlt.toNat, intText 0 tp.gpsSats.toNat, intText 0 tp.gpsTtff.toNat,
    pointText 0 3 (tp.adcVbat.toNat / 1000 : Nat) (tp.adcVbat.toNat % 1000 : Nat),
    pointText 0 3 (tp.adcVsol.toNat / 1000 : Nat) (tp.adcVsol.toNat % 1000 : Nat),
    intText 0 tp.pacPbat.toInt,
    pointText 0 1 (tp.senI1Press.toNat / 10 : Nat) (tp.senI1Press.toNat % 10 : Nat),
    pointText 2 2 (tp.senI1Temp.toInt.tdiv 100) (tp.senI1Temp.toInt.tmod 100),
    pointText 2 1 (tp.senI1Hum.toNat / 10 : Nat) (tp.senI1Hum.toNat % 10 : Nat)]

theorem readLogRow_eq (addr : Nat) (tp : TrackPoint) :
    readLogRow addr tp = [','].intercalate (readLogFields addr tp) ++ ['\r', '\n'] := by
  rw [readLogRow, chprintf, readLogFormat_pieces, format_parts]
  simp [partsText, readLogParts, readLogArgs, readLogFields, List.intercalate]

/-- The fields of a CSV line: its text before the final `\r\n`, split at the commas. -/
def csvFields (line : List Char) : List (List Char) := (line.take (line.length - 2)).splitOn ','

theorem numericChar_of_mem_readLogFields {addr : Nat} {tp : TrackPoint} {f : List Char}
    (hf : f ∈ readLogFields addr tp) {c : Char} (hc : c ∈ f) : numericChar c = true := by
  simp only [readLogFields, List.mem_cons, List.not_mem_nil, or_false] at hf
  rcases hf with rfl | rfl | rfl | rfl | rfl | rfl | rfl | rfl | rfl | rfl | rfl | rfl | rfl |
    rfl
  exacts [numericChar_of_mem_hexText hc, numericChar_of_mem_intText hc,
    numericChar_of_mem_intText hc, numericChar_of_mem_pointText hc,
    numericChar_of_mem_pointText hc, numericChar_of_mem_intText hc,
    numericChar_of_mem_intText hc, numericChar_of_mem_intText hc,
    numericChar_of_mem_pointText hc, numericChar_of_mem_pointText hc,
    numericChar_of_mem_intText hc, numericChar_of_mem_pointText hc,
    numericChar_of_mem_pointText hc, numericChar_of_mem_pointText hc]

/-- A CSV reader splits a row into exactly the fields the format prints: none holds a comma. -/
theorem csvFields_readLogRow (addr : Nat) (tp : TrackPoint) :
    csvFields (readLogRow addr tp) = readLogFields addr tp := by
  rw [csvFields, readLogRow_eq, List.length_append, List.length_cons, List.length_singleton,
    Nat.add_sub_cancel, List.take_left]
  exact List.splitOn_intercalate _ _
    (fun _ hf hc => absurd (numericChar_of_mem_readLogFields hf hc) (by decide))
    (by simp [readLogFields])

/-! What each field reads as. -/

theorem toInt_bounds {w : Nat} (x : BitVec (w + 1)) : -2 ^ w ≤ x.toInt ∧ x.toInt < 2 ^ w := by
  have h := x.isLt
  have hp : ((2 ^ (w + 1) : ℕ) : ℤ) = 2 * 2 ^ w := by push_cast; ring
  have hn : ((2 ^ w : ℕ) : ℤ) = 2 ^ w := by push_cast; rfl
  rw [Nat.pow_succ] at h
  rw [BitVec.toInt_eq_toNat_cond, hp, Nat.pow_succ]
  split_ifs <;> omega

/-- C's `x / m` and `x % m` for `m > 0`: the remainder is smaller than `m` in size and has the
sign of `x`. -/
theorem tdiv_tmod_spec (x : Int) {m : Int} (hm : 0 < m) :
    x = m * x.tdiv m + x.tmod m ∧ -m < x.tmod m ∧ x.tmod m < m ∧
      (0 ≤ x → 0 ≤ x.tmod m) ∧ (x ≤ 0 → x.tmod m ≤ 0) := by
  have hneg : x.tmod m = -((-x).tmod m) := by
    rw [Int.tmod_def, Int.tmod_def, Int.neg_tdiv]
    ring
  have hlt := Int.tmod_lt_of_pos (-x) hm
  refine ⟨(Int.tdiv_add_tmod x m).symm, ?_, Int.tmod_lt_of_pos x hm, Int.tmod_nonneg m,
    fun hx => ?_⟩
  · rcases le_or_lt 0 x with hx | hx
    · have := Int.tmod_nonneg m hx
      omega
    · omega
  · have := Int.tmod_nonneg m (by omega : 0 ≤ -x)
    omega

theorem readDecimal_intText_natCast (w : Nat) {n : Nat} (h : n < 2 ^ 32) :
    readDecimal (intText w n) = some (if n < 2 ^ 31 then (n : ℚ) else n - 2 ^ 32) := by
  rw [intText, int32Of_natCast h, readDecimal_decimalField]
  split_ifs <;> push_cast <;> rfl

/-- A coordinate in `1e-7` degrees reads as its value truncated to `1e-5` degrees, with the
sign of the integer degrees printed. -/
theorem readDecimal_coordinate {x : Int} (h1 : -2 ^ 31 ≤ x) (h2 : x < 2 ^ 31) :
    readDecimal (pointText 0 5 (x.tdiv 10000000) (coordinateFraction x)) =
      some ((if x ≤ -10000000 then -1 else 1) * (((x.tdiv 100).natAbs : ℚ) / 100000)) := by
  have ht := tdiv_tmod_spec x (by decide : (0 : ℤ) < 100)
  have ha := tdiv_tmod_spec x (by decide : (0 : ℤ) < 10000000)
  have hs : (if x > 0 then 1 else -1) * x.tdiv 100 = ((x.tdiv 100).natAbs : ℤ) := by
    split_ifs <;> omega
  have hb : coordinateFraction x = ((x.tdiv 100).natAbs % 100000 : ℕ) := by
    rw [coordinateFraction, hs, Int.tmod_eq_emod (by omega) (by decide)]
    omega
  have habs : (x.tdiv 10000000).natAbs = (x.tdiv 100).natAbs / 100000 := by
    simp only [Int.natAbs_tdiv]
    show x.natAbs / 10000000 = x.natAbs / 100 / 100000
    omega
  have hneg : x.tdiv 10000000 < 0 ↔ x ≤ -10000000 := by omega
  rw [hb, readDecimal_pointText 0 5 (by omega) (by omega) (by omega) (by omega) (by decide)
    (by decide)]
  simp only [hneg, habs, Int.cast_natCast]
  rw [show ((10 : ℚ) ^ 5) = ((100000 : ℕ) : ℚ) by norm_num,
    div_add_mod_div_cast _ _ (by decide)]
  norm_num

/-- A temperature in `0.01` degrees reads as its value, unless it is negative and not a
whole degree: then the fraction is printed with its own minus sign and the field is not a
number. -/
theorem readDecimal_temperature {t : Int} (h1 : -2 ^ 31 ≤ t) (h2 : t < 2 ^ 31) :
    readDecimal (pointText 2 2 (t.tdiv 100) (t.tmod 100)) =
      if t < 0 ∧ t.tmod 100 ≠ 0 then none else some ((t : ℚ) / 100) := by
  obtain ⟨ht, hb1, hb2, hpos, hneg⟩ := tdiv_tmod_spec t (by decide : (0 : ℤ) < 100)
  split_ifs with hfrac
  · exact readDecimal_pointText_of_neg 2 2 (by omega) (by omega) (by omega) (by omega)
  · rw [readDecimal_pointText 2 2 (by omega) (by omega) (by omega) (by omega) (by decide)
      (by decide)]
    have hcast : (t : ℚ) = 100 * (t.tdiv 100 : ℤ) + (t.tmod 100 : ℤ) := by exact_mod_cast ht
    rcases lt_or_le (t.tdiv 100) 0 with hlt | hle
    · rw [if_pos hlt, hcast, show t.tmod 100 = 0 by omega, Nat.cast_natAbs, abs_of_neg hlt]
      congr 1
      push_cast
      ring
    · rw [if_neg (not_lt.mpr hle), hcast, Nat.cast_natAbs, abs_of_nonneg hle]
      congr 1
      ring

/-- What a reader of the CSV gets back from each field after the address, for every record:
the unsigned id and time read as signed 32-bit values, a coordinate between -1 and -0.00001
degrees without its minus sign, a negative temperature that is not a whole degree not as a
number, and the humidity as a tenth of its value. -/
theorem readLog_field_values (addr : Nat) (tp : TrackPoint) :
    (csvFields (readLogRow addr tp)).tail.map readDecimal =
      [some (if tp.id.toNat < 2 ^ 31 then (tp.id.toNat : ℚ) else tp.id.toNat - 2 ^ 32),
        some (if tp.gpsTime.toNat < 2 ^ 31 then (tp.gpsTime.toNat : ℚ)
          else tp.gpsTime.toNat - 2 ^ 32),
        some ((if tp.gpsLat.toInt ≤ -10000000 then -1 else 1) *
          (((tp.gpsLat.toInt.tdiv 100).natAbs : ℚ) / 100000)),
        some ((if tp.gpsLon.toInt ≤ -10000000 then -1 else 1) *
          (((tp.gpsLon.toInt.tdiv 100).natAbs : ℚ) / 100000)),
        some (tp.gpsAlt.toNat : ℚ), some (tp.gpsSats.toNat : ℚ), some (tp.gpsTtff.toNat : ℚ),
        some ((tp.adcVbat.toNat : ℚ) / 1000), some ((tp.adcVsol.toNat : ℚ) / 1000),
        some (tp.pacPbat.toInt : ℚ), some ((tp.senI1Press.toNat : ℚ) / 10),
        if tp.senI1Temp.toInt < 0 ∧ tp.senI1Temp.toInt.tmod 100 ≠ 0 then none
          else some ((tp.senI1Temp.toInt : ℚ) / 100),
        some ((tp.senI1Hum.toNat : ℚ) / 10)] := by
  have halt := tp.gpsAlt.isLt
  have hsats := tp.gpsSats.isLt
  have httff := tp.gpsTtff.isLt
  have hvbat := tp.adcVbat.isLt
  have hvsol := tp.adcVsol.isLt
  have hpress := tp.senI1Press.isLt
  have hhum := tp.senI1Hum.isLt
  obtain ⟨hlat1, hlat2⟩ := toInt_bounds tp.gpsLat
  obtain ⟨hlon1, hlon2⟩ := toInt_bounds tp.gpsLon
  obtain ⟨hpbat1, hpbat2⟩ := toInt_bounds tp.pacPbat
  obtain ⟨htemp1, htemp2⟩ := toInt_bounds tp.senI1Temp
  rw [csvFields_readLogRow]
  simp only [readLogFields, List.tail_cons, List.map_cons, List.map_nil]
  rw [readDecimal_intText_natCast 0 tp.id.isLt, readDecimal_intText_natCast 0 tp.gpsTime.isLt,
    readDecimal_coordinate hlat1 hlat2, readDecimal_coordinate hlon1 hlon2,
    readDecimal_intText 0 (by omega) (by omega), readDecimal_intText 0 (by omega) (by omega),
    readDecimal_intText 0 (by omega) (by omega),
    readDecimal_pointText_div_mod 0 3 (by norm_num) (by omega) (by decide) (by decide),
    readDecimal_pointText_div_mod 0 3 (by norm_num) (by omega) (by decide) (by decide),
    readDecimal_intText 0 (by omega) (by omega),
    readDecimal_pointText_div_mod 0 1 (by norm_num) (by omega) (by decide) (by decide),
    readDecimal_temperature (by omega) (by omega),
    readDecimal_pointText_div_mod 2 1 (by norm_num) (by omega) (by decide) (by decide)]
  simp

theorem csvFields_readLogHeader :
    csvFields readLogHeader.toList =
      ["addr", "id", "time", "lat", "lon", "alt", "sats", "ttff", "vbat", "vsol", "vsub", "pbat",
        "rbat", "press", "temp", "hum", "idimg"].map String.toList := by
  decide

/-- The header names 17 columns and every row has 14 fields: the first ten names stand over
their fields, then `vsub` stands over `pac_pbat`, `pbat` over the pressure, `rbat`
over the temperature and `press` over the humidity, and `temp`, `hum` and `idimg`
over no field. -/
theorem readLog_header_names_more_columns (addr : Nat) (tp : TrackPoint) :
    (csvFields readLogHeader.toList).zip (csvFields (readLogRow addr tp)) =
      [("addr".toList, hexText 8 addr), ("id".toList, intText 0 tp.id.toNat),
        ("time".toList, intText 0 tp.gpsTime.toNat),
        ("lat".toList,
          pointText 0 5 (tp.gpsLat.toInt.tdiv 10000000) (coordinateFraction tp.gpsLat.toInt)),
        ("lon".toList,
          pointText 0 5 (tp.gpsLon.toInt.tdiv 10000000) (coordinateFraction tp.gpsLon.toInt)),
        ("alt".toList, intText 0 tp.gpsAlt.toNat), ("sats".toList, intText 0 tp.gpsSats.toNat),
        ("ttff".toList, intText 0 tp.gpsTtff.toNat),
        ("vbat".toList,
          pointText 0 3 (tp.adcVbat.toNat / 1000 : Nat) (tp.adcVbat.toNat % 1000 : Nat)),
        ("vsol".toList,
          pointText 0 3 (tp.adcVsol.toNat / 1000 : Nat) (tp.adcVsol.toNat % 1000 : Nat)),
        ("vsub".toList, intText 0 tp.pacPbat.toInt),
        ("pbat".toList,
          pointText 0 1 (tp.senI1Press.toNat / 10 : Nat) (tp.senI1Press.toNat % 10 : Nat)),
        ("rbat".toList, pointText 2 2 (tp.senI1Temp.toInt.tdiv 100) (tp.senI1Temp.toInt.tmod 100)),
        ("press".toList,
          pointText 2 1 (tp.senI1Hum.toNat / 10 : Nat) (tp.senI1Hum.toNat % 10 : Nat))] ∧
      (csvFields readLogHeader.toList).drop 14 = ["temp".toList, "hum".toList, "idimg".toList] := by
  rw [csvFields_readLogHeader, csvFields_readLogRow]
  exact ⟨rfl, rfl⟩

/-! The whole output, line by line. -/

theorem mem_intersperse {α : Type} {sep : α} :
    ∀ {ls : List α} {x : α}, x ∈ ls.intersperse sep → x = sep ∨ x ∈ ls
  | [], _, h => absurd h (List.not_mem_nil _)
  | [_], _, h => .inr h
  | _ :: _ :: _, _, h => by
    rcases List.mem_cons.mp h with rfl | h
    · exact .inr (List.mem_cons_self _ _)
    rcases List.mem_cons.mp h with rfl | h
    · exact .inl rfl
    exact (mem_intersperse h).imp_right (List.mem_cons_of_mem _)

theorem mem_intercalate {α : Type} {sep : List α} {ls : List (List α)} {x : α}
    (h : x ∈ sep.intercalate ls) : x ∈ sep ∨ ∃ l ∈ ls, x ∈ l := by
  obtain ⟨l, hl, hx⟩ := List.mem_flatten.mp h
  rcases mem_intersperse hl with rfl | hl
  exacts [.inl hx, .inr ⟨l, hl, hx⟩]

theorem newline_not_mem_readLogFields (addr : Nat) (tp : TrackPoint) :
    '\n' ∉ [','].intercalate (readLogFields addr tp) := fun h =>
  (mem_intercalate h).elim (by decide) fun ⟨_, hf, hc⟩ =>
    absurd (numericChar_of_mem_readLogFields hf hc) (by decide)

theorem splitOn_newline_append {line : List Char} (h : '\n' ∉ line) (rest : List Char) :
    (line ++ '\n' :: rest).splitOn '\n' = line :: rest.splitOn '\n' :=
  List.splitOnP_first (· == '\n') line (fun _ hc he => h (beq_iff_eq.mp he ▸ hc)) '\n'
    (beq_self_eq_true '\n') rest

theorem chprintf_readLogHeader :
    chprintf ⟨readLogHeader, by decide⟩ [] =
      "addr,id,time,lat,lon,alt,sats,ttff,vbat,vsol,vsub,pbat,rbat,press,temp,hum,idimg\r".toList ++
        ['\n'] := by
  decide

theorem splitOn_readLogRows (log : List (Nat × TrackPoint)) :
    (log.flatMap fun p => if p.2.id ≠ 0xFFFFFFFF then readLogRow p.1 p.2 else []).splitOn '\n' =
      (log.filter fun p => p.2.id ≠ 0xFFFFFFFF).map
        (fun p => [','].intercalate (readLogFields p.1 p.2) ++ ['\r']) ++ [[]] := by
  induction log with
  | nil => rfl
  | cons p log ih =>
    by_cases hid : p.2.id = 0xFFFFFFFF
    · simpa [hid] using ih
    · have hline : '\n' ∉ [','].intercalate (readLogFields p.1 p.2) ++ ['\r'] := by
        simpa using newline_not_mem_readLogFields p.1 p.2
      have hcrlf (line rest : List Char) :
          line ++ ['\r', '\n'] ++ rest = (line ++ ['\r']) ++ '\n' :: rest := by simp
      rw [List.flatMap_cons, if_pos hid, readLogRow_eq, hcrlf, splitOn_newline_append hline, ih,
        List.filter_cons, if_pos (decide_eq_true hid)]
      rfl

/-- The lines of `readLog`'s output: the header, then one line for each record that is not
erased, in the order `getLogBuffer` returns them, each the fields of its row between commas
and a `\r`. No field holds a line break, and an erased record leaves no line. -/
theorem readLog_lines (log : List (Nat × TrackPoint)) :
    (readLog log).splitOn '\n' =
      "addr,id,time,lat,lon,alt,sats,ttff,vbat,vsol,vsub,pbat,rbat,press,temp,hum,idimg\r".toList ::
        (log.filter fun p => p.2.id ≠ 0xFFFFFFFF).map
          (fun p => [','].intercalate (readLogFields p.1 p.2) ++ ['\r']) ++ [[]] := by
  rw [readLog, chprintf_readLogHeader, List.append_assoc, List.singleton_append,
    splitOn_newline_append (by decide)]
  exact congrArg _ (splitOn_readLogRows log)

/-- A record logged half a degree south of the equator on a cold, humid day, with an id past
`2^31`. -/
def coldHumidPoint : TrackPoint :=
  { id := 3000000000, gpsTime := 1500000000, gpsLat := BitVec.ofInt 32 (-5000000),
    gpsLon := 133500000, gpsAlt := 1200, gpsSats := 8, gpsTtff := 30, adcVbat := 4012,
    adcVsol := 512, pacPbat := BitVec.ofInt 16 (-120), senI1Press := 1013250,
    senI1Temp := BitVec.ofInt 16 (-150), senI1Hum := 55 }

/-- The row of that record: the id reads negative, latitude -0.5 reads as 0.5, -1.50 degrees
is printed as `-1.-50`, and 55 % humidity reads as 5.5. -/
theorem readLog_misreads_cold_humid_point :
    readLogRow 0x20000000 coldHumidPoint =
        ("20000000,-1294967296,1500000000,0.50000,13.35000,1200,8,30,4.012,0.512,-120," ++
          "101325.0,-1.-50, 5.5\r\n").toList ∧
      (csvFields (readLogRow 0x20000000 coldHumidPoint)).tail.map readDecimal =
        [some (-1294967296), some 1500000000, some (1 / 2), some (1335 / 100), some 1200, some 8,
          some 30, some (4012 / 1000), some (512 / 1000), some (-120), some 101325, none,
          some (11 / 2)] := by
  have hrow : readLogRow 0x20000000 coldHumidPoint =
      ("20000000,-1294967296,1500000000,0.50000,13.35000,1200,8,30,4.012,0.512,-120," ++
        "101325.0,-1.-50, 5.5\r\n").toList := by decide
  have hfields : (csvFields (readLogRow 0x20000000 coldHumidPoint)).tail =
      ["-1294967296", "1500000000", "0.50000", "13.35000", "1200", "8", "30", "4.012", "0.512",
        "-120", "101325.0", "-1.-50", " 5.5"].map String.toList := by
    rw [hrow]
    decide
  refine ⟨hrow, ?_⟩
  rw [hfields]
  simp [readDecimal, readUnsigned, readDigits]
  norm_num

end Pecanpico.Shell
