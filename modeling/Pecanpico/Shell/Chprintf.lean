import Mathlib.Data.List.Basic
import Mathlib.Data.Rat.Defs
import Mathlib.Tactic.Ring
import Mathlib.Algebra.Order.Field.Rat
import Mathlib.Tactic.Positivity

/-! `chprintf` as ChibiOS's `chvprintf` formats integers, and reading what it prints back as a
decimal number. -/
namespace Pecanpico.Shell

/-- A conversion `%[-][+][0][width][l]c` as `chvprintf` reads it. -/
structure Directive where
  leftAlign : Bool
  doSign : Bool
  filler : Char
  width : Nat
  conv : Char
  deriving DecidableEq, Repr

/-- The format string cut into literal characters and conversions. -/
inductive Piece where
  | lit (c : Char)
  | directive (d : Directive)
  deriving DecidableEq, Repr

/-- One flag character, if it comes next. -/
def parseFlag (flag : Char) : List Char → Bool × List Char
  | c :: cs => if c = flag then (true, cs) else (false, c :: cs)
  | [] => (false, [])

/-- The width digits after the flags. -/
def parseWidth (width : Nat) : List Char → Nat × List Char
  | c :: cs =>
    if c.isDigit then parseWidth (width * 10 + (c.toNat - '0'.toNat)) cs else (width, c :: cs)
  | [] => (width, [])

/-- The conversion after a `%` and the rest of the format; `none` where the format ends
inside it. -/
def parseDirective (cs : List Char) : Option (Directive × List Char) :=
  let (leftAlign, cs) := parseFlag '-' cs
  let (doSign, cs) := parseFlag '+' cs
  let (zero, cs) := parseFlag '0' cs
  let (width, cs) := parseWidth 0 cs
  let d (c : Char) : Directive := ⟨leftAlign, doSign, if zero then '0' else ' ', width, c⟩
  match cs with
  | [] => none
  | 'l' :: c :: cs => some (d c, cs)
  | 'L' :: c :: cs => some (d c, cs)
  | c :: cs => some (d c, cs)

/-- The main loop over the format, with one unit of `fuel` per character. -/
def parseFormat : Nat → List Char → List Piece
  | 0, _ => []
  | _ + 1, [] => []
  | n + 1, c :: cs =>
    if c = '%' then
      match parseDirective cs with
      | some (d, rest) => .directive d :: parseFormat n rest
      | none => []
    else .lit c :: parseFormat n cs

/-- The 32-bit word a variadic `int` or `unsigned` argument is passed as. -/
def word (a : Int) : Nat := (a % 2 ^ 32).toNat

/-- `va_arg(ap, int)`: the word read as a signed 32-bit value. -/
def int32Of (a : Int) : Int := if word a < 2 ^ 31 then word a else word a - 2 ^ 32

/-- The character `long_to_string_with_divisor` writes for the digit `i`. -/
def digitChar (i : Nat) : Char := if i + 48 > 57 then Char.ofNat (i + 55) else Char.ofNat (i + 48)

/-- The `do ... while` loop of `long_to_string_with_divisor`, writing the digits of `l`
backwards in front of `q`. -/
def ltoaLoop (radix : Nat) : Nat → Nat → List Char → List Char
  | 0, _, q => q
  | fuel + 1, l, q =>
    if l / radix = 0 then digitChar (l % radix) :: q
    else ltoaLoop radix fuel (l / radix) (digitChar (l % radix) :: q)

/-- `ch_ltoa(p, num, radix)`: the digits of `num`, most significant first. -/
def chLtoa (num radix : Nat) : List Char := ltoaLoop radix (num + 1) num []

/-- The buffer of `%d` for the value `l`. -/
def signedBuffer (doSign : Bool) (l : Int) : List Char :=
  if l < 0 then '-' :: chLtoa l.natAbs 10
  else (if doSign then ['+'] else []) ++ chLtoa l.natAbs 10

/-- The buffer an integer conversion fills from its argument `a`; `none` for a conversion that
takes no argument and prints its own character. -/
def convert (conv : Char) (doSign : Bool) (a : Int) : Option (List Char) :=
  match conv with
  | 'd' | 'D' | 'i' | 'I' => some (signedBuffer doSign (int32Of a))
  | 'u' | 'U' => some (chLtoa (word a) 10)
  | 'x' | 'X' => some (chLtoa (word a) 16)
  | 'o' | 'O' => some (chLtoa (word a) 8)
  | _ => none

/-- How `chvprintf` pads the buffer `s` to the field width. -/
def pad (d : Directive) (s : List Char) : List Char :=
  let n := d.width - s.length
  if d.leftAlign then s ++ List.replicate n d.filler
  else if 0 < n ∧ s.head? = some '-' ∧ d.filler = '0' then
    '-' :: (List.replicate n '0' ++ s.tail)
  else List.replicate n d.filler ++ s

/-- What the pieces put on the stream, taking the arguments in order. -/
def format : List Piece → List Int → List Char
  | [], _ => []
  | .lit c :: ps, args => c :: format ps args
  | .directive d :: ps, args =>
    match convert d.conv d.doSign (args.headD 0) with
    | some s => pad d s ++ format ps args.tail
    | none => pad d [d.conv] ++ format ps args

/-- Whether the model covers a conversion. It leaves out a precision and a `*` width, which
`parseDirective` does not read and which leave `.` or `*` as the conversion character,
and `%c`, `%s` and `%f`. -/
def Directive.supported (d : Directive) : Bool := !(['.', '*', 'c', 's', 'f'].contains d.conv)

def Piece.supported : Piece → Bool
  | .lit _ => true
  | .directive d => d.supported

/-- A format whose every conversion the model covers: `chprintf` is defined on these only. -/
structure ShellFormat where
  fmt : String
  supported : (parseFormat fmt.length fmt.toList).all Piece.supported = true

example : ((parseFormat 16 "%5.2d %*d %c %s".toList).filter (!·.supported)).length = 4 := by
  decide

def ShellFormat.pieces (f : ShellFormat) : List Piece := parseFormat f.fmt.length f.fmt.toList

/-- `chprintf(chp, fmt, ...)` with the arguments as the C values passed. -/
def chprintf (f : ShellFormat) (args : List Int) : List Char := format f.pieces args

/-! Reading the output back. -/

/-- Reading decimal digits: the value so far, the number of digits, and what follows. -/
def readDigits (acc k : Nat) : List Char → Nat × Nat × List Char
  | c :: cs => if c.isDigit then readDigits (acc * 10 + (c.toNat - '0'.toNat)) (k + 1) cs
      else (acc, k, c :: cs)
  | [] => (acc, k, [])

/-- A decimal number `ddd` or `ddd.ddd`. -/
def readUnsigned (cs : List Char) : Option ℚ :=
  match readDigits 0 0 cs with
  | (n, _ + 1, []) => some n
  | (n, _ + 1, '.' :: frac) =>
    match readDigits 0 0 frac with
    | (f, k + 1, []) => some (n + f / 10 ^ (k + 1))
    | _ => none
  | _ => none

/-- A text read as a decimal number, after leading blanks and an optional minus sign. -/
def readDecimal (cs : List Char) : Option ℚ :=
  match cs.dropWhile (· = ' ') with
  | '-' :: cs => (readUnsigned cs).map (- ·)
  | cs => readUnsigned cs

example : chprintf ⟨"%08x,%d,%2d.%02d|%-4d|%+d", by decide⟩ [3054, -7, -1, -50, 12, 5] =
    "00000BEE,-7,-1.-50|12  |+5".toList := by decide

/-! The digits `ch_ltoa` writes. -/

section
variable {radix : Nat}

theorem div_lt_self_of_div_ne_zero {l : Nat} (hr : 2 ≤ radix) (h : l / radix ≠ 0) :
    l / radix < l :=
  Nat.div_lt_self (Nat.pos_of_ne_zero fun h0 => h (by simp [h0])) (by omega)

theorem ltoaLoop_append (fuel l : Nat) (q : List Char) :
    ltoaLoop radix fuel l q = ltoaLoop radix fuel l [] ++ q := by
  induction fuel generalizing l q with
  | zero => rfl
  | succ fuel ih =>
    simp only [ltoaLoop]
    split
    · rfl
    · rw [ih, ih (l / radix) [_]]
      simp

/-- Any fuel beyond the value itself gives the same digits. -/
theorem ltoaLoop_eq_chLtoa (hr : 2 ≤ radix) (l : Nat) :
    ∀ fuel, l < fuel → ltoaLoop radix fuel l [] = chLtoa l radix := by
  induction l using Nat.strong_induction_on with
  | _ l ih =>
    intro fuel hl
    obtain ⟨f, rfl⟩ : ∃ f, fuel = f + 1 := ⟨fuel - 1, by omega⟩
    simp only [chLtoa, ltoaLoop]
    split
    · rfl
    · have hlt := div_lt_self_of_div_ne_zero hr ‹_›
      rw [ltoaLoop_append, ltoaLoop_append l, ih _ hlt f (by omega), ih _ hlt l hlt]

/-- The recursion the loop unrolls to: the last digit comes off the end. -/
theorem chLtoa_eq (hr : 2 ≤ radix) (l : Nat) :
    chLtoa l radix =
      (if l / radix = 0 then [] else chLtoa (l / radix) radix) ++ [digitChar (l % radix)] := by
  rw [chLtoa, ltoaLoop]
  split
  · rfl
  · rw [ltoaLoop_append, ltoaLoop_eq_chLtoa hr _ _ (div_lt_self_of_div_ne_zero hr ‹_›)]

end

theorem digitChar_isDigit : ∀ i < 10, (digitChar i).isDigit := by decide

theorem digitChar_value : ∀ i < 10, (digitChar i).toNat - '0'.toNat = i := by decide

theorem chLtoa_ten_of_lt {l : Nat} (h : l < 10) : chLtoa l 10 = [digitChar l] := by
  rw [chLtoa_eq (by decide), Nat.div_eq_of_lt h, Nat.mod_eq_of_lt h]
  rfl

theorem chLtoa_ten_of_le {l : Nat} (h : 10 ≤ l) :
    chLtoa l 10 = chLtoa (l / 10) 10 ++ [digitChar (l % 10)] := by
  rw [chLtoa_eq (by decide), if_neg (by omega)]

/-- `ch_ltoa` writes nothing but digits below the radix. -/
theorem mem_chLtoa {radix : Nat} (hr : 2 ≤ radix) {l : Nat} {c : Char}
    (h : c ∈ chLtoa l radix) :
    ∃ d < radix, c = digitChar d := by
  induction l using Nat.strong_induction_on with
  | _ l ih =>
    rw [chLtoa_eq hr] at h
    rcases List.mem_append.mp h with h | h
    · split at h
      · cases h
      · exact ih _ (div_lt_self_of_div_ne_zero hr ‹_›) h
    · exact ⟨_, Nat.mod_lt _ (by omega), List.mem_singleton.mp h⟩

theorem isDigit_of_mem_chLtoa {l : Nat} {c : Char} (h : c ∈ chLtoa l 10) : c.isDigit := by
  obtain ⟨d, hd, rfl⟩ := mem_chLtoa (by decide) h
  exact digitChar_isDigit d hd

theorem chLtoa_length_pos (l radix : Nat) (hr : 2 ≤ radix) : 0 < (chLtoa l radix).length := by
  rw [chLtoa_eq hr]
  simp

/-- `l` has as many digits as `ch_ltoa` writes: `10 ^ (L - 1) ≤ l < 10 ^ L`, or `L = 1`. -/
theorem chLtoa_length_bounds (l : Nat) :
    l < 10 ^ (chLtoa l 10).length ∧ 10 ^ (chLtoa l 10).length ≤ max 10 (10 * l) := by
  induction l using Nat.strong_induction_on with
  | _ l ih =>
    rcases Nat.lt_or_ge l 10 with h | h
    · rw [chLtoa_ten_of_lt h]
      simp
      omega
    · obtain ⟨h1, h2⟩ := ih (l / 10) (Nat.div_lt_self (by omega) (by decide))
      rw [chLtoa_ten_of_le h, List.length_append, List.length_singleton, Nat.pow_succ]
      omega

/-! Reading the digits back. -/

theorem readDigits_digit {c : Char} (h : c.isDigit) (acc k : Nat) (cs : List Char) :
    readDigits acc k (c :: cs) = readDigits (acc * 10 + (c.toNat - '0'.toNat)) (k + 1) cs := by
  simp [readDigits, h]

theorem readDigits_chLtoa (l acc k : Nat) (rest : List Char) :
    readDigits acc k (chLtoa l 10 ++ rest) =
      readDigits (acc * 10 ^ (chLtoa l 10).length + l) (k + (chLtoa l 10).length) rest := by
  induction l using Nat.strong_induction_on generalizing acc k rest with
  | _ l ih =>
    rcases Nat.lt_or_ge l 10 with h | h
    · rw [chLtoa_ten_of_lt h, List.singleton_append, readDigits_digit (digitChar_isDigit l h),
        digitChar_value l h]
      simp
    · have hd := Nat.mod_lt l (by decide : 10 > 0)
      rw [chLtoa_ten_of_le h, List.append_assoc, List.singleton_append,
        ih _ (Nat.div_lt_self (by omega) (by decide) : l / 10 < l),
        readDigits_digit (digitChar_isDigit _ hd), digitChar_value _ hd, List.length_append,
        List.length_singleton]
      congr 1
      calc (acc * 10 ^ (chLtoa (l / 10) 10).length + l / 10) * 10 + l % 10
          = acc * (10 ^ (chLtoa (l / 10) 10).length * 10) + (10 * (l / 10) + l % 10) := by ring
        _ = _ := by rw [Nat.div_add_mod, Nat.pow_succ]

theorem readDigits_replicate_zero (n acc k : Nat) (rest : List Char) :
    readDigits acc k (List.replicate n '0' ++ rest) = readDigits (acc * 10 ^ n) (k + n) rest := by
  induction n generalizing acc k with
  | zero => simp
  | succ n ih =>
    rw [List.replicate_succ, List.cons_append, readDigits_digit (by decide), ih]
    congr 1
    · simp only [Nat.sub_self, Nat.add_zero, Nat.pow_succ']
      ring
    · omega

/-- Reading the digits `ch_ltoa` writes from the start gives the value, after at least one
digit. -/
theorem readDigits_chLtoa_start (l : Nat) (rest : List Char) :
    ∃ L, readDigits 0 0 (chLtoa l 10 ++ rest) = readDigits l (L + 1) rest := by
  obtain ⟨L, hL⟩ := Nat.exists_eq_add_of_lt (chLtoa_length_pos l 10 (by decide))
  exact ⟨L, by rw [readDigits_chLtoa, hL]; simp⟩

theorem readUnsigned_chLtoa (l : Nat) : readUnsigned (chLtoa l 10) = some (l : ℚ) := by
  obtain ⟨L, h⟩ := readDigits_chLtoa_start l []
  rw [List.append_nil] at h
  simp [readUnsigned, h, readDigits]

theorem readUnsigned_point (a b m : Nat) :
    readUnsigned (chLtoa a 10 ++ '.' :: (List.replicate m '0' ++ chLtoa b 10)) =
      some ((a : ℚ) + (b : ℚ) / 10 ^ (m + (chLtoa b 10).length)) := by
  obtain ⟨L, ha⟩ := readDigits_chLtoa_start a ('.' :: (List.replicate m '0' ++ chLtoa b 10))
  have hb := readDigits_replicate_zero m 0 0 (chLtoa b 10)
  rw [← List.append_nil (chLtoa b 10), readDigits_chLtoa, List.append_nil] at hb
  obtain ⟨M, hM⟩ := Nat.exists_eq_add_of_lt
    (Nat.lt_add_left m (chLtoa_length_pos b 10 (by decide)))
  simp only [readUnsigned, ha]
  simp [readDigits, hb, hM]

theorem readUnsigned_point_minus (a : Nat) (cs : List Char) :
    readUnsigned (chLtoa a 10 ++ '.' :: '-' :: cs) = none := by
  obtain ⟨L, ha⟩ := readDigits_chLtoa_start a ('.' :: '-' :: cs)
  simp only [readUnsigned, ha]
  simp [readDigits]

/-! The conversions the shell commands use: `%d`, `%Nd` and `%0Nd`. -/

/-- `%Nd`, blank-padded (`%d` for `N = 0`). -/
def decimalField (width : Nat) : Directive := ⟨false, false, ' ', width, 'd'⟩

/-- `%0Nd`, zero-padded. -/
def zeroPaddedField (width : Nat) : Directive := ⟨false, false, '0', width, 'd'⟩

theorem chLtoa_eq_cons (l : Nat) : ∃ c s, chLtoa l 10 = c :: s ∧ c.isDigit := by
  obtain ⟨c, s, hcs⟩ := List.exists_cons_of_length_pos (chLtoa_length_pos l 10 (by decide))
  exact ⟨c, s, hcs, isDigit_of_mem_chLtoa (hcs ▸ List.mem_cons_self c s)⟩

theorem signedBuffer_of_neg {l : Int} (h : l < 0) (doSign : Bool) :
    signedBuffer doSign l = '-' :: chLtoa l.natAbs 10 := by
  simp [signedBuffer, h]

theorem signedBuffer_of_nonneg {l : Int} (h : 0 ≤ l) :
    signedBuffer false l = chLtoa l.natAbs 10 := by
  simp [signedBuffer, not_lt.mpr h]

theorem pad_decimalField (w : Nat) (s : List Char) :
    pad (decimalField w) s = List.replicate (w - s.length) ' ' ++ s := by
  simp [pad, decimalField]

theorem pad_zeroPaddedField_chLtoa (w l : Nat) :
    pad (zeroPaddedField w) (chLtoa l 10) =
      List.replicate (w - (chLtoa l 10).length) '0' ++ chLtoa l 10 := by
  obtain ⟨c, s, hcs, hc⟩ := chLtoa_eq_cons l
  have hne : c ≠ '-' := by rintro rfl; exact absurd hc (by decide)
  simp [pad, zeroPaddedField, hcs, hne]

theorem pad_zeroPaddedField_minus (w : Nat) (s : List Char) :
    ∃ cs, pad (zeroPaddedField w) ('-' :: s) = '-' :: cs := by
  by_cases hn : s.length + 1 < w
  · exact ⟨List.replicate (w - (s.length + 1)) '0' ++ s, by simp [pad, zeroPaddedField, hn]⟩
  · exact ⟨s, by simp [pad, zeroPaddedField, hn, Nat.sub_eq_zero_of_le (not_lt.mp hn)]⟩

theorem dropWhile_blank (n : Nat) {c : Char} (hc : c ≠ ' ') (s : List Char) :
    (List.replicate n ' ' ++ c :: s).dropWhile (· = ' ') = c :: s := by
  induction n with
  | zero => simp [List.dropWhile_cons, hc]
  | succ n ih => simpa [List.replicate_succ, List.dropWhile_cons] using ih

theorem readDecimal_blank_minus (n : Nat) (s : List Char) :
    readDecimal (List.replicate n ' ' ++ '-' :: s) = (readUnsigned s).map (- ·) := by
  rw [readDecimal, dropWhile_blank n (by decide)]
  rfl

theorem readDecimal_blank_digit (n : Nat) {c : Char} (hc : c.isDigit) (s : List Char) :
    readDecimal (List.replicate n ' ' ++ c :: s) = readUnsigned (c :: s) := by
  have hne : ∀ d : Char, d.isDigit = false → c ≠ d := by rintro d hd rfl; simp_all
  rw [readDecimal, dropWhile_blank n (hne ' ' rfl)]
  split
  · rename_i h; exact absurd (List.cons.inj h).1 (hne '-' rfl)
  · rfl

/-- `%Nd` reads back as the value printed. -/
theorem readDecimal_decimalField (w : Nat) (l : Int) :
    readDecimal (pad (decimalField w) (signedBuffer false l)) = some (l : ℚ) := by
  rw [pad_decimalField]
  rcases lt_or_le l 0 with h | h
  · rw [signedBuffer_of_neg h, readDecimal_blank_minus, readUnsigned_chLtoa, Option.map_some',
      Nat.cast_natAbs, abs_of_neg h]
    simp
  · obtain ⟨c, s, hcs, hc⟩ := chLtoa_eq_cons l.natAbs
    rw [signedBuffer_of_nonneg h, hcs, readDecimal_blank_digit _ hc, ← hcs, readUnsigned_chLtoa,
      Nat.cast_natAbs, abs_of_nonneg h]

theorem readDecimal_decimalField_point (w : Nat) (a : Int) (cs : List Char) :
    readDecimal (pad (decimalField w) (signedBuffer false a) ++ '.' :: cs) =
      (readUnsigned (chLtoa a.natAbs 10 ++ '.' :: cs)).map ((if a < 0 then -1 else 1) * ·) := by
  rw [pad_decimalField, List.append_assoc]
  rcases lt_or_le a 0 with h | h
  · rw [signedBuffer_of_neg h, List.cons_append, readDecimal_blank_minus]
    simp [h]
  · obtain ⟨c, s, hcs, hc⟩ := chLtoa_eq_cons a.natAbs
    rw [signedBuffer_of_nonneg h, hcs, List.cons_append, readDecimal_blank_digit _ hc,
      ← List.cons_append, ← hcs]
    simp [not_lt.mpr h]

/-- `%Nd.%0Md` reads back as the integer part, signed as printed, and the digits of the
fraction, zero-padded to `M`; not as a number when the fraction is negative. -/
theorem readDecimal_point (w N : Nat) (a b : Int) :
    readDecimal (pad (decimalField w) (signedBuffer false a) ++
        '.' :: pad (zeroPaddedField N) (signedBuffer false b)) =
      if b < 0 then none
      else some ((if a < 0 then -1 else 1) *
        ((a.natAbs : ℚ) + (b.natAbs : ℚ) / 10 ^ max N (chLtoa b.natAbs 10).length)) := by
  rw [readDecimal_decimalField_point]
  rcases lt_or_le b 0 with h | h
  · obtain ⟨cs, hcs⟩ := pad_zeroPaddedField_minus N (chLtoa b.natAbs 10)
    rw [signedBuffer_of_neg h, hcs, readUnsigned_point_minus, if_pos h]
    rfl
  · rw [signedBuffer_of_nonneg h, pad_zeroPaddedField_chLtoa, readUnsigned_point,
      if_neg (not_lt.mpr h), Nat.sub_add_eq_max]
    rfl

/-! The formats of the shell commands, part by part. -/

/-- A part of a format: a literal character, `%Nd`, `%Nd.%0Md` (two conversions around a
point), or `%0Nx`. -/
inductive Part where
  | lit (c : Char)
  | int (w : Nat)
  | point (w N : Nat)
  | hex (w : Nat)
  deriving DecidableEq, Repr

/-- The pieces `parseFormat` makes of a part. -/
def Part.pieces : Part → List Piece
  | .lit c => [.lit c]
  | .int w => [.directive (decimalField w)]
  | .point w N => [.directive (decimalField w), .lit '.', .directive (zeroPaddedField N)]
  | .hex w => [.directive ⟨false, false, '0', w, 'x'⟩]

/-- What `%Nd` prints for the argument `a`. -/
def intText (w : Nat) (a : Int) : List Char := pad (decimalField w) (signedBuffer false (int32Of a))

/-- What `%Nd.%0Md` prints for the arguments `a` and `b`. -/
def pointText (w N : Nat) (a b : Int) : List Char :=
  intText w a ++ '.' :: pad (zeroPaddedField N) (signedBuffer false (int32Of b))

/-- What `%0Nx` prints for the argument `a`. -/
def hexText (w : Nat) (a : Int) : List Char :=
  pad ⟨false, false, '0', w, 'x'⟩ (chLtoa (word a) 16)

/-- The text of the parts, taking the arguments in order as `format` does. -/
def partsText : List Part → List Int → List Char
  | [], _ => []
  | .lit c :: ps, args => c :: partsText ps args
  | .int w :: ps, args => intText w (args.headD 0) ++ partsText ps args.tail
  | .point w N :: ps, args =>
    pointText w N (args.headD 0) (args.tail.headD 0) ++ partsText ps args.tail.tail
  | .hex w :: ps, args => hexText w (args.headD 0) ++ partsText ps args.tail

theorem format_parts (ps : List Part) (args : List Int) :
    format (ps.flatMap Part.pieces) args = partsText ps args := by
  induction ps generalizing args with
  | nil => rfl
  | cons p ps ih =>
    rw [List.flatMap_cons]
    cases p <;> simp only [Part.pieces, format, partsText, convert, decimalField, zeroPaddedField,
      intText, pointText, hexText, ih, List.cons_append, List.singleton_append, List.append_assoc,
      List.append_eq, List.nil_append]

/-! Reading the parts back. -/

theorem int32Of_of_bounds {a : Int} (h1 : -2 ^ 31 ≤ a) (h2 : a < 2 ^ 31) : int32Of a = a := by
  unfold int32Of word
  split_ifs <;> omega

theorem int32Of_natCast {n : Nat} (h : n < 2 ^ 32) :
    int32Of n = if n < 2 ^ 31 then (n : Int) else n - 2 ^ 32 := by
  have hw : word n = n := by
    rw [word, Int.emod_eq_of_lt (Int.natCast_nonneg n) (by exact_mod_cast h)]
    rfl
  simp only [int32Of, hw]

/-- A value below `10 ^ N` takes at most `N` digits. -/
theorem max_chLtoa_length {N l : Nat} (hN : 0 < N) (h : l < 10 ^ N) :
    max N (chLtoa l 10).length = N := by
  obtain ⟨-, h2⟩ := chLtoa_length_bounds l
  refine max_eq_left (Nat.le_of_not_lt fun hL => ?_)
  have hp : 10 ^ (N + 1) ≤ 10 ^ (chLtoa l 10).length := Nat.pow_le_pow_right (by decide) hL
  have h100 : 10 ^ 2 ≤ 10 ^ (N + 1) := Nat.pow_le_pow_right (by decide) (by omega)
  rw [Nat.pow_succ] at hp h100
  omega

theorem natAbs_cast_of_nonneg {l : Int} (h : 0 ≤ l) : ((l.natAbs : ℕ) : ℚ) = l := by
  rw [Nat.cast_natAbs, abs_of_nonneg h]

theorem readDecimal_intText (w : Nat) {a : Int} (h1 : -2 ^ 31 ≤ a) (h2 : a < 2 ^ 31) :
    readDecimal (intText w a) = some (a : ℚ) := by
  rw [intText, int32Of_of_bounds h1 h2, readDecimal_decimalField]

theorem readDecimal_pointText (w N : Nat) {a b : Int} (ha1 : -2 ^ 31 ≤ a) (ha2 : a < 2 ^ 31)
    (hb1 : 0 ≤ b) (hb2 : b < 10 ^ N) (hN : 0 < N) (hN' : 10 ^ N ≤ 2 ^ 31) :
    readDecimal (pointText w N a b) =
      some ((if a < 0 then -1 else 1) * ((a.natAbs : ℚ) + (b : ℚ) / 10 ^ N)) := by
  have hbn : b.natAbs < 10 ^ N := by
    rw [← Int.ofNat_lt, Int.natAbs_of_nonneg hb1]
    exact_mod_cast hb2
  rw [pointText, intText, int32Of_of_bounds ha1 ha2, int32Of_of_bounds (by omega) (by omega),
    readDecimal_point, if_neg (not_lt.mpr hb1), max_chLtoa_length hN hbn,
    natAbs_cast_of_nonneg hb1]

theorem readDecimal_pointText_of_neg (w N : Nat) {a b : Int} (ha1 : -2 ^ 31 ≤ a)
    (ha2 : a < 2 ^ 31) (hb1 : -2 ^ 31 ≤ b) (hb2 : b < 0) :
    readDecimal (pointText w N a b) = none := by
  rw [pointText, intText, int32Of_of_bounds ha1 ha2, int32Of_of_bounds hb1 (by omega),
    readDecimal_point, if_pos hb2]

theorem div_add_mod_div_cast (v m : Nat) (hm : 0 < m) :
    ((v / m : ℕ) : ℚ) + ((v % m : ℕ) : ℚ) / m = v / m := by
  rw [eq_div_iff (by positivity), add_mul, div_mul_cancel₀ _ (by positivity)]
  exact_mod_cast Nat.div_add_mod' v m

/-- An unsigned value printed as `v / 10^N`, a point, and `v % 10^N` zero-padded to `N`
digits reads as `v / 10^N`. -/
theorem readDecimal_pointText_div_mod (w N : Nat) {v m : Nat} (hm : 10 ^ N = m)
    (hv : v / m < 2 ^ 31) (hN : 0 < N) (hN' : m ≤ 2 ^ 31) :
    readDecimal (pointText w N (v / m : ℕ) (v % m : ℕ)) = some ((v : ℚ) / m) := by
  subst hm
  have hm : v % 10 ^ N < 10 ^ N := Nat.mod_lt v (by positivity)
  have hq := Int.natCast_nonneg (v / 10 ^ N)
  have hq' : ((v / 10 ^ N : ℕ) : ℤ) < 2 ^ 31 := by exact_mod_cast hv
  have hval := div_add_mod_div_cast v (10 ^ N) (by positivity)
  push_cast at hval
  rw [readDecimal_pointText w N (by omega) hq' (by omega) (by exact_mod_cast hm) hN
    (by exact_mod_cast hN'), if_neg (by omega), Int.natAbs_ofNat, Int.cast_natCast, one_mul]
  push_cast
  rw [hval]

theorem mem_pad {d : Directive} {s : List Char} {c : Char} (h : c ∈ pad d s) :
    c ∈ s ∨ c = d.filler := by
  simp only [pad] at h
  split_ifs at h with h1 h2
  · simp only [List.mem_append, List.mem_replicate] at h
    tauto
  · rcases List.mem_cons.mp h with rfl | h
    · exact .inl (List.mem_of_mem_head? h2.2.1)
    · simp only [List.mem_append, List.mem_replicate] at h
      rcases h with ⟨-, rfl⟩ | h
      · exact .inr h2.2.2.symm
      · exact .inl (List.mem_of_mem_tail h)
  · simp only [List.mem_append, List.mem_replicate] at h
    tauto

/-- The characters the integer conversions of the shell formats print: the digits and hex
letters `ch_ltoa` writes, a sign, the blank filler, and the point between two conversions. -/
def numericChar (c : Char) : Bool :=
  c.isDigit || c ∈ ['A', 'B', 'C', 'D', 'E', 'F', '+', '-', ' ', '.']

theorem numericChar_digitChar : ∀ i < 16, numericChar (digitChar i) = true := by decide

theorem numericChar_of_mem_chLtoa {radix : Nat} (hr : 2 ≤ radix) (hr' : radix ≤ 16) {l : Nat}
    {c : Char} (h : c ∈ chLtoa l radix) : numericChar c = true := by
  obtain ⟨d, hd, rfl⟩ := mem_chLtoa hr h
  exact numericChar_digitChar d (by omega)

theorem numericChar_of_mem_signedBuffer {doSign : Bool} {l : Int} {c : Char}
    (h : c ∈ signedBuffer doSign l) : numericChar c = true := by
  have hl := @numericChar_of_mem_chLtoa 10 (by decide) (by decide) l.natAbs c
  unfold signedBuffer at h
  split_ifs at h
  · rcases List.mem_cons.mp h with rfl | h
    exacts [rfl, hl h]
  · rcases List.mem_cons.mp h with rfl | h
    exacts [rfl, hl h]
  · exact hl h

theorem numericChar_of_mem_pad {d : Directive} {s : List Char} {c : Char} (h : c ∈ pad d s)
    (hs : ∀ c ∈ s, numericChar c = true) (hd : numericChar d.filler = true) :
    numericChar c = true :=
  (mem_pad h).elim (hs c) fun h => h ▸ hd

theorem numericChar_of_mem_intText {w : Nat} {a : Int} {c : Char} (h : c ∈ intText w a) :
    numericChar c = true :=
  numericChar_of_mem_pad h (fun _ => numericChar_of_mem_signedBuffer) rfl

theorem numericChar_of_mem_pointText {w N : Nat} {a b : Int} {c : Char}
    (h : c ∈ pointText w N a b) : numericChar c = true := by
  rcases List.mem_append.mp h with h | h
  · exact numericChar_of_mem_intText h
  · rcases List.mem_cons.mp h with rfl | h
    · rfl
    · exact numericChar_of_mem_pad h (fun _ => numericChar_of_mem_signedBuffer) rfl

theorem numericChar_of_mem_hexText {w : Nat} {a : Int} {c : Char} (h : c ∈ hexText w a) :
    numericChar c = true :=
  numericChar_of_mem_pad h (fun _ => numericChar_of_mem_chLtoa (by decide) (by decide)) rfl

end Pecanpico.Shell
