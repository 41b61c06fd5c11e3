import Mathlib.Data.List.Range
import Mathlib.Data.UInt
import Mathlib.Data.Nat.Find

/-! The `printPicture` shell command: the search for the JPEG APP0 marker and the stream it
writes. -/
namespace Pecanpico.Shell

/-- What `printPicture` writes: a `TRACE_USB` line (its prefix left out) or a byte put on the
stream. -/
inductive UsbEvent where
  | traceUsb (msg : String)
  | streamPut (b : UInt8)
  deriving DecidableEq, Repr

/-- The trace announcing an image of `n` bytes. -/
def imageJpegTrace (n : Nat) : UsbEvent := .traceUsb ("DATA > image/jpeg," ++ toString n)

/-- The `for` loop over `i < size_sampled` from index `i` with `k` passes left. `mem j` is the
byte `conf.ram_buffer[j]` reads, inside the buffer or past its end. The result is what the
passes write and the final `start_detected`. -/
def pictureLoop (mem : Nat → UInt8) (sizeSampled : Nat) :
    Nat → Bool → Nat → List UsbEvent × Bool
  | _, started, 0 => ([], started)
  | i, started, k + 1 =>
    let detect := !started && mem i == 0xFF && mem (i + 1) == 0xE0
    let started' := started || detect
    let r := pictureLoop mem sizeSampled (i + 1) started' k
    ((if detect then [imageJpegTrace (sizeSampled - i + 2), .streamPut 0xFF, .streamPut 0xD8]
        else []) ++ (if started' then [.streamPut (mem i)] else []) ++ r.1, r.2)

/-- `printPicture` once `takePicture` has returned `cameraFound` and sampled `sizeSampled`
bytes into the buffer. -/
def printPicture (cameraFound : Bool) (mem : Nat → UInt8) (sizeSampled : Nat) : List UsbEvent :=
  if cameraFound then
    let r := pictureLoop mem sizeSampled 0 false sizeSampled
    r.1 ++ if r.2 then [] else
      [.traceUsb "DATA > image/jpeg,0", .traceUsb "DATA > text/trace,no SOI flag found"]
  else [.traceUsb "DATA > image,jpeg,0", .traceUsb "DATA > error,no camera found"]

/-- The marker test the loop makes at index `j`. -/
def App0At (mem : Nat → UInt8) (j : Nat) : Prop := mem j = 0xFF ∧ mem (j + 1) = 0xE0

instance (mem : Nat → UInt8) (j : Nat) : Decidable (App0At mem j) :=
  inferInstanceAs (Decidable (_ ∧ _))

section
variable {mem : Nat → UInt8} {sizeSampled : Nat}

theorem pictureLoop_started (i k : Nat) :
    pictureLoop mem sizeSampled i true k =
      ((List.range' i k).map fun j => .streamPut (mem j), true) := by
  induction k generalizing i with
  | zero => rfl
  | succ k ih => simp [pictureLoop, ih, List.range'_succ]

theorem pictureLoop_detect {i : Nat} (k : Nat) (h : App0At mem i) :
    pictureLoop mem sizeSampled i false (k + 1) =
      (imageJpegTrace (sizeSampled - i + 2) :: .streamPut 0xFF :: .streamPut 0xD8 ::
        (List.range' i (k + 1)).map fun j => .streamPut (mem j), true) := by
  simp [pictureLoop, h.1, h.2, pictureLoop_started, List.range'_succ]

theorem pictureLoop_skip {i : Nat} (k : Nat) (h : ¬App0At mem i) :
    pictureLoop mem sizeSampled i false (k + 1) = pictureLoop mem sizeSampled (i + 1) false k := by
  have hd : (mem i == 0xFF && mem (i + 1) == 0xE0) = false := by
    simpa [App0At] using h
  simp [pictureLoop, hd]

/-- Before the first marker the loop writes nothing; at the first marker `j` it announces
`sizeSampled - j + 2` bytes and writes the SOI marker and the bytes from `j` to the end. -/
theorem pictureLoop_first {i k j : Nat} (hij : i ≤ j) (hj : j < i + k) (h : App0At mem j)
    (hfirst : ∀ l, i ≤ l → l < j → ¬App0At mem l) :
    pictureLoop mem sizeSampled i false k =
      (imageJpegTrace (sizeSampled - j + 2) :: .streamPut 0xFF :: .streamPut 0xD8 ::
        (List.range' j (i + k - j)).map fun l => .streamPut (mem l), true) := by
  induction k generalizing i with
  | zero => omega
  | succ k ih =>
    rcases Nat.eq_or_lt_of_le hij with rfl | hlt
    · rw [pictureLoop_detect k h, Nat.add_sub_cancel_left]
    · rw [pictureLoop_skip k (hfirst i le_rfl hlt), ih hlt (by omega)
        (fun l hl hlj => hfirst l (by omega) hlj), show i + 1 + k - j = i + (k + 1) - j by omega]

theorem pictureLoop_none {i k : Nat} (hnone : ∀ l, i ≤ l → l < i + k → ¬App0At mem l) :
    pictureLoop mem sizeSampled i false k = ([], false) := by
  induction k generalizing i with
  | zero => rfl
  | succ k ih =>
    rw [pictureLoop_skip k (hnone i le_rfl (by omega)),
      ih (fun l hl hlk => hnone l (by omega) (by omega))]

/-- The loop reads `mem` at `i .. i + k` and nowhere else: the byte after its last index
included. -/
theorem pictureLoop_congr (mem' : Nat → UInt8) (i : Nat) (started : Bool) (k : Nat)
    (h : ∀ j, i ≤ j → j ≤ i + k → mem j = mem' j) :
    pictureLoop mem sizeSampled i started k = pictureLoop mem' sizeSampled i started k := by
  induction k generalizing i started with
  | zero => rfl
  | succ k ih =>
    have hk (b : Bool) := ih (i + 1) b fun j hj hjk => h j (by omega) (by omega)
    simp only [pictureLoop, h i le_rfl (by omega), h (i + 1) (by omega) (by omega), hk]

end

/-- The bytes `printPicture` puts on the stream, in order. -/
def streamed (evs : List UsbEvent) : List UInt8 :=
  evs.filterMap fun
    | .streamPut b => some b
    | .traceUsb _ => none

@[simp] theorem streamed_cons_streamPut (b : UInt8) (evs : List UsbEvent) :
    streamed (.streamPut b :: evs) = b :: streamed evs := rfl

@[simp] theorem streamed_cons_traceUsb (msg : String) (evs : List UsbEvent) :
    streamed (.traceUsb msg :: evs) = streamed evs := rfl

@[simp] theorem streamed_imageJpegTrace (n : Nat) (evs : List UsbEvent) :
    streamed (imageJpegTrace n :: evs) = streamed evs := rfl

@[simp] theorem streamed_map_streamPut (f : Nat → UInt8) (js : List Nat) :
    streamed (js.map fun j => .streamPut (f j)) = js.map f := by
  induction js with
  | nil => rfl
  | cons j js ih => simp [ih]

/-- A buffer holding `0xFF` at `j` and `0xE0` everywhere else. -/
def markerAt (j l : Nat) : UInt8 := if l = j then 0xFF else 0xE0

section
variable {mem : Nat → UInt8} {sizeSampled : Nat}

/-- With the first marker the loop tests at `j`, the image is announced with
`sizeSampled - j + 2` bytes and these are the SOI marker and `mem j .. mem (sizeSampled - 1)`. -/
theorem printPicture_of_first_marker {j : Nat} (hj : j < sizeSampled) (h : App0At mem j)
    (hfirst : ∀ l < j, ¬App0At mem l) :
    printPicture true mem sizeSampled =
      imageJpegTrace (sizeSampled - j + 2) :: .streamPut 0xFF :: .streamPut 0xD8 ::
        (List.range' j (sizeSampled - j)).map fun l => .streamPut (mem l) := by
  simp only [printPicture, if_true]
  rw [pictureLoop_first (Nat.zero_le j) (by omega) h fun l _ hl => hfirst l hl]
  simp

theorem printPicture_of_first_marker_markerAt :
    1 < 4 ∧ App0At (markerAt 1) 1 ∧ (∀ l < 1, ¬App0At (markerAt 1) l) ∧
      printPicture true (markerAt 1) 4 =
        imageJpegTrace (4 - 1 + 2) :: .streamPut 0xFF :: .streamPut 0xD8 ::
          (List.range' 1 (4 - 1)).map fun l => .streamPut (markerAt 1 l) :=
  have h : App0At (markerAt 1) 1 := by decide
  have hfirst : ∀ l < 1, ¬App0At (markerAt 1) l := by decide
  ⟨by decide, h, hfirst, printPicture_of_first_marker (by decide) h hfirst⟩

theorem printPicture_of_no_marker (hnone : ∀ l < sizeSampled, ¬App0At mem l) :
    printPicture true mem sizeSampled =
      [.traceUsb "DATA > image/jpeg,0", .traceUsb "DATA > text/trace,no SOI flag found"] := by
  simp only [printPicture, if_true]
  rw [pictureLoop_none fun l _ hl => hnone l (by omega)]
  rfl

theorem printPicture_of_no_marker_markerAt :
    (∀ l < 3, ¬App0At (markerAt 5) l) ∧
      printPicture true (markerAt 5) 3 =
        [.traceUsb "DATA > image/jpeg,0", .traceUsb "DATA > text/trace,no SOI flag found"] :=
  have hnone : ∀ l < 3, ¬App0At (markerAt 5) l := by decide
  ⟨hnone, printPicture_of_no_marker hnone⟩

/-- A `0xFF` as the last sampled byte followed by a `0xE0` past the sample is taken for the
marker: a 3-byte image made of the SOI marker and that `0xFF`. -/
theorem printPicture_of_stale_marker {s : Nat} (hnone : ∀ l < s, ¬App0At mem l)
    (h : App0At mem s) :
    printPicture true mem (s + 1) =
      [imageJpegTrace 3, .streamPut 0xFF, .streamPut 0xD8, .streamPut 0xFF] := by
  simp only [printPicture, if_true]
  rw [pictureLoop_first (Nat.zero_le s) (by omega) h fun l _ hl => hnone l hl]
  simp [h.1]

theorem printPicture_of_stale_marker_markerAt :
    (∀ l < 2, ¬App0At (markerAt 2) l) ∧ App0At (markerAt 2) 2 ∧
      printPicture true (markerAt 2) (2 + 1) =
        [imageJpegTrace 3, .streamPut 0xFF, .streamPut 0xD8, .streamPut 0xFF] :=
  have hnone : ∀ l < 2, ¬App0At (markerAt 2) l := by decide
  have h : App0At (markerAt 2) 2 := by decide
  ⟨hnone, h, printPicture_of_stale_marker hnone h⟩

/-- One sampled byte `0xFF`: the image streamed and the length announced depend on the byte
after the sample. -/
theorem printPicture_streams_unsampled_byte :
    printPicture true (markerAt 0) 1 =
        [imageJpegTrace 3, .streamPut 0xFF, .streamPut 0xD8, .streamPut 0xFF] ∧
      printPicture true (fun l => if l = 0 then 0xFF else 0) 1 =
        [.traceUsb "DATA > image/jpeg,0", .traceUsb "DATA > text/trace,no SOI flag found"] :=
  ⟨rfl, rfl⟩

/-- `printPicture` reads the buffer up to index `sizeSampled` and no further. -/
theorem printPicture_reads_through_size_sampled {mem' : Nat → UInt8} (cameraFound : Bool)
    (h : ∀ j ≤ sizeSampled, mem j = mem' j) :
    printPicture cameraFound mem sizeSampled = printPicture cameraFound mem' sizeSampled := by
  have hloop : pictureLoop mem sizeSampled 0 false sizeSampled = _ :=
    pictureLoop_congr mem' 0 false sizeSampled fun j _ hj => h j (by omega)
  simp only [printPicture, hloop]

theorem printPicture_reads_through_size_sampled_markerAt :
    (∀ j ≤ 3, markerAt 5 j = markerAt 6 j) ∧
      printPicture true (markerAt 5) 3 = printPicture true (markerAt 6) 3 :=
  have h : ∀ j ≤ 3, markerAt 5 j = markerAt 6 j := by decide
  ⟨h, printPicture_reads_through_size_sampled true h⟩

/-- Whatever the camera and the buffer, either no byte is streamed or the output starts with
the trace announcing exactly the number of bytes streamed. -/
theorem printPicture_announces_length (cameraFound : Bool) (mem : Nat → UInt8)
    (sizeSampled : Nat) :
    streamed (printPicture cameraFound mem sizeSampled) = [] ∨
      ∃ rest, printPicture cameraFound mem sizeSampled =
        imageJpegTrace (streamed (printPicture cameraFound mem sizeSampled)).length :: rest := by
  cases cameraFound with
  | false => exact .inl rfl
  | true =>
    by_cases hex : ∃ l, l < sizeSampled ∧ App0At mem l
    · obtain ⟨hj, h⟩ := Nat.find_spec hex
      have hfirst : ∀ l < Nat.find hex, ¬App0At mem l :=
        fun l hl h' => Nat.find_min hex hl ⟨hl.trans hj, h'⟩
      simp only [printPicture, if_true]
      rw [pictureLoop_first (Nat.zero_le _) (by omega) h fun l _ hl => hfirst l hl]
      simp
    · simp only [printPicture, if_true]
      rw [pictureLoop_none fun l _ hl h' => hex ⟨l, by omega, h'⟩]
      exact .inl rfl

end

end Pecanpico.Shell
