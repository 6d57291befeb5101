import GraphicsBlock.Job

/-!
What calls say. A call is told from the words of its region, from the control word that launches a
fill, and from the settings. The relations know nothing of the fields and banks by which the block
finds a call, and for each kind of call the block finds the one that is told and no other.
-/

namespace GraphicsBlock

def Word.Counts (word bytes : Word) : Prop := bytes.toNat = 8 * word.toNat % 0x100000000

theorem Word.counts_iff {word bytes : Word} : word.Counts bytes ↔ Word.byteAddress word = bytes := by
  rw [Counts, ← Word.toNat_byteAddress, eq_comm]
  exact BitVec.toNat_inj

theorem Dimensions.eq_of_toNat {d e : Dimensions} (width : d.width.toNat = e.width.toNat)
    (height : d.height.toNat = e.height.toNat) : d = e :=
  congr (congrArg Dimensions.mk (BitVec.eq_of_toNat_eq width)) (BitVec.eq_of_toNat_eq height)

structure Dimensions.Spans (d : Dimensions) (word : Word) : Prop where
  width : d.width.toNat = (word.extractLsb' 0 16).toNat
  height : d.height.toNat = (word.extractLsb' 16 16).toNat

theorem Extent.spans_iff {e : Extent} {d : Dimensions} : d.Spans e.raw ↔ e.dimensions = d := by
  constructor
  · rintro ⟨width, height⟩
    exact Dimensions.eq_of_toNat (e.toNat_width_dimensions.trans width.symm)
      (e.toNat_height_dimensions.trans height.symm)
  · rintro rfl
    exact ⟨e.toNat_width_dimensions, e.toNat_height_dimensions⟩

structure LineLayout.Measures (l : LineLayout) (word : Word) : Prop where
  bytes : l.bytesPerLine.toNat = 16 * (word.extractLsb' 0 16).toNat
  padding : l.paddingBytesPerLine.toNat = 16 * (word.extractLsb' 16 16).toNat
  total : l.totalBytesPerLine.toNat =
    16 * ((word.extractLsb' 0 16).toNat + (word.extractLsb' 16 16).toNat)

theorem LineSize.measures_iff {s : LineSize} {l : LineLayout} :
    l.Measures s.raw ↔ s.layout = l := by
  constructor
  · rintro ⟨bytes, padding, _⟩
    have bytes := BitVec.eq_of_toNat_eq (s.toNat_bytesPerLine.trans bytes.symm)
    have padding := BitVec.eq_of_toNat_eq (s.toNat_paddingBytesPerLine.trans padding.symm)
    exact congr (congrArg LineLayout.mk bytes) padding
  · rintro rfl
    exact ⟨s.toNat_bytesPerLine, s.toNat_paddingBytesPerLine, s.toNat_totalBytesPerLine⟩

theorem LineLayout.Measures.total_eq {l : LineLayout} {word : Word} (h : l.Measures word) :
    l.totalBytesPerLine = (LineSize.mk word).totalBytesPerLine := by
  rw [← (LineSize.measures_iff (s := ⟨word⟩)).1 h]
  rfl

/-- A screen as its words tell it. Which address registers count depends on the set. -/
structure Scanout.Tells (scanout : Scanout) (file : RegisterFile) (u : UnitId) : Prop where
  set : scanout.set = ((file.register (.screen u .select)).getLsbD 0).toNat
  left : (file.register (.screen u (if scanout.set = 1 then .left2 else .left1))).Counts
    scanout.leftAddress
  right : (file.register (.screen u (if scanout.set = 1 then .right2 else .right1))).Counts
    scanout.rightAddress
  stride : scanout.stride = file.register (.screen u .stride)
  size : scanout.size.Spans (file.register (.screen u .size))
  format : scanout.format.raw = file.register (.screen u .format)

namespace RegisterFile

theorem activeLeft_screenBank (file : RegisterFile) (u : UnitId) :
    (file.screenBank u).activeLeft = file.register
      (.screen u (if (file.screenBank u).select.activeSet = 1 then .left2 else .left1)) := by
  unfold ScreenBank.activeLeft FramebufferSelect.activeSet
  cases (file.screenBank u).select.second <;> rfl

theorem activeRight_screenBank (file : RegisterFile) (u : UnitId) :
    (file.screenBank u).activeRight = file.register
      (.screen u (if (file.screenBank u).select.activeSet = 1 then .right2 else .right1)) := by
  unfold ScreenBank.activeRight FramebufferSelect.activeSet
  cases (file.screenBank u).select.second <;> rfl

end RegisterFile

theorem Scanout.tells_iff {scanout : Scanout} {file : RegisterFile} {u : UnitId} :
    scanout.Tells file u ↔ (file.screenBank u).scanout = scanout := by
  have live := (file.screenBank u).select.activeSet_eq_toNat
  constructor
  · rintro ⟨set, left, right, stride, size, format⟩
    have set := live.trans set.symm
    rw [← set, ← RegisterFile.activeLeft_screenBank, Word.counts_iff] at left
    rw [← set, ← RegisterFile.activeRight_screenBank, Word.counts_iff] at right
    have size := (Extent.spans_iff (e := (file.screenBank u).size)).1 size
    have format := congrArg FramebufferFormat.mk format.symm
    exact congr (congr (congr (congr (congr (congrArg Scanout.mk set) left) right) stride.symm)
      size) format
  · rintro rfl
    refine ⟨live, ?_, ?_, rfl, (Extent.spans_iff (e := (file.screenBank u).size)).2 rfl, rfl⟩
    · rw [ScreenBank.scanout, ← RegisterFile.activeLeft_screenBank]
      exact Word.counts_iff.2 rfl
    · rw [ScreenBank.scanout, ← RegisterFile.activeRight_screenBank]
      exact Word.counts_iff.2 rfl

inductive Settings.Selects (settings : Settings) (control value : Word) : FillPattern → Prop
  | rgb : settings.byteOrder = .rgb → control.getLsbD 8 = true → control.getLsbD 9 = false →
      Selects settings control value
        (.bytes (value.extractLsb' 0 8) (value.extractLsb' 8 8) (value.extractLsb' 16 8))
  | bgr : settings.byteOrder = .bgr → control.getLsbD 8 = true → control.getLsbD 9 = false →
      Selects settings control value
        (.bytes (value.extractLsb' 16 8) (value.extractLsb' 8 8) (value.extractLsb' 0 8))
  | full : control.getLsbD 8 = false → control.getLsbD 9 = true →
      Selects settings control value (.full value)
  | half : settings.fillMode = .zeroSelects16 → control.getLsbD 8 = false →
      control.getLsbD 9 = false → Selects settings control value (.half (value.extractLsb' 0 16))

theorem FillValue.pattern_rgb (v : FillValue) :
    v.pattern .rgb .bytes =
      .bytes (v.raw.extractLsb' 0 8) (v.raw.extractLsb' 8 8) (v.raw.extractLsb' 16 8) := by
  simp only [pattern, component_eq]
  rfl

theorem FillValue.pattern_bgr (v : FillValue) :
    v.pattern .bgr .bytes =
      .bytes (v.raw.extractLsb' 16 8) (v.raw.extractLsb' 8 8) (v.raw.extractLsb' 0 8) := by
  simp only [pattern, component_eq]
  rfl

theorem FillValue.pattern_half (order : ByteOrder) (v : FillValue) :
    v.pattern order .half = .half (v.raw.extractLsb' 0 16) :=
  congrArg FillPattern.half v.half_eq

theorem FillControl.width?_eq_some_iff {c : FillControl} {mode : FillMode} {width : FillWidth} :
    c.width? mode = some width ↔
      match width with
      | .bytes => c.raw.getLsbD 8 = true ∧ c.raw.getLsbD 9 = false
      | .full => c.raw.getLsbD 8 = false ∧ c.raw.getLsbD 9 = true
      | .half => mode = .zeroSelects16 ∧ c.raw.getLsbD 8 = false ∧ c.raw.getLsbD 9 = false := by
  have fill24 : c.get .fill24 = c.raw.getLsbD 8 := c.get_eq_getLsbD .fill24
  have fill32 : c.get .fill32 = c.raw.getLsbD 9 := c.get_eq_getLsbD .fill32
  unfold width?
  rw [fill24, fill32]
  cases c.raw.getLsbD 8 <;> cases c.raw.getLsbD 9 <;> cases mode <;> cases width <;> simp

theorem Settings.selects_iff {settings : Settings} {c : FillControl} {v : FillValue}
    {pattern : FillPattern} :
    settings.Selects c.raw v.raw pattern ↔
      ∃ width, c.width? settings.fillMode = some width ∧
        v.pattern settings.byteOrder width = pattern := by
  simp only [FillControl.width?_eq_some_iff]
  constructor
  · intro selects
    cases selects with
    | rgb order bit8 bit9 => exact ⟨.bytes, ⟨bit8, bit9⟩, order ▸ v.pattern_rgb⟩
    | bgr order bit8 bit9 => exact ⟨.bytes, ⟨bit8, bit9⟩, order ▸ v.pattern_bgr⟩
    | full bit8 bit9 => exact ⟨.full, ⟨bit8, bit9⟩, rfl⟩
    | half mode bit8 bit9 => exact ⟨.half, ⟨mode, bit8, bit9⟩, v.pattern_half _⟩
  · rintro ⟨width, bits, rfl⟩
    cases width with
    | bytes =>
      cases order : settings.byteOrder with
      | rgb => exact v.pattern_rgb ▸ .rgb order bits.1 bits.2
      | bgr => exact v.pattern_bgr ▸ .bgr order bits.1 bits.2
    | full => exact .full bits.1 bits.2
    | half => exact v.pattern_half _ ▸ .half bits.1 bits.2.1 bits.2.2

/-- A fill as the words of its unit tell it, under the control word that launches it. -/
structure FillJob.Tells (job : FillJob) (settings : Settings) (file : RegisterFile)
    (control : Word) : Prop where
  first : (file.register (.fill job.unit .startAddress)).Counts job.startAddress
  last : (file.register (.fill job.unit .endAddress)).Counts job.endAddress
  pattern : settings.Selects control (file.register (.fill job.unit .value)) job.pattern

theorem FillJob.tells_iff {job : FillJob} {settings : Settings} {file : RegisterFile}
    {c : FillControl} :
    job.Tells settings file c.raw ↔
      ∃ width, c.width? settings.fillMode = some width ∧
        (file.fillBank job.unit).job settings.byteOrder job.unit width = job := by
  constructor
  · rintro ⟨first, last, pattern⟩
    obtain ⟨width, selected, pattern⟩ :=
      (Settings.selects_iff (v := (file.fillBank job.unit).value)).1 pattern
    have first := Word.counts_iff.1 first
    have last := Word.counts_iff.1 last
    exact ⟨width, selected,
      congr (congr (congrArg (FillJob.mk job.unit) first) last) pattern⟩
  · rintro ⟨width, selected, told⟩
    rw [← told]
    exact ⟨Word.counts_iff.2 rfl, Word.counts_iff.2 rfl,
      Settings.selects_iff.2 ⟨width, selected, rfl⟩⟩

example : FillWord.all.map (fun word => (Register.fill .one word).index.val) =
      [0x8, 0x9, 0xA, 0xB] ∧
    CommandWord.all.map (fun word => (Register.command word).index.val) =
      [0x638, 0x63A, 0x63C] := by decide

structure ListJob.Tells (job : ListJob) (file : RegisterFile) : Prop where
  address : (file.register (.command .address)).Counts job.address
  size : (file.register (.command .size)).Counts job.sizeBytes

theorem ListJob.tells_iff {job : ListJob} {file : RegisterFile} :
    job.Tells file ↔ file.commandBank.job = job := by
  constructor
  · rintro ⟨address, size⟩
    have address := Word.counts_iff.1 address
    have size := Word.counts_iff.1 size
    exact congr (congrArg ListJob.mk address) size
  · rintro rfl
    exact ⟨Word.counts_iff.2 rfl, Word.counts_iff.2 rfl⟩

inductive Scaling.Scales (mode : Nat) (output : Dimensions) : Scaling → Dimensions → Prop
  | unscaled : Scales mode output .unscaled output
  | whole {scaling} : mode = 0 → Scales mode output scaling output
  | width {scaled : Dimensions} : mode = 1 → scaled.width.toNat = output.width.toNat / 2 →
      scaled.height.toNat = output.height.toNat → Scales mode output .halveOutput scaled
  | both {scaled : Dimensions} : 2 ≤ mode → scaled.width.toNat = output.width.toNat / 2 →
      scaled.height.toNat = output.height.toNat / 2 → Scales mode output .halveOutput scaled

namespace Scaling

theorem apply_one (output : Dimensions) :
    halveOutput.apply output 1 = ⟨output.width / 2, output.height⟩ := rfl

theorem apply_of_two_le {mode : Word} (h : 2 ≤ mode.toNat) (output : Dimensions) :
    halveOutput.apply output mode = ⟨output.width / 2, output.height / 2⟩ := by
  have ne_zero : mode ≠ 0 := by rintro rfl; cases h
  have ne_one : mode ≠ 1 := by rintro rfl; exact absurd h (by decide)
  rw [apply, if_neg ne_zero, if_neg ne_one]

theorem toNat_half (side : Word) : (side / 2).toNat = side.toNat / 2 := BitVec.toNat_udiv

theorem scales_iff {scaling : Scaling} {mode : Word} {output scaled : Dimensions} :
    scaling.Scales mode.toNat output scaled ↔ scaling.apply output mode = scaled := by
  constructor
  · intro scales
    cases scales with
    | unscaled => rfl
    | whole zero =>
      rw [BitVec.eq_of_toNat_eq (y := 0) zero]
      cases scaling <;> rfl
    | width one width height =>
      rw [BitVec.eq_of_toNat_eq (y := 1) one, apply_one]
      exact Dimensions.eq_of_toNat ((toNat_half _).trans width.symm) height.symm
    | both two width height =>
      rw [apply_of_two_le two]
      exact Dimensions.eq_of_toNat ((toNat_half _).trans width.symm)
        ((toNat_half _).trans height.symm)
  · rintro rfl
    cases scaling with
    | unscaled => exact .unscaled
    | halveOutput =>
      rcases Nat.lt_trichotomy mode.toNat 1 with zero | one | two
      · rw [BitVec.eq_of_toNat_eq (y := 0) (Nat.lt_one_iff.1 zero)]
        exact .whole rfl
      · rw [BitVec.eq_of_toNat_eq (y := 1) one, apply_one]
        exact .width rfl (toNat_half _) rfl
      · rw [apply_of_two_le two]
        exact .both two (toNat_half _) (toNat_half _)

end Scaling

theorem TransferBank.conversion?_eq_ok_iff {b : TransferBank} {scaling : Scaling}
    {c : FormatConversion} :
    b.conversion? scaling = .ok c ↔
      c.inputFormat.code = (b.flags.raw.extractLsb' 8 3).toNat ∧
      c.outputFormat.code = (b.flags.raw.extractLsb' 12 3).toNat ∧
      b.inputSize.dimensions = c.inputSize ∧ b.outputSize.dimensions = c.outputSize ∧
      scaling.apply b.outputSize.dimensions (b.flags.code .scalingMode) = c.scaledSize := by
  have input : (b.flags.code .inputFormat).toNat = (b.flags.raw.extractLsb' 8 3).toNat :=
    b.flags.toNat_code .inputFormat
  have output : (b.flags.code .outputFormat).toNat = (b.flags.raw.extractLsb' 12 3).toNat :=
    b.flags.toNat_code .outputFormat
  rw [← input, ← output, ← PixelFormat.ofCode?_eq_ok_iff, ← PixelFormat.ofCode?_eq_ok_iff]
  unfold conversion? TransferFlags.inputFormat TransferFlags.outputFormat
  cases PixelFormat.ofCode? (b.flags.code .inputFormat) with
  | error => exact ⟨nofun, fun told => nomatch told.1⟩
  | ok inputFormat =>
    cases PixelFormat.ofCode? (b.flags.code .outputFormat) with
    | error => exact ⟨nofun, fun told => nomatch told.2.1⟩
    | ok outputFormat =>
      obtain ⟨_, _, _, _, _⟩ := c
      simp only [Except.ok.injEq, FormatConversion.mk.injEq, bind, Except.bind, pure, Except.pure]

/-- What a transfer does, as the words of its region tell it. -/
inductive TransferKind.Tells (scaling : Scaling) (file : RegisterFile) : TransferKind → Prop
  | copy {c : LineCopy} : (file.register (.transfer .flags)).getLsbD 3 = true →
      c.totalBytes = file.register (.transfer .totalBytes) →
      c.input.Measures (file.register (.transfer .inputLine)) →
      c.output.Measures (file.register (.transfer .outputLine)) → Tells scaling file (.copy c)
  | convert {c : FormatConversion} {flags : Word} : file.register (.transfer .flags) = flags →
      flags.getLsbD 3 = false → c.inputFormat.code = (flags.extractLsb' 8 3).toNat →
      c.outputFormat.code = (flags.extractLsb' 12 3).toNat →
      c.inputSize.Spans (file.register (.transfer .inputSize)) →
      c.outputSize.Spans (file.register (.transfer .outputSize)) →
      scaling.Scales (flags.extractLsb' 24 2).toNat c.outputSize c.scaledSize →
      Tells scaling file (.convert c)

theorem TransferKind.tells_iff {kind : TransferKind} {scaling : Scaling} {file : RegisterFile} :
    kind.Tells scaling file ↔ file.transferBank.kind? scaling = .ok kind := by
  have raw : file.transferBank.flags.get .isRawCopy =
      (file.register (.transfer .flags)).getLsbD 3 :=
    file.transferBank.flags.get_eq_getLsbD .isRawCopy
  have mode : (file.transferBank.flags.code .scalingMode).toNat =
      ((file.register (.transfer .flags)).extractLsb' 24 2).toNat :=
    file.transferBank.flags.toNat_code .scalingMode
  unfold TransferBank.kind?
  constructor
  · intro tells
    cases tells with
    | copy copies total input output =>
      rw [if_pos (raw.trans copies), TransferBank.lineCopy]
      have input := (LineSize.measures_iff (s := file.transferBank.inputLine)).1 input
      have output := (LineSize.measures_iff (s := file.transferBank.outputLine)).1 output
      exact congrArg (fun copy => Except.ok (TransferKind.copy copy))
        (congr (congr (congrArg LineCopy.mk total.symm) input) output)
    | convert here formatted inputFormat outputFormat inputSize outputSize scales =>
      subst here
      have inputSize := (Extent.spans_iff (e := file.transferBank.inputSize)).1 inputSize
      have outputSize := (Extent.spans_iff (e := file.transferBank.outputSize)).1 outputSize
      rw [← mode, ← outputSize] at scales
      have read := (TransferBank.conversion?_eq_ok_iff (b := file.transferBank)).2
        ⟨inputFormat, outputFormat, inputSize, outputSize, Scaling.scales_iff.1 scales⟩
      rw [if_neg (ne_true_of_eq_false (raw.trans formatted)), read]
      rfl
  · intro read
    split at read
    · next copies =>
      cases read
      exact .copy (raw.symm.trans copies) rfl
        ((LineSize.measures_iff (s := file.transferBank.inputLine)).2 rfl)
        ((LineSize.measures_iff (s := file.transferBank.outputLine)).2 rfl)
    · next formatted =>
      cases converted : file.transferBank.conversion? scaling with
      | error => rw [converted] at read; cases read
      | ok c =>
        rw [converted] at read
        cases read
        obtain ⟨inputFormat, outputFormat, inputSize, outputSize, scaled⟩ :=
          TransferBank.conversion?_eq_ok_iff.1 converted
        have inputSize := (Extent.spans_iff (e := file.transferBank.inputSize)).2 inputSize
        have spans := (Extent.spans_iff (e := file.transferBank.outputSize)).2 outputSize
        refine .convert rfl (raw.symm.trans (Bool.eq_false_iff.2 formatted)) inputFormat
          outputFormat inputSize spans ?_
        rw [← mode, ← outputSize]
        exact Scaling.scales_iff.2 scaled

structure TransferJob.Tells (job : TransferJob) (settings : Settings) (file : RegisterFile) :
    Prop where
  input : (file.register (.transfer .inputAddress)).Counts job.inputAddress
  output : (file.register (.transfer .outputAddress)).Counts job.outputAddress
  flags : job.flags.raw = file.register (.transfer .flags)
  flipAxis : job.flipAxis = settings.flipAxis
  kind : job.kind.Tells settings.scaling file

theorem TransferJob.tells_iff {job : TransferJob} {settings : Settings} {file : RegisterFile} :
    job.Tells settings file ↔ file.transferBank.job? settings = .ok job := by
  unfold TransferBank.job?
  constructor
  · rintro ⟨input, output, flags, flipAxis, kind⟩
    rw [TransferKind.tells_iff.1 kind, Except.map]
    have input := Word.counts_iff.1 input
    have output := Word.counts_iff.1 output
    have flags := congrArg TransferFlags.mk flags.symm
    exact congrArg Except.ok (congr (congr (congr (congr (congrArg TransferJob.mk input) output)
      flags) flipAxis.symm) rfl)
  · intro read
    cases kind : file.transferBank.kind? settings.scaling with
    | error => rw [kind] at read; cases read
    | ok found =>
      rw [kind] at read
      cases read
      exact ⟨Word.counts_iff.2 rfl, Word.counts_iff.2 rfl, rfl, rfl, TransferKind.tells_iff.2 kind⟩

theorem TransferJob.Tells.unique {job other : TransferJob} {settings : Settings}
    {file : RegisterFile} (h : job.Tells settings file) (h' : other.Tells settings file) :
    job = other :=
  Except.ok.inj ((tells_iff.1 h).symm.trans (tells_iff.1 h'))

end GraphicsBlock
