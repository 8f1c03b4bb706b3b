import GoogleCamera.Emulated.Metadata
import GoogleCamera.Emulated.Characteristics

/-!
# `StreamConfigurationMap`: the stream configurations of the characteristics

`StreamConfigurationMap(chars, maxResolution)` (`hwl/utils/StreamConfigurationMap.cpp`) reads
the stream-configuration, duration and input-output map entries of a camera's static
characteristics into the sets and maps that `EmulatedSensor::IsStreamCombinationSupported`
queries. Each `Append*` helper walks an entry four values at a time:

    for (size_t i = 0; i < entry.count; i += kStreamConfigurationSize) {
      int32_t width = entry.data.i32[i + kStreamWidthOffset];
      ...

and the input-output formats map is a sequence of groups `(input_format, n, out_1 .. out_n)`,
which a loop walks with a data-dependent step:

    while (i < entry.count) {
      auto input_format = ... entry.data.i32[i++];
      auto output_format_count = entry.data.i32[i++];
      if (output_format_count <= 0 || ((output_format_count + i) > entry.count)) { ...; break; }
      ...
    }

The constructor is modelled with every read it makes (`Read`): the entry, the element type it
is read through, and the index. A read past `entry.count`, or through another type than the
entry's, gives bytes that the model leaves open (`garbage`).

## What is proved

* The input-output map loop terminates (it is well founded on `count - i`) and leaves the maps
  of the reference parse (`inputOutputFormatsMap_eq_reference`). `referenceGroups` takes the
  longest prefix that splits into whole groups (`referenceGroups_prefix`, `prefix_referenceGroups`).
* Each mode reads its own variant of each tag, except the dynamic-depth ternary, which is
  the other way round: the default map reads the `_MAXIMUM_RESOLUTION` dynamic-depth
  configurations, and the maximum-resolution map the default ones
  (`dynamic_depth_mode_swapped`).
* Not every read stays inside its entry (`stall_read_outside_entry`).
  `kScalerStallDurationsMaxRes` names the `int32` tag
  `ANDROID_SCALER_AVAILABLE_STREAM_CONFIGURATIONS_MAXIMUM_RESOLUTION`, and the stall loop reads
  it through `data.i64`.
-/

namespace GoogleCamera.Emulated

/-! ### Tags and layout -/

def kScalerStreamConfigurations : Tag := .scalerAvailableStreamConfigurations
def kScalerStreamConfigurationsMaxRes : Tag :=
  .scalerAvailableStreamConfigurationsMaximumResolution
def kDepthStreamConfigurations : Tag := .depthAvailableDepthStreamConfigurations
def kDepthStreamConfigurationsMaxRes : Tag :=
  .depthAvailableDepthStreamConfigurationsMaximumResolution
def kDynamicDepthStreamConfigurations : Tag := .depthAvailableDynamicDepthStreamConfigurations
def kDynamicDepthStreamConfigurationsMaxRes : Tag :=
  .depthAvailableDynamicDepthStreamConfigurationsMaximumResolution
def kScalerMinFrameDurations : Tag := .scalerAvailableMinFrameDurations
def kScalerMinFrameDurationsMaxRes : Tag := .scalerAvailableMinFrameDurationsMaximumResolution
def kDepthMinFrameDurations : Tag := .depthAvailableDepthMinFrameDurations
def kDepthMinFrameDurationsMaxRes : Tag :=
  .depthAvailableDepthMinFrameDurationsMaximumResolution
def kScalerStallDurations : Tag := .scalerAvailableStallDurations
/-- As the source has it: the stream-configuration tag, not the stall-duration one. -/
def kScalerStallDurationsMaxRes : Tag := .scalerAvailableStreamConfigurationsMaximumResolution
def kScalerInputOutputFormatsMap : Tag := .scalerAvailableInputOutputFormatsMap
def kScalerInputOutputFormatsMapMaxRes : Tag :=
  .scalerAvailableInputOutputFormatsMapMaximumResolution
def kDepthStallDurations : Tag := .depthAvailableDepthStallDurations
def kDepthStallDurationsMaxRes : Tag := .depthAvailableDepthStallDurationsMaximumResolution
def kJpegRStreamConfigurations : Tag := .jpegrAvailableJpegRStreamConfigurations

/-- Modelled from the spec: `StreamConfigurationMap.h`, which declares the layout constants, is
not in this tree. A configuration or a duration is four values: format, width, height, and then
isInput or the duration. -/
def kStreamConfigurationSize : Nat := 4
/-- Modelled from the spec: see `kStreamConfigurationSize`. -/
def kStreamFormatOffset : Nat := 0
/-- Modelled from the spec: see `kStreamConfigurationSize`. -/
def kStreamWidthOffset : Nat := 1
/-- Modelled from the spec: see `kStreamConfigurationSize`. -/
def kStreamHeightOffset : Nat := 2
/-- Modelled from the spec: see `kStreamConfigurationSize`. -/
def kStreamIsInputOffset : Nat := 3
/-- Modelled from the spec: see `kStreamConfigurationSize`. -/
def kStreamMinDurationOffset : Nat := 3
/-- Modelled from the spec: see `kStreamConfigurationSize`. -/
def kStreamStallDurationOffset : Nat := 3

/-! ### Reads -/

/-- One read `entry.data.i32[index]` (`type = int32`) or `entry.data.i64[index]`
(`type = int64`). -/
structure Read where
  entry : Entry
  type : EntryType
  index : Nat
  deriving DecidableEq, Repr

/-- A read through the element type the entry is stored with, below `entry.count`. -/
def Read.InBounds (r : Read) : Prop := r.type = r.entry.type ∧ r.index < r.entry.count

instance (r : Read) : Decidable r.InBounds := inferInstanceAs (Decidable (_ ∧ _))

/-- The value a read gives: the stored value when it is in bounds, and otherwise what
`garbage` says lies at that index. -/
def Entry.read (garbage : Nat → Int) (e : Entry) (type : EntryType) (k : Nat) : Int :=
  if type = e.type then e.data.getD k (garbage k) else garbage k

theorem Entry.read_of_lt (garbage : Nat → Int) {data : List Int} {k : Nat}
    (h : k < data.length) : Entry.read garbage ⟨.int32, data⟩ .int32 k = data[k] := by
  simp [Entry.read, List.getD_eq_getElem?_getD, List.getElem?_eq_getElem h]

/-! ### The maps -/

/-- The fields of a `StreamConfigurationMap`. A `std::set` is a list without repeats, built by
`List.insert`; a `std::map` to sets is the list of its (key, element) pairs; in a `std::map` to
durations, an assignment puts its pair in front, and a lookup takes the first. -/
structure StreamConfigurationMap where
  streamOutputFormats : List Int
  streamOutputSizeMap : List (Int × Int × Int)
  dynamicPhysicalStreamOutputFormats : List Int
  dynamicPhysicalStreamOutputSizeMap : List (Int × Int × Int)
  streamMinDurationMap : List ((Int × Nat × Nat) × Int)
  streamStallMap : List ((Int × Nat × Nat) × Int)
  streamInputOutputMap : List (Int × Int)
  streamInputFormats : List Int
  jpegrStreamOutputSizeMap : List (Int × Int × Int)
  deriving DecidableEq, Repr

/-- A map with every field empty. -/
def StreamConfigurationMap.empty : StreamConfigurationMap := ⟨[], [], [], [], [], [], [], [], []⟩

/-- The two fields the input-output formats map fills. -/
def StreamConfigurationMap.inputOutput (m : StreamConfigurationMap) : List (Int × Int) × List Int :=
  (m.streamInputOutputMap, m.streamInputFormats)

/-- The constructor's state: the maps so far, and the reads so far, oldest first. -/
structure Parse where
  map : StreamConfigurationMap
  reads : List Read
  deriving DecidableEq, Repr

/-- Record the reads of `e` through `type` at `indices`. -/
def Parse.readAt (p : Parse) (e : Entry) (type : EntryType) (indices : List Nat) : Parse :=
  { p with reads := p.reads ++ indices.map (⟨e, type, ·⟩) }

/-- Change the maps. -/
def Parse.update (p : Parse) (f : StreamConfigurationMap → StreamConfigurationMap) : Parse :=
  { p with map := f p.map }

@[simp] theorem Parse.readAt_map (p : Parse) (e : Entry) (type : EntryType) (indices : List Nat) :
    (p.readAt e type indices).map = p.map := rfl

@[simp] theorem Parse.update_map (p : Parse) (f : StreamConfigurationMap → StreamConfigurationMap) :
    (p.update f).map = f p.map := rfl

/-- The values of `i` in `for (size_t i = 0; i < count; i += kStreamConfigurationSize)`. -/
def strideIndices (count : Nat) : List Nat :=
  List.range' 0 ((count + kStreamConfigurationSize - 1) / kStreamConfigurationSize)
    kStreamConfigurationSize

/-! ### The `Append*` helpers -/

/-- The loop of `AppendAvailableStreamConfigurations` and
`AppendAvailableJpegRStreamConfigurations`: each `(format, width, height, isInput)` with
`isInput == 0` goes into the maps by `add`. -/
def appendOutputConfigurations
    (add : Int → Int × Int → StreamConfigurationMap → StreamConfigurationMap)
    (garbage : Nat → Int) (e : Entry) (p : Parse) : Parse :=
  (strideIndices e.count).foldl (fun p i =>
    let width := e.read garbage .int32 (i + kStreamWidthOffset)
    let height := e.read garbage .int32 (i + kStreamHeightOffset)
    let format := e.read garbage .int32 (i + kStreamFormatOffset)
    let isInput := e.read garbage .int32 (i + kStreamIsInputOffset)
    let p := p.readAt e .int32 [i + kStreamWidthOffset, i + kStreamHeightOffset,
      i + kStreamFormatOffset, i + kStreamIsInputOffset]
    if isInput = 0 then p.update (add format (width, height)) else p) p

/-- `AppendAvailableStreamConfigurations`. -/
def appendAvailableStreamConfigurations : (Nat → Int) → Entry → Parse → Parse :=
  appendOutputConfigurations fun format size m =>
    { m with streamOutputFormats := m.streamOutputFormats.insert format,
             streamOutputSizeMap := m.streamOutputSizeMap.insert (format, size) }

/-- `AppendAvailableJpegRStreamConfigurations`. -/
def appendAvailableJpegRStreamConfigurations : (Nat → Int) → Entry → Parse → Parse :=
  appendOutputConfigurations fun format size m =>
    { m with jpegrStreamOutputSizeMap := m.jpegrStreamOutputSizeMap.insert (format, size) }

/-- `AppendAvailableDynamicPhysicalStreamConfigurations`: it reads no isInput, and takes input
and output configurations alike. -/
def appendAvailableDynamicPhysicalStreamConfigurations (garbage : Nat → Int) (e : Entry)
    (p : Parse) : Parse :=
  (strideIndices e.count).foldl (fun p i =>
    let width := e.read garbage .int32 (i + kStreamWidthOffset)
    let height := e.read garbage .int32 (i + kStreamHeightOffset)
    let format := e.read garbage .int32 (i + kStreamFormatOffset)
    let p := p.readAt e .int32 [i + kStreamWidthOffset, i + kStreamHeightOffset,
      i + kStreamFormatOffset]
    p.update fun m =>
      { m with
        dynamicPhysicalStreamOutputFormats := m.dynamicPhysicalStreamOutputFormats.insert format,
        dynamicPhysicalStreamOutputSizeMap :=
          m.dynamicPhysicalStreamOutputSizeMap.insert (format, width, height) }) p

/-- The loop of `AppendAvailableStreamMinDurations` and `AppendAvailableStreamStallDurations`:
each `(format, width, height, duration)`, read through `data.i64`, is assigned by `assign`. -/
def appendDurations (durationOffset : Nat)
    (assign : Int × Nat × Nat → Int → StreamConfigurationMap → StreamConfigurationMap)
    (garbage : Nat → Int) (e : Entry) (p : Parse) : Parse :=
  (strideIndices e.count).foldl (fun p i =>
    let format := int32Of (e.read garbage .int64 (i + kStreamFormatOffset))
    let width := uint32Of (e.read garbage .int64 (i + kStreamWidthOffset))
    let height := uint32Of (e.read garbage .int64 (i + kStreamHeightOffset))
    let duration := e.read garbage .int64 (i + durationOffset)
    let p := p.readAt e .int64 [i + kStreamFormatOffset, i + kStreamWidthOffset,
      i + kStreamHeightOffset, i + durationOffset]
    p.update (assign (format, width, height) duration)) p

/-- `AppendAvailableStreamMinDurations`. -/
def appendAvailableStreamMinDurations : (Nat → Int) → Entry → Parse → Parse :=
  appendDurations kStreamMinDurationOffset fun key duration m =>
    { m with streamMinDurationMap := (key, duration) :: m.streamMinDurationMap }

/-- `AppendAvailableStreamStallDurations`. -/
def appendAvailableStreamStallDurations : (Nat → Int) → Entry → Parse → Parse :=
  appendDurations kStreamStallDurationOffset fun key duration m =>
    { m with streamStallMap := (key, duration) :: m.streamStallMap }

/-! ### The input-output formats map -/

/-- The inner loop of the input-output map parse:
`stream_input_output_map_[input_format].insert(entry.data.i32[i])` for `i` in `indices`. -/
def insertOutputFormats (garbage : Nat → Int) (e : Entry) (inputFormat : Int)
    (indices : List Nat) (p : Parse) : Parse :=
  indices.foldl (fun p j =>
    (p.readAt e .int32 [j]).update fun m =>
      { m with streamInputOutputMap :=
          m.streamInputOutputMap.insert (inputFormat, e.read garbage .int32 j) }) p

/-- The constructor's `while (i < entry.count)` loop over the input-output formats map. It
terminates: each pass moves `i` on by at least two. -/
def parseInputOutputFormatsMap (garbage : Nat → Int) (e : Entry) (i : Nat) (p : Parse) : Parse :=
  if i < e.count then
    let inputFormat := e.read garbage .int32 i
    let outputFormatCount := e.read garbage .int32 (i + 1)
    let p := p.readAt e .int32 [i, i + 1]
    if outputFormatCount ≤ 0 ∨ (e.count : Int) < outputFormatCount + (i + 2 : Nat) then p
    else
      let p := insertOutputFormats garbage e inputFormat
        (List.range' (i + 2) outputFormatCount.toNat) p
      parseInputOutputFormatsMap garbage e (outputFormatCount.toNat + (i + 2))
        (p.update fun m => { m with streamInputFormats := m.streamInputFormats.insert inputFormat })
  else p
termination_by e.count - i

/-! ### The constructor -/

/-- The entry an `Append*` helper is handed after a failed `Get`: `entry.count = 0`. -/
def missingEntry : Entry := ⟨.int32, []⟩

/-- `if (ret == OK) f(entry);` after `ret = chars.Get(tag, &entry)`. -/
def whenPresent (f : Entry → Parse → Parse) : Option Entry → Parse → Parse
  | some e, p => f e p
  | none, p => p

/-- `StreamConfigurationMap::StreamConfigurationMap(chars, maxResolution)`, with every read it
makes. -/
def streamConfigurationMap (garbage : Nat → Int) (chars : Metadata) (maxResolution : Bool) :
    Parse :=
  let p : Parse := ⟨.empty, []⟩
  let p := appendAvailableStreamConfigurations garbage
    ((chars.get (if maxResolution then kScalerStreamConfigurationsMaxRes
      else kScalerStreamConfigurations)).getD missingEntry) p
  let p := whenPresent (appendAvailableStreamConfigurations garbage)
    (chars.get (if maxResolution then kDepthStreamConfigurationsMaxRes
      else kDepthStreamConfigurations)) p
  let p := whenPresent (appendAvailableStreamConfigurations garbage)
    (chars.get (if maxResolution then kDynamicDepthStreamConfigurations
      else kDynamicDepthStreamConfigurationsMaxRes)) p
  let p := appendAvailableStreamMinDurations garbage
    ((chars.get (if maxResolution then kScalerMinFrameDurationsMaxRes
      else kScalerMinFrameDurations)).getD missingEntry) p
  let p := whenPresent (appendAvailableStreamMinDurations garbage)
    (chars.get (if maxResolution then kDepthMinFrameDurationsMaxRes
      else kDepthMinFrameDurations)) p
  let p := appendAvailableStreamStallDurations garbage
    ((chars.get (if maxResolution then kScalerStallDurationsMaxRes
      else kScalerStallDurations)).getD missingEntry) p
  let p := whenPresent (appendAvailableStreamStallDurations garbage)
    (chars.get (if maxResolution then kDepthStallDurationsMaxRes else kDepthStallDurations)) p
  let p := whenPresent (fun e => parseInputOutputFormatsMap garbage e 0)
    (chars.get (if maxResolution then kScalerInputOutputFormatsMapMaxRes
      else kScalerInputOutputFormatsMap)) p
  let p := whenPresent (appendAvailableDynamicPhysicalStreamConfigurations garbage)
    (chars.get .scalerPhysicalCameraMultiResolutionStreamConfigurations) p
  whenPresent (appendAvailableJpegRStreamConfigurations garbage)
    (chars.get kJpegRStreamConfigurations) p

/-! ### What each helper leaves of the input-output map -/

theorem foldl_inputOutput {f : Parse → Nat → Parse}
    (hf : ∀ p i, (f p i).map.inputOutput = p.map.inputOutput) :
    ∀ (l : List Nat) (p : Parse), (l.foldl f p).map.inputOutput = p.map.inputOutput
  | [], _ => rfl
  | i :: l, p => (foldl_inputOutput hf l (f p i)).trans (hf p i)

theorem appendOutputConfigurations_inputOutput
    {add : Int → Int × Int → StreamConfigurationMap → StreamConfigurationMap}
    (hadd : ∀ f s m, (add f s m).inputOutput = m.inputOutput) (garbage : Nat → Int) (e : Entry)
    (p : Parse) : (appendOutputConfigurations add garbage e p).map.inputOutput = p.map.inputOutput :=
  foldl_inputOutput (fun p i => by dsimp only; split <;> simp [hadd]) _ _

theorem appendDurations_inputOutput {d : Nat}
    {assign : Int × Nat × Nat → Int → StreamConfigurationMap → StreamConfigurationMap}
    (hassign : ∀ k v m, (assign k v m).inputOutput = m.inputOutput) (garbage : Nat → Int)
    (e : Entry) (p : Parse) :
    (appendDurations d assign garbage e p).map.inputOutput = p.map.inputOutput :=
  foldl_inputOutput (fun p i => by simp [hassign]) _ _

@[simp] theorem appendAvailableStreamConfigurations_inputOutput (garbage : Nat → Int) (e : Entry)
    (p : Parse) :
    (appendAvailableStreamConfigurations garbage e p).map.inputOutput = p.map.inputOutput := by
  unfold appendAvailableStreamConfigurations
  exact appendOutputConfigurations_inputOutput (fun _ _ _ => by rfl) _ _ _

@[simp] theorem appendAvailableJpegRStreamConfigurations_inputOutput (garbage : Nat → Int)
    (e : Entry) (p : Parse) :
    (appendAvailableJpegRStreamConfigurations garbage e p).map.inputOutput = p.map.inputOutput := by
  unfold appendAvailableJpegRStreamConfigurations
  exact appendOutputConfigurations_inputOutput (fun _ _ _ => by rfl) _ _ _

@[simp] theorem appendAvailableStreamMinDurations_inputOutput (garbage : Nat → Int) (e : Entry)
    (p : Parse) :
    (appendAvailableStreamMinDurations garbage e p).map.inputOutput = p.map.inputOutput := by
  unfold appendAvailableStreamMinDurations
  exact appendDurations_inputOutput (fun _ _ _ => by rfl) _ _ _

@[simp] theorem appendAvailableStreamStallDurations_inputOutput (garbage : Nat → Int) (e : Entry)
    (p : Parse) :
    (appendAvailableStreamStallDurations garbage e p).map.inputOutput = p.map.inputOutput := by
  unfold appendAvailableStreamStallDurations
  exact appendDurations_inputOutput (fun _ _ _ => by rfl) _ _ _

@[simp] theorem appendAvailableDynamicPhysicalStreamConfigurations_inputOutput
    (garbage : Nat → Int) (e : Entry) (p : Parse) :
    (appendAvailableDynamicPhysicalStreamConfigurations garbage e p).map.inputOutput =
      p.map.inputOutput := by
  unfold appendAvailableDynamicPhysicalStreamConfigurations
  exact foldl_inputOutput (fun _ _ => by rfl) _ _

@[simp] theorem whenPresent_some (f : Entry → Parse → Parse) (e : Entry) (p : Parse) :
    whenPresent f (some e) p = f e p := rfl

theorem whenPresent_inputOutput {f : Entry → Parse → Parse}
    (hf : ∀ e p, (f e p).map.inputOutput = p.map.inputOutput) :
    ∀ (o : Option Entry) (p : Parse), (whenPresent f o p).map.inputOutput = p.map.inputOutput
  | some e, p => hf e p
  | none, _ => rfl

/-! ### The reference parse -/

/-- The reference parse of an input-output formats map: the groups
`(input_format, n, out_1 .. out_n)`, `n ≥ 1`, of its longest prefix that splits into whole
groups. -/
def referenceGroups : List Int → List (Int × List Int)
  | inputFormat :: n :: rest =>
    if 0 < n ∧ n ≤ rest.length then
      (inputFormat, rest.take n.toNat) :: referenceGroups (rest.drop n.toNat)
    else []
  | _ => []
termination_by data => data.length

/-- The array a list of groups is written as. -/
def encodeGroups : List (Int × List Int) → List Int
  | [] => []
  | (a, outs) :: gs => a :: (outs.length : Int) :: (outs ++ encodeGroups gs)

/-- The reference groups are whole, and they are written at the start of the array. -/
theorem referenceGroups_prefix : ∀ data : List Int,
    (∀ g ∈ referenceGroups data, g.2 ≠ []) ∧ encodeGroups (referenceGroups data) <+: data
  | a :: n :: rest => by
    rw [referenceGroups]
    split
    next h =>
      obtain ⟨ih1, ih2⟩ := referenceGroups_prefix (rest.drop n.toNat)
      have hlen : (rest.take n.toNat).length = n.toNat := by rw [List.length_take]; omega
      refine ⟨?_, ?_⟩
      · rintro g (_ | ⟨_, hg⟩)
        · exact List.ne_nil_of_length_pos (show 0 < (rest.take n.toNat).length by omega)
        · exact ih1 g hg
      · rw [encodeGroups, hlen, show (n.toNat : Int) = n by omega, List.cons_prefix_cons,
          List.cons_prefix_cons]
        refine ⟨rfl, rfl, ?_⟩
        conv => rhs; rw [← List.take_append_drop n.toNat rest]
        exact (List.prefix_append_right_inj _).mpr ih2
    next => simp [encodeGroups]
  | [] => by simp [referenceGroups, encodeGroups]
  | [_] => by simp [referenceGroups, encodeGroups]
termination_by data => data.length

/-- Every prefix of the array that splits into whole groups gives a prefix of the reference
groups. -/
theorem prefix_referenceGroups : ∀ (gs : List (Int × List Int)) (data : List Int),
    (∀ g ∈ gs, g.2 ≠ []) → encodeGroups gs <+: data → gs <+: referenceGroups data
  | [], _, _, _ => List.nil_prefix
  | (a, outs) :: gs, data, hw, ⟨rest, hdata⟩ => by
    subst hdata
    have hlen : 0 < outs.length := List.length_pos.mpr (hw _ (.head _))
    simp only [encodeGroups, List.cons_append, List.append_assoc]
    rw [referenceGroups, if_pos ⟨by omega, by simp; omega⟩]
    simp only [Int.toNat_ofNat, List.take_left', List.drop_left', List.cons_prefix_cons, true_and]
    exact prefix_referenceGroups gs _ (fun g hg => hw g (.tail _ hg)) (List.prefix_append _ _)

/-! ### The loop against the reference -/

/-- `p` holds what `q` holds and the groups `gs`: each group's input format is an input format,
and maps to the group's output formats. -/
def AddsGroups (gs : List (Int × List Int)) (p q : Parse) : Prop :=
  (∀ a o, (a, o) ∈ q.map.streamInputOutputMap ↔
    (a, o) ∈ p.map.streamInputOutputMap ∨ ∃ g ∈ gs, g.1 = a ∧ o ∈ g.2) ∧
  (∀ a, a ∈ q.map.streamInputFormats ↔ a ∈ p.map.streamInputFormats ∨ ∃ g ∈ gs, g.1 = a)

theorem AddsGroups.of_inputOutput {p q : Parse} (h : q.map.inputOutput = p.map.inputOutput) :
    AddsGroups [] p q := by
  simp only [StreamConfigurationMap.inputOutput, Prod.mk.injEq] at h
  simp [AddsGroups, h]

theorem AddsGroups.trans {gs gs' : List (Int × List Int)} {p q r : Parse}
    (h1 : AddsGroups gs p q) (h2 : AddsGroups gs' q r) : AddsGroups (gs ++ gs') p r := by
  constructor
  · intro a o; rw [h2.1, h1.1]; simp only [List.mem_append, or_and_right, exists_or, or_assoc]
  · intro a; rw [h2.2, h1.2]; simp only [List.mem_append, or_and_right, exists_or, or_assoc]

theorem AddsGroups.single {x : Int} {outs : List Int} {p q : Parse}
    (h1 : ∀ a o, (a, o) ∈ q.map.streamInputOutputMap ↔
      (a, o) ∈ p.map.streamInputOutputMap ∨ a = x ∧ o ∈ outs)
    (h2 : ∀ a, a ∈ q.map.streamInputFormats ↔ a ∈ p.map.streamInputFormats ∨ a = x) :
    AddsGroups [(x, outs)] p q := by
  constructor
  · intro a o; rw [h1]; simp [eq_comm]
  · intro a; rw [h2]; simp [eq_comm]

theorem AddsGroups.congr_left {gs : List (Int × List Int)} {p p' q : Parse} (h : AddsGroups gs p q)
    (hp : p'.map.inputOutput = p.map.inputOutput) : AddsGroups gs p' q := by
  simp only [StreamConfigurationMap.inputOutput, Prod.mk.injEq] at hp
  simpa only [AddsGroups, hp.1, hp.2] using h

theorem AddsGroups.congr_right {gs : List (Int × List Int)} {p q q' : Parse} (h : AddsGroups gs p q)
    (hq : q'.map.inputOutput = q.map.inputOutput) : AddsGroups gs p q' := by
  simp only [StreamConfigurationMap.inputOutput, Prod.mk.injEq] at hq
  simpa only [AddsGroups, hq.1, hq.2] using h

theorem insertOutputFormats_spec (garbage : Nat → Int) (e : Entry) (x : Int) :
    ∀ (js : List Nat) (p : Parse),
      (∀ a o, (a, o) ∈ (insertOutputFormats garbage e x js p).map.streamInputOutputMap ↔
        (a, o) ∈ p.map.streamInputOutputMap ∨ a = x ∧ o ∈ js.map (e.read garbage .int32)) ∧
      (insertOutputFormats garbage e x js p).map.streamInputFormats = p.map.streamInputFormats
  | [], p => by simp [insertOutputFormats]
  | j :: js, p => by
    obtain ⟨ih1, ih2⟩ := insertOutputFormats_spec garbage e x js
      ((p.readAt e .int32 [j]).update fun m =>
        { m with streamInputOutputMap := m.streamInputOutputMap.insert (x, e.read garbage .int32 j) })
    refine ⟨fun a o => ?_, ih2⟩
    rw [insertOutputFormats, List.foldl_cons, ← insertOutputFormats, ih1]
    simp only [Parse.update_map, Parse.readAt_map, List.mem_insert_iff, Prod.mk.injEq, List.map_cons,
      List.mem_cons, and_or_left, or_assoc, or_left_comm]

theorem range'_map_read (garbage : Nat → Int) (data : List Int) :
    ∀ (n s : Nat), s + n ≤ data.length →
      (List.range' s n).map (Entry.read garbage ⟨.int32, data⟩ .int32) = (data.drop s).take n
  | 0, _, _ => by simp
  | n + 1, s, h => by
    rw [List.range'_succ, List.map_cons, range'_map_read garbage data n (s + 1) (by omega),
      List.drop_eq_getElem_cons (by omega : s < data.length), List.take_succ_cons,
      Entry.read_of_lt]

/-- The loop from index `i` adds the reference groups of `data.drop i`. -/
theorem parseInputOutputFormatsMap_spec (garbage : Nat → Int) (data : List Int) (i : Nat)
    (p : Parse) :
    AddsGroups (referenceGroups (data.drop i)) p
      (parseInputOutputFormatsMap garbage ⟨.int32, data⟩ i p) := by
  rw [parseInputOutputFormatsMap]
  simp only [Entry.count]
  split
  next hi =>
    rw [List.drop_eq_getElem_cons hi]
    by_cases hlast : i + 1 < data.length
    · rw [List.drop_eq_getElem_cons hlast, referenceGroups]
      simp only [Entry.read_of_lt garbage hi, Entry.read_of_lt garbage hlast, List.length_drop,
        Nat.add_assoc, Nat.reduceAdd]
      by_cases hc : 0 < data[i + 1] ∧ data[i + 1] ≤ ↑(data.length - (i + 2))
      · rw [if_pos hc, if_neg (show ¬(data[i + 1] ≤ 0 ∨
          (data.length : Int) < data[i + 1] + ((i + 2 : Nat) : Int)) by omega)]
        have hnext := parseInputOutputFormatsMap_spec garbage data ((data[i + 1]).toNat + (i + 2))
        have hdrop : (data.drop (i + 2)).drop (data[i + 1]).toNat =
            data.drop ((data[i + 1]).toNat + (i + 2)) := by
          rw [List.drop_drop]; congr 1; omega
        rw [hdrop]
        refine @AddsGroups.trans [_] _ _ _ _ (AddsGroups.single ?_ ?_) (hnext _)
        · intro a o
          simp only [Parse.update_map]
          rw [(insertOutputFormats_spec _ _ _ _ _).1, range'_map_read _ _ _ _ (by omega)]
          rfl
        · intro a
          simp [(insertOutputFormats_spec _ _ _ _ _).2, List.mem_insert_iff, or_comm]
      · rw [if_neg hc, if_pos (show data[i + 1] ≤ 0 ∨
          (data.length : Int) < data[i + 1] + ((i + 2 : Nat) : Int) by omega)]
        exact AddsGroups.of_inputOutput rfl
    · rw [List.drop_eq_nil_of_le (by omega), referenceGroups]
      · generalize Entry.read garbage _ .int32 (i + 1) = n
        rw [if_pos (by omega)]
        exact AddsGroups.of_inputOutput rfl
      · simp
  next hi =>
    rw [List.drop_eq_nil_of_le (by omega), referenceGroups]
    · exact AddsGroups.of_inputOutput rfl
    · simp
termination_by data.length - i

/-- No read leaves its entry in the characteristics below, so what lies past an entry is
never used. -/
def noGarbage : Nat → Int := fun _ => 0

/-- For every `int32` array given as the input-output formats map of the mode, the constructor
leaves the input-output map and the input formats of the reference parse. -/
theorem inputOutputFormatsMap_eq_reference (garbage : Nat → Int) (chars : Metadata)
    (maxResolution : Bool) (data : List Int)
    (h : chars.get (if maxResolution then kScalerInputOutputFormatsMapMaxRes
      else kScalerInputOutputFormatsMap) = some ⟨.int32, data⟩) :
    (∀ a o, (a, o) ∈ (streamConfigurationMap garbage chars maxResolution).map.streamInputOutputMap ↔
      ∃ g ∈ referenceGroups data, g.1 = a ∧ o ∈ g.2) ∧
    (∀ a, a ∈ (streamConfigurationMap garbage chars maxResolution).map.streamInputFormats ↔
      ∃ g ∈ referenceGroups data, g.1 = a) := by
  have hadds : AddsGroups (referenceGroups data) ⟨.empty, []⟩
      (streamConfigurationMap garbage chars maxResolution) := by
    simp only [streamConfigurationMap, h, whenPresent_some]
    refine .congr_right (.congr_right ?_ (whenPresent_inputOutput (by simp) _ _))
      (whenPresent_inputOutput (by simp) _ _)
    exact .congr_left (parseInputOutputFormatsMap_spec garbage data 0 _)
      (by simp [whenPresent_inputOutput])
  exact ⟨fun a o => by simpa [StreamConfigurationMap.empty] using hadds.1 a o,
    fun a => by simpa [StreamConfigurationMap.empty] using hadds.2 a⟩

/-- An input-output map: `IMPLEMENTATION_DEFINED` (34) reprocesses to `YCBCR_420_888` (35) and
`BLOB` (33). -/
def privateReprocessMap : Metadata :=
  Metadata.empty.set .scalerAvailableInputOutputFormatsMap ⟨.int32, [34, 2, 35, 33]⟩

theorem inputOutputFormatsMap_eq_reference_privateReprocess :
    privateReprocessMap.get (if false then kScalerInputOutputFormatsMapMaxRes
      else kScalerInputOutputFormatsMap) = some ⟨.int32, [34, 2, 35, 33]⟩ ∧
    (∀ a o, (a, o) ∈
        (streamConfigurationMap noGarbage privateReprocessMap false).map.streamInputOutputMap ↔
      ∃ g ∈ referenceGroups [34, 2, 35, 33], g.1 = a ∧ o ∈ g.2) ∧
    (∀ a, a ∈ (streamConfigurationMap noGarbage privateReprocessMap false).map.streamInputFormats ↔
      ∃ g ∈ referenceGroups [34, 2, 35, 33], g.1 = a) :=
  ⟨rfl, inputOutputFormatsMap_eq_reference noGarbage privateReprocessMap false _ rfl⟩

/-! ### Which tags each mode reads -/

/-- The default-mode tags: the non-`_MAXIMUM_RESOLUTION` variant of each family. -/
def defaultModeTags : List Tag :=
  [.scalerAvailableStreamConfigurations, .depthAvailableDepthStreamConfigurations,
   .depthAvailableDynamicDepthStreamConfigurations, .scalerAvailableMinFrameDurations,
   .depthAvailableDepthMinFrameDurations, .scalerAvailableStallDurations,
   .depthAvailableDepthStallDurations, .scalerAvailableInputOutputFormatsMap]

/-- The `_MAXIMUM_RESOLUTION` variants of the default-mode tags. -/
def maxResolutionTags : List Tag :=
  [.scalerAvailableStreamConfigurationsMaximumResolution,
   .depthAvailableDepthStreamConfigurationsMaximumResolution,
   .depthAvailableDynamicDepthStreamConfigurationsMaximumResolution,
   .scalerAvailableMinFrameDurationsMaximumResolution,
   .depthAvailableDepthMinFrameDurationsMaximumResolution,
   .scalerAvailableStallDurationsMaximumResolution,
   .depthAvailableDepthStallDurationsMaximumResolution,
   .scalerAvailableInputOutputFormatsMapMaximumResolution]

/-- The tags both modes read. -/
def modeIndependentTags : List Tag :=
  [.scalerPhysicalCameraMultiResolutionStreamConfigurations,
   .jpegrAvailableJpegRStreamConfigurations]

/-- One dynamic-depth configuration: a `BLOB` output at 640 × 480. -/
def dynamicDepthConfig : Entry := ⟨.int32, [33, 640, 480, 0]⟩

/-- The configuration as a `_MAXIMUM_RESOLUTION` dynamic-depth entry. -/
def maxResDynamicDepth : Metadata :=
  Metadata.empty.set .depthAvailableDynamicDepthStreamConfigurationsMaximumResolution
    dynamicDepthConfig

/-- The configuration as a default dynamic-depth entry. -/
def defaultDynamicDepth : Metadata :=
  Metadata.empty.set .depthAvailableDynamicDepthStreamConfigurations dynamicDepthConfig

/-- `maxResDynamicDepth` agrees with the empty characteristics on every default-mode and
mode-independent tag, yet its default map lists the `BLOB` output; symmetrically for
`defaultDynamicDepth` and the maximum-resolution map. -/
theorem dynamic_depth_mode_swapped :
    (∀ t ∈ defaultModeTags ++ modeIndependentTags, maxResDynamicDepth.get t = Metadata.empty.get t) ∧
    (streamConfigurationMap noGarbage maxResDynamicDepth false).map.streamOutputFormats = [33] ∧
    (streamConfigurationMap noGarbage .empty false).map.streamOutputFormats = [] ∧
    (∀ t ∈ maxResolutionTags ++ modeIndependentTags,
      defaultDynamicDepth.get t = Metadata.empty.get t) ∧
    (streamConfigurationMap noGarbage defaultDynamicDepth true).map.streamOutputFormats = [33] ∧
    (streamConfigurationMap noGarbage .empty true).map.streamOutputFormats = [] := by
  decide

/-! ### Reads outside an entry -/

/-- Characteristics with one maximum-resolution stream configuration: a `RAW16` output at
8000 × 6000. -/
def maxResRaw : Metadata :=
  Metadata.empty.set .scalerAvailableStreamConfigurationsMaximumResolution
    ⟨.int32, [32, 8000, 6000, 0]⟩

/-- In maximum-resolution mode, the stall loop reads the `int32` stream configurations of
`maxResRaw` through `data.i64`. -/
theorem stall_read_outside_entry :
    ∃ r ∈ (streamConfigurationMap noGarbage maxResRaw true).reads,
      r.type = .int64 ∧ r.entry.type = .int32 ∧ ¬ r.InBounds := by
  decide

end GoogleCamera.Emulated
