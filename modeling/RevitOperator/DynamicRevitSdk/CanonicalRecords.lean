import RevitOperator.DynamicRevitSdk.MepResultReferenceOperations
import RevitOperator.DynamicRevitSdk.NodeIdentity

open checked

/-! Canonical texts are read back as the values they were written from. -/

namespace revit_operator.dynamic_revit_sdk

open DynamicCanonical DoubleBits

/-- What is relied on of the runtime's doubles: a formatted number is a plain text
    that is parsed as the number, and the length of a segment does not tell the two
    zeros apart. -/
structure DoubleRuntime.Inverts (runtime : DoubleRuntime) : Prop where
  formatted : ∀ value : DoubleBits, value.Finite → ∃ text, Format runtime value = .ok text
    ∧ runtime.TryParse text = some value.unsigned ∧ ',' ∉ text.toList ∧ text ≠ "none"
  length : ∀ start stop : DynamicPointV1, runtime.Length start.unsigned stop.unsigned = runtime.Length start stop

variable {runtime : DoubleRuntime}

section numbers

variable {value : DoubleBits} {text field : String}

theorem unsigned_of_magnitude_ne (h : value.magnitude ≠ 0) : value.unsigned = value :=
  if_neg h

theorem finite_of_magnitude_eq_zero (h : value.magnitude = 0) : value.Finite := by
  rw [DoubleBits.Finite, h]
  decide

theorem finite_unsigned (h : value.Finite) : value.unsigned.Finite := by
  by_cases hzero : value.magnitude = 0
  · rw [unsigned, if_pos hzero]
    decide
  · rwa [unsigned_of_magnitude_ne hzero]

theorem magnitude_unsigned (value : DoubleBits) : value.unsigned.magnitude = value.magnitude := by
  by_cases hzero : value.magnitude = 0
  · rw [unsigned, if_pos hzero, hzero]
    decide
  · rw [unsigned_of_magnitude_ne hzero]

theorem format_unsigned (value : DoubleBits) : Format runtime value.unsigned = Format runtime value := by
  by_cases hzero : value.magnitude = 0
  · have hfinite := finite_of_magnitude_eq_zero hzero
    rw [Format, Format, if_neg (not_not.2 (finite_unsigned hfinite)), if_neg (not_not.2 hfinite), if_pos hzero,
      magnitude_unsigned, if_pos hzero]
  · rw [unsigned_of_magnitude_ne hzero]

theorem finite_of_format (h : Format runtime value = .ok text) : value.Finite := by
  by_contra hinfinite
  rw [Format, if_pos hinfinite] at h
  cases h

theorem parseExact_format (hruntime : runtime.Inverts) (h : Format runtime value = .ok text) (field : String) :
    ParseExact runtime text field = .ok value.unsigned := by
  have hfinite := finite_of_format h
  obtain ⟨written, hwritten, hparsed, _⟩ := hruntime.formatted value hfinite
  obtain rfl := Except.ok.inj (h.symm.trans hwritten)
  rw [ParseExact, hparsed]
  simp only
  rw [require_of ⟨finite_unsigned hfinite, toOption_eq_some.2 (by rw [format_unsigned, h])⟩]
  rfl

theorem format_plain (hruntime : runtime.Inverts) (h : Format runtime value = .ok text) :
    ',' ∉ text.toList ∧ text ≠ "none" := by
  obtain ⟨written, hwritten, _, hplain⟩ := hruntime.formatted value (finite_of_format h)
  obtain rfl := Except.ok.inj (h.symm.trans hwritten)
  exact hplain

end numbers

section decoding

variable {label : String}

theorem toList_joinAll_cons (field : String) (fields : List String) :
    (JoinAll (field :: fields)).toList
      = '+' :: (base64.encode (utf8.encode field.toList) ++ '\n' :: (JoinAll fields).toList) := by
  simp only [JoinAll, Join, JoinLines, String.toList_ofList, List.map_cons]
  rw [lines.terminated_cons]
  rfl

theorem decodeFields_cons (field later : List Char) (hfield : '\n' ∉ field) :
    decodeFields label ('+' :: (field ++ '\n' :: later)) =
      match base64.decode field with
      | none => .error (.argument (label ++ " canonical field encoding is invalid."))
      | some bytes => do
        let fields ← decodeFields label later
        return .ofList (utf8.decode bytes) :: fields := by
  have hkept : ∀ c ∈ field, (c != '\n') = true := fun c hc => bne_iff_ne.2 fun hline => hfield (hline ▸ hc)
  have htake : (field ++ '\n' :: later).takeWhile (· != '\n') = field := by
    rw [List.takeWhile_append_of_pos hkept]
    simp
  have hdrop : (field ++ '\n' :: later).dropWhile (· != '\n') = '\n' :: later := by
    rw [List.dropWhile_append_of_pos hkept]
    simp
  rw [decodeFields, require_of rfl, ok_bind]
  split
  · rename_i hend
    rw [hdrop] at hend
    cases hend
  · rename_i hend
    rw [hdrop] at hend
    obtain ⟨_, rfl⟩ := List.cons.inj hend
    rewrite [htake]
    rfl

theorem decodeFields_joinAll (fields : List String) :
    decodeFields label (JoinAll fields).toList = .ok fields := by
  induction fields with
  | nil => rw [show (JoinAll []).toList = [] from rfl, decodeFields]
  | cons field fields ih =>
    rw [toList_joinAll_cons, decodeFields_cons _ _ (base64.newline_not_mem_encode _), base64.decode_encode]
    simp only [ih, ok_bind, utf8.decode_encode, String.ofList_toList]
    rfl

theorem decode_joinAll {fields : List String} (hfields : fields ≠ []) {count : Nat} (hcount : fields.length = count) :
    Decode (JoinAll fields) count label = .ok fields := by
  obtain ⟨field, rest, rfl⟩ := List.exists_cons_of_ne_nil hfields
  have hne : JoinAll (field :: rest) ≠ "" := by
    intro hempty
    have hchars := toList_joinAll_cons field rest
    rw [hempty] at hchars
    cases hchars
  rw [Decode, require_of hne, ok_bind, decodeFields_joinAll, ok_bind, require_of hcount]
  rfl

variable {α : Type} {count : Nat} {version versionFault exactFault : String}
  {build : List String → Except SdkException α} {validate : α → Except SdkException Unit}
  {canonical : α → Except SdkException String} {result : α}

theorem canonical_of_parseCanonical {value : String}
    (h : parseCanonical count label version versionFault exactFault build validate canonical value = .ok result) :
    canonical result = .ok value := by
  simp only [parseCanonical, bind_eq_ok, require_eq_ok, pure_eq_ok] at h
  obtain ⟨_, _, _, _, built, _, _, _, again, hagain, _, rfl, rfl⟩ := h
  exact hagain

/-- A record of the version and of fields that the value is built from is read as
    that value. -/
theorem parseCanonical_joinAll {fields : List String} (hcount : (version :: fields).length = count)
    (hbuild : build fields = .ok result) (hvalid : validate result = .ok ())
    (hcanonical : canonical result = .ok (JoinAll (version :: fields))) :
    parseCanonical count label version versionFault exactFault build validate canonical
      (JoinAll (version :: fields)) = .ok result := by
  rw [parseCanonical, decode_joinAll (List.cons_ne_nil _ _) hcount, ok_bind, require_of (List.head?_cons),
    ok_bind, List.tail_cons, hbuild, ok_bind, hvalid, ok_bind, hcanonical, ok_bind, require_of rfl]
  rfl

end decoding

section points

variable {point : DynamicPointV1} {text : String}

theorem point_eq_ok : Point runtime point = .ok text ↔ ∃ x y z, Format runtime point.X = .ok x
    ∧ Format runtime point.Y = .ok y ∧ Format runtime point.Z = .ok z ∧ x ++ "," ++ y ++ "," ++ z = text := by
  simp only [Point, bind_eq_ok, pure_eq_ok]
  constructor
  · rintro ⟨x, hx, y, hy, z, hz, htext⟩
    exact ⟨x, y, z, hx, hy, hz, htext⟩
  · rintro ⟨x, y, z, hx, hy, hz, htext⟩
    exact ⟨x, hx, y, hy, z, hz, htext⟩

theorem point_unsigned (point : DynamicPointV1) : Point runtime point.unsigned = Point runtime point := by
  simp only [Point, DynamicPointV1.unsigned, format_unsigned]

theorem parsePoint_point (hruntime : runtime.Inverts) (h : Point runtime point = .ok text) :
    ParsePoint runtime text = .ok point.unsigned := by
  obtain ⟨x, y, z, hx, hy, hz, rfl⟩ := point_eq_ok.1 h
  have hsplit : (x ++ "," ++ y ++ "," ++ z).toList.splitOn ',' = [x.toList, y.toList, z.toList] := by
    have hparts : ∀ part ∈ [x.toList, y.toList, z.toList], ',' ∉ part := by
      intro part hpart
      simp only [List.mem_cons, List.not_mem_nil, or_false] at hpart
      obtain rfl | rfl | rfl := hpart
      · exact (format_plain hruntime hx).1
      · exact (format_plain hruntime hy).1
      · exact (format_plain hruntime hz).1
    have hjoined : (x ++ "," ++ y ++ "," ++ z).toList = [','].intercalate [x.toList, y.toList, z.toList] := by
      simp [List.intercalate]
    rw [hjoined, List.splitOn_intercalate ',' hparts (List.cons_ne_nil _ _)]
  rw [ParsePoint, hsplit]
  simp only [String.ofList_toList, parseExact_format hruntime hx, parseExact_format hruntime hy,
    parseExact_format hruntime hz, ok_bind]
  rfl

theorem validatePoint_unsigned (h : ValidatePoint point = .ok ()) : ValidatePoint point.unsigned = .ok () := by
  rw [ValidatePoint, require_eq_ok] at h ⊢
  simp only [List.forall_mem_cons, List.not_mem_nil, false_implies, implies_true, and_true] at h ⊢
  simp only [DynamicPointV1.unsigned, magnitude_unsigned]
  exact ⟨⟨finite_unsigned h.1.1, h.1.2⟩, ⟨finite_unsigned h.2.1.1, h.2.1.2⟩, finite_unsigned h.2.2.1, h.2.2.2⟩

theorem exists_point (hruntime : runtime.Inverts) (h : ValidatePoint point = .ok ()) :
    ∃ text, Point runtime point = .ok text := by
  rw [ValidatePoint, require_eq_ok] at h
  simp only [List.forall_mem_cons, List.not_mem_nil, false_implies, implies_true, and_true] at h
  obtain ⟨x, hx, _⟩ := hruntime.formatted point.X h.1.1
  obtain ⟨y, hy, _⟩ := hruntime.formatted point.Y h.2.1.1
  obtain ⟨z, hz, _⟩ := hruntime.formatted point.Z h.2.2.1
  exact ⟨_, point_eq_ok.2 ⟨x, y, z, hx, hy, hz, rfl⟩⟩

end points

section values

variable {text : String}

namespace DynamicMepCurveSizeV1

variable {size : DynamicMepCurveSizeV1}

theorem dimension_unsigned {value : DoubleBits} {name : String} (h : RequireDimension (some value) name = .ok ()) :
    value.Finite ∧ value.unsigned = value := by
  rw [RequireDimension, require_eq_ok] at h
  obtain ⟨given, hgiven, hfinite, hsmallest, _⟩ := h
  obtain rfl := Option.some.inj hgiven
  refine ⟨hfinite, unsigned_of_magnitude_ne fun hzero => hsmallest ⟨?_, by decide, ?_⟩⟩
  · exact fun hnan => hfinite hnan.1
  · have hplace : value.signedMagnitude = 0 := by simp [signedMagnitude, hzero]
    rw [hplace]
    decide

theorem parse_number (hruntime : runtime.Inverts) {value : Option DoubleBits}
    (hvalue : ∀ given, value = some given → given.Finite ∧ given.unsigned = given) :
    ∃ text, Number runtime value = .ok text ∧ Parse runtime text = .ok value := by
  cases value with
  | none => exact ⟨"none", rfl, if_pos rfl⟩
  | some given =>
    obtain ⟨hfinite, hsigned⟩ := hvalue given rfl
    obtain ⟨text, htext, _, _, hnone⟩ := hruntime.formatted given hfinite
    refine ⟨text, htext, ?_⟩
    rw [Parse, if_neg hnone, parseExact_format hruntime htext, hsigned]
    rfl

theorem dimensions_of_validate (h : size.Validate = .ok ()) :
    ∀ value ∈ [size.DiameterFeet, size.HeightFeet, size.WidthFeet], ∀ given, value = some given →
      given.Finite ∧ given.unsigned = given := by
  intro value hvalue given hgiven
  simp only [List.mem_cons, List.not_mem_nil, or_false] at hvalue
  rw [Validate] at h
  by_cases hround : size.Shape = "Round"
  · rw [if_pos hround, check_bind_eq_ok, require_eq_ok] at h
    obtain ⟨hdiameter, hheight, hwidth⟩ := h
    obtain rfl | rfl | rfl := hvalue
    · exact dimension_unsigned (hgiven ▸ hdiameter)
    · exact absurd (hheight.symm.trans hgiven) (by simp)
    · exact absurd (hwidth.symm.trans hgiven) (by simp)
  · simp only [if_neg hround, check_bind_eq_ok, require_eq_ok] at h
    obtain ⟨_, hheight, hwidth, hdiameter⟩ := h
    obtain rfl | rfl | rfl := hvalue
    · exact absurd (hdiameter.symm.trans hgiven) (by simp)
    · exact dimension_unsigned (hgiven ▸ hheight)
    · exact dimension_unsigned (hgiven ▸ hwidth)

theorem parseCanonical_canonical (hruntime : runtime.Inverts) (h : size.Validate = .ok ()) :
    ∃ text, size.Canonical runtime = .ok text ∧ ParseCanonical runtime text = .ok size := by
  have hdimensions := dimensions_of_validate h
  obtain ⟨diameter, hdiameter, hparsed⟩ := parse_number hruntime (hdimensions size.DiameterFeet (by simp))
  obtain ⟨height, hheight, hparsedHeight⟩ := parse_number hruntime (hdimensions size.HeightFeet (by simp))
  obtain ⟨width, hwidth, hparsedWidth⟩ := parse_number hruntime (hdimensions size.WidthFeet (by simp))
  have hcanonical : size.Canonical runtime
      = .ok (JoinAll ["mep-curve-size/v1", size.Shape, diameter, height, width]) := by
    rw [Canonical, h, ok_bind, hdiameter, ok_bind, hheight, ok_bind, hwidth]
    rfl
  refine ⟨_, hcanonical, parseCanonical_joinAll rfl ?_ h hcanonical⟩
  rw [ofParts, hparsed, ok_bind, hparsedHeight, ok_bind, hparsedWidth]
  rfl

end DynamicMepCurveSizeV1

namespace DynamicMepCurveSpecV1

variable {curve : DynamicMepCurveSpecV1}

theorem validate_unsigned (hruntime : runtime.Inverts) (h : curve.Validate runtime = .ok ()) :
    curve.unsigned.Validate runtime = .ok () := by
  simp only [Validate, check_bind_eq_ok, require_eq_ok] at h ⊢
  obtain ⟨hkind, hstart, hend, hlength⟩ := h
  refine ⟨hkind, validatePoint_unsigned hstart, validatePoint_unsigned hend, ?_⟩
  rwa [unsigned, hruntime.length]

theorem parseCanonical_canonical (hruntime : runtime.Inverts) (h : curve.Validate runtime = .ok ()) :
    ∃ text, curve.Canonical runtime = .ok text ∧ ParseCanonical runtime text = .ok curve.unsigned := by
  have hpoints := h
  simp only [Validate, check_bind_eq_ok, require_eq_ok] at hpoints
  obtain ⟨start, hstart⟩ := exists_point hruntime hpoints.2.1
  obtain ⟨stop, hstop⟩ := exists_point hruntime hpoints.2.2.1
  have hvalid := validate_unsigned hruntime h
  refine ⟨JoinAll ["mep-curve-spec/v1", curve.CurveKind, start, stop, curve.LevelUniqueId], ?_,
    parseCanonical_joinAll rfl ?_ hvalid ?_⟩
  · rw [Canonical, h, ok_bind, hstart, ok_bind, hstop]
    rfl
  · rw [ofParts, parsePoint_point hruntime hstart, ok_bind, parsePoint_point hruntime hstop]
    rfl
  · rw [Canonical, hvalid, ok_bind]
    simp only [unsigned, point_unsigned, hstart, hstop, ok_bind]
    rfl

end DynamicMepCurveSpecV1

namespace DynamicMepConnectorSelectorV1

variable {selector : DynamicMepConnectorSelectorV1}

theorem validate_unsigned : selector.unsigned.Validate runtime = selector.Validate runtime := by
  have hpoint : Point runtime selector.unsigned.ExpectedOriginFeet = Point runtime selector.ExpectedOriginFeet :=
    point_unsigned _
  rw [Validate, hpoint]
  rfl

theorem parseCanonical_canonical (hruntime : runtime.Inverts) (h : selector.Validate runtime = .ok ()) :
    ∃ text, selector.Canonical runtime = .ok text ∧ ParseCanonical runtime text = .ok selector.unsigned := by
  have hpoint := h
  simp only [Validate, bind_eq_ok] at hpoint
  obtain ⟨_, _, origin, horigin, _⟩ := hpoint
  have hvalid : selector.unsigned.Validate runtime = .ok () := validate_unsigned.trans h
  refine ⟨JoinAll ["mep-connector-selector/v1", selector.SourceIdentityHash, selector.NativeConnectorId, origin,
    selector.ExpectedDomain, selector.ExpectedShape], ?_, parseCanonical_joinAll rfl ?_ hvalid ?_⟩
  · rw [Canonical, h, ok_bind, horigin]
    rfl
  · rw [ofParts, parsePoint_point hruntime horigin]
    rfl
  · rw [Canonical, hvalid, ok_bind]
    simp only [unsigned, point_unsigned, horigin, ok_bind]
    rfl

end DynamicMepConnectorSelectorV1

end values

section samples

/-- The double 1. -/
def oneFoot : DoubleBits := 0x3ff0000000000000#64

/-- A runtime that writes 1 as such and other numbers by their bits. -/
def plainRuntime : DoubleRuntime where
  ToG17 value := if value = oneFoot then "1" else toString (value.toNat + 2)
  TryParse text := some (if text = "1" then oneFoot else .ofNat 64 (Nat.ofDigitChars 10 text.toList 0 - 2))
  Length _ _ := oneFoot

theorem plainRuntime_inverts : plainRuntime.Inverts where
  formatted value hfinite := by
    by_cases hzero : value.magnitude = 0
    · refine ⟨"0", ?_, ?_, by decide, by decide⟩
      · rw [Format, if_neg (not_not.2 hfinite), if_pos hzero]
      · rw [unsigned, if_pos hzero]
        decide
    · rw [unsigned_of_magnitude_ne hzero]
      by_cases hone : value = oneFoot
      · subst hone
        exact ⟨"1", by decide, by decide, by decide, by decide⟩
      · have htext : plainRuntime.ToG17 value = toString (value.toNat + 2) := if_neg hone
        have hdigits : (toString (value.toNat + 2)).toList = Nat.toDigits 10 (value.toNat + 2) := String.toList_ofList
        have hdigit : ∀ c ∈ (toString (value.toNat + 2)).toList, c.isDigit = true := fun c hc =>
          Nat.isDigit_of_mem_toDigits (by decide) (by decide) (hdigits ▸ hc)
        have hread : Nat.ofDigitChars 10 (toString (value.toNat + 2)).toList 0 = value.toNat + 2 := by
          rw [hdigits, Nat.ofDigitChars_ten_toDigits]
        refine ⟨toString (value.toNat + 2), ?_, ?_, fun hcomma => ?_, fun hnone => ?_⟩
        · have hplain : ∀ c ∈ (toString (value.toNat + 2)).toList, (c != 'E' && c != 'e') = true := by
            intro c hc
            have hc := hdigit c hc
            by_contra hexponent
            simp only [Bool.not_eq_true, Bool.and_eq_false_iff, bne_eq_false_iff_eq] at hexponent
            obtain rfl | rfl := hexponent
            · exact absurd hc (by decide)
            · exact absurd hc (by decide)
          rw [Format, if_neg (not_not.2 hfinite), if_neg hzero, htext, List.dropWhile_eq_nil_iff.2 hplain]
        · have hne : toString (value.toNat + 2) ≠ "1" := by
            intro hsame
            rw [hsame] at hread
            have hone : Nat.ofDigitChars 10 "1".toList 0 = 1 := by decide
            omega
          simp only [plainRuntime, if_neg hne, hread, Nat.add_sub_cancel, BitVec.ofNat_toNat, BitVec.setWidth_eq]
        · exact absurd (hdigit ',' hcomma) (by decide)
        · have hletter : 'n' ∈ (toString (value.toNat + 2)).toList := by
            rw [hnone]
            decide
          exact absurd (hdigit 'n' hletter) (by decide)
  length _ _ := rfl

/-- A pipe of one foot; one of its components is the negative zero. -/
def samplePipe : DynamicMepCurveSpecV1 where
  CurveKind := "pipe"
  StartFeet := ⟨0, 0, signMask⟩
  EndFeet := ⟨oneFoot, 0, 0⟩
  LevelUniqueId := "level-1"

theorem samplePipe_valid : samplePipe.Validate plainRuntime = .ok () := by
  have hzero : (0 : DoubleBits).Finite ∧ ¬ Less pointLimit (magnitude 0) := by decide
  have hnegative : signMask.Finite ∧ ¬ Less pointLimit signMask.magnitude := by decide
  have hone : oneFoot.Finite ∧ ¬ Less pointLimit oneFoot.magnitude := by decide
  simp only [DynamicMepCurveSpecV1.Validate, check_bind_eq_ok, require_eq_ok, ValidatePoint, List.forall_mem_cons,
    List.not_mem_nil, false_implies, implies_true, and_true]
  exact ⟨⟨.inl rfl, by decide, by decide, by decide⟩, ⟨hzero, hzero, hnegative⟩, ⟨hone, hzero, hzero⟩, by decide⟩

end samples

end revit_operator.dynamic_revit_sdk
