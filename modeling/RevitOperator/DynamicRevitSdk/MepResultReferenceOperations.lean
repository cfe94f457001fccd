import RevitOperator.DynamicRevitSdk.DynamicCanonical
import RevitOperator.DynamicRevitSdk.TransportDouble

open checked

/-! The values of the MEP operations and their canonical texts. -/

namespace revit_operator.dynamic_revit_sdk

open DynamicCanonical

namespace DoubleBits

def IsNaN (bits : DoubleBits) : Prop :=
  bits.magnitude &&& exponentMask = exponentMask ∧ bits.magnitude ≠ exponentMask

instance (bits : DoubleBits) : Decidable bits.IsNaN := inferInstanceAs (Decidable (_ ∧ _))

/-- `left < right` -/
def Less (left right : DoubleBits) : Prop :=
  ¬ IsNaN left ∧ ¬ IsNaN right ∧ left.signedMagnitude < right.signedMagnitude

instance (left right : DoubleBits) : Decidable (Less left right) := inferInstanceAs (Decidable (_ ∧ _))

/-- The value with negative zero read as zero. -/
def unsigned (bits : DoubleBits) : DoubleBits := if bits.magnitude = 0 then 0 else bits

end DoubleBits

open DoubleBits

structure DynamicPointV1 where
  X : DoubleBits
  Y : DoubleBits
  Z : DoubleBits
  deriving DecidableEq

/-- The runtime's doubles: their G17 texts, their parser, and the length of a
    segment in their arithmetic. -/
structure DoubleRuntime where
  ToG17 : DoubleBits → String
  TryParse : String → Option DoubleBits
  Length : DynamicPointV1 → DynamicPointV1 → DoubleBits

variable (runtime : DoubleRuntime)

section numbers

/-- `int.Parse` of the digits after the sign. -/
def parseDigits (digits : List Char) : Option Int :=
  if digits ≠ [] ∧ digits.all text.isDigit = true then
    some (digits.foldl (fun (total : Int) c => 10 * total + (c.toNat - '0'.toNat : Nat)) 0)
  else none

/-- `int.Parse(exponent, NumberStyles.Integer, CultureInfo.InvariantCulture)` of an
    exponent without white space. -/
def parseInteger : List Char → Option Int
  | '-' :: digits => (parseDigits digits).map fun value => - value
  | '+' :: digits => parseDigits digits
  | digits => parseDigits digits

/-- `DynamicCoreOperationCanonicalNumberV1.Format` -/
def Format (value : DoubleBits) : Except SdkException String :=
  if ¬ value.Finite then .error (.argument "A canonical core-operation number must be finite.")
  else if value.magnitude = 0 then .ok "0"
  else
    let mantissa := (runtime.ToG17 value).toList.takeWhile fun c => c != 'E' && c != 'e'
    match (runtime.ToG17 value).toList.dropWhile fun c => c != 'E' && c != 'e' with
    | [] => .ok (runtime.ToG17 value)
    | _ :: exponent =>
      match parseInteger exponent with
      | none => .error (.argument "FormatException")
      | some exponent => .ok (.ofList mantissa ++ "e" ++ toString exponent)

/-- `DynamicCoreOperationCanonicalNumberV1.ParseExact` -/
def ParseExact (value field : String) : Except SdkException DoubleBits :=
  match runtime.TryParse value with
  | none => .error (.argument ("Core-operation " ++ field ++ " is not a canonical finite number."))
  | some parsed => do
    require (parsed.Finite ∧ (Format runtime parsed).toOption = some value)
      (.argument ("Core-operation " ++ field ++ " is not a canonical finite number."))
    return parsed

end numbers

section decoding

def decodeFields (label : String) : List Char → Except SdkException (List String)
  | [] => .ok []
  | marker :: rest => do
    require (marker = '+') (.argument (label ++ " canonical marker is invalid."))
    match _hend : rest.dropWhile (· != '\n') with
    | [] => .error (.argument (label ++ " canonical record is truncated."))
    | _ :: later =>
      match base64.decode (rest.takeWhile (· != '\n')) with
      | none => .error (.argument (label ++ " canonical field encoding is invalid."))
      | some bytes => do
        let fields ← decodeFields label later
        return .ofList (utf8.decode bytes) :: fields
termination_by chars => chars.length
decreasing_by
  have hle := (List.dropWhile_suffix (l := rest) (· != '\n')).length_le
  rw [_hend] at hle
  simp only [List.length_cons] at hle ⊢
  omega

/-- `DynamicMepCurveSpecV1.Decode` -/
def Decode (value : String) (count : Nat) (label : String) : Except SdkException (List String) := do
  require (value ≠ "") (.argument (label ++ " canonical bytes are empty."))
  let fields ← decodeFields label value.toList
  require (fields.length = count) (.argument (label ++ " canonical field count is invalid."))
  return fields

/-- The three readers of canonical texts: decode the fields, build the value from
    those after the version, validate it, and compare its canonical text. -/
def parseCanonical {α : Type} (count : Nat) (label version versionFault exactFault : String)
    (build : List String → Except SdkException α) (validate : α → Except SdkException Unit)
    (canonical : α → Except SdkException String) (value : String) : Except SdkException α := do
  let parts ← Decode value count label
  require (parts.head? = some version) (.argument versionFault)
  let result ← build parts.tail
  validate result
  let again ← canonical result
  require (again = value) (.argument exactFault)
  return result

end decoding

section points

/-- `DynamicMepCurveSpecV1.Point` -/
def Point (value : DynamicPointV1) : Except SdkException String := do
  let x ← Format runtime value.X
  let y ← Format runtime value.Y
  let z ← Format runtime value.Z
  return x ++ "," ++ y ++ "," ++ z

def ParsePoint (value : String) : Except SdkException DynamicPointV1 :=
  match value.toList.splitOn ',' with
  | [x, y, z] => do
    let x ← ParseExact runtime (.ofList x) "point"
    let y ← ParseExact runtime (.ofList y) "point"
    let z ← ParseExact runtime (.ofList z) "point"
    return ⟨x, y, z⟩
  | _ => .error (.argument "MEP point is invalid.")

/-- 1_000_000 -/
def pointLimit : DoubleBits := 0x412e848000000000#64

def ValidatePoint (value : DynamicPointV1) : Except SdkException Unit :=
  require (∀ component ∈ [value.X, value.Y, value.Z], component.Finite ∧ ¬ Less pointLimit component.magnitude)
    (.argument "MEP curve point is invalid.")

def DynamicPointV1.unsigned (value : DynamicPointV1) : DynamicPointV1 :=
  ⟨value.X.unsigned, value.Y.unsigned, value.Z.unsigned⟩

end points

section size

structure DynamicMepCurveSizeV1 where
  Shape : String
  DiameterFeet : Option DoubleBits
  HeightFeet : Option DoubleBits
  WidthFeet : Option DoubleBits
  deriving DecidableEq

namespace DynamicMepCurveSizeV1

/-- 1 / 384 -/
def smallest : DoubleBits := 0x3f65555555555555#64

/-- 1_000 -/
def largest : DoubleBits := 0x408f400000000000#64

def RequireDimension (value : Option DoubleBits) (name : String) : Except SdkException Unit :=
  require (∃ given, value = some given ∧ given.Finite ∧ ¬ Less given smallest ∧ ¬ Less largest given)
    (.argument ("MEP curve " ++ name ++ " is outside the bounded internal-unit range."))

def Validate (size : DynamicMepCurveSizeV1) : Except SdkException Unit :=
  if size.Shape = "Round" then do
    RequireDimension size.DiameterFeet "diameter"
    require (size.HeightFeet = none ∧ size.WidthFeet = none) (.argument "Round MEP size may specify only diameter.")
  else do
    require (size.Shape = "Rectangular" ∨ size.Shape = "Oval") (.argument "MEP curve size shape is invalid.")
    RequireDimension size.HeightFeet "height"
    RequireDimension size.WidthFeet "width"
    require (size.DiameterFeet = none) (.argument "Non-round MEP size may not specify diameter.")

def Number : Option DoubleBits → Except SdkException String
  | none => .ok "none"
  | some value => Format runtime value

def Parse (value : String) : Except SdkException (Option DoubleBits) :=
  if value = "none" then .ok none else some <$> ParseExact runtime value "MEP curve size"

def Canonical (size : DynamicMepCurveSizeV1) : Except SdkException String := do
  size.Validate
  let diameter ← Number runtime size.DiameterFeet
  let height ← Number runtime size.HeightFeet
  let width ← Number runtime size.WidthFeet
  return JoinAll ["mep-curve-size/v1", size.Shape, diameter, height, width]

def ofParts : List String → Except SdkException DynamicMepCurveSizeV1
  | [shape, diameter, height, width] => do
    let diameter ← Parse runtime diameter
    let height ← Parse runtime height
    let width ← Parse runtime width
    return ⟨shape, diameter, height, width⟩
  | _ => .error (.argument "MEP curve size canonical field count is invalid.")

def ParseCanonical (value : String) : Except SdkException DynamicMepCurveSizeV1 :=
  parseCanonical 5 "MEP curve size" "mep-curve-size/v1" "MEP curve size canonical version is invalid."
    "MEP curve size canonical bytes are not exact." (ofParts runtime) Validate (Canonical runtime) value

end DynamicMepCurveSizeV1

end size

section curve

structure DynamicMepCurveSpecV1 where
  CurveKind : String
  StartFeet : DynamicPointV1
  EndFeet : DynamicPointV1
  LevelUniqueId : String
  deriving DecidableEq

namespace DynamicMepCurveSpecV1

/-- 10_000 -/
def longest : DoubleBits := 0x40c3880000000000#64

def Validate (curve : DynamicMepCurveSpecV1) : Except SdkException Unit := do
  require ((curve.CurveKind = "pipe" ∨ curve.CurveKind = "duct") ∧ Id curve.LevelUniqueId 256)
    (.argument "MEP curve kind or level is invalid.")
  ValidatePoint curve.StartFeet
  ValidatePoint curve.EndFeet
  let length := runtime.Length curve.StartFeet curve.EndFeet
  require (¬ Less length DynamicMepCurveSizeV1.smallest ∧ ¬ Less longest length)
    (.argument "MEP curve length is outside the bounded general-operation range.")

def Canonical (curve : DynamicMepCurveSpecV1) : Except SdkException String := do
  curve.Validate runtime
  let start ← Point runtime curve.StartFeet
  let stop ← Point runtime curve.EndFeet
  return JoinAll ["mep-curve-spec/v1", curve.CurveKind, start, stop, curve.LevelUniqueId]

def ofParts : List String → Except SdkException DynamicMepCurveSpecV1
  | [kind, start, stop, level] => do
    let start ← ParsePoint runtime start
    let stop ← ParsePoint runtime stop
    return ⟨kind, start, stop, level⟩
  | _ => .error (.argument "MEP curve canonical field count is invalid.")

def ParseCanonical (value : String) : Except SdkException DynamicMepCurveSpecV1 :=
  parseCanonical 5 "MEP curve" "mep-curve-spec/v1" "MEP curve canonical version is invalid."
    "MEP curve canonical bytes are not exact." (ofParts runtime) (Validate runtime) (Canonical runtime) value

def unsigned (curve : DynamicMepCurveSpecV1) : DynamicMepCurveSpecV1 :=
  { curve with StartFeet := curve.StartFeet.unsigned, EndFeet := curve.EndFeet.unsigned }

end DynamicMepCurveSpecV1

end curve

section connector

structure DynamicMepConnectorSelectorV1 where
  SourceIdentityHash : String
  NativeConnectorId : String
  ExpectedOriginFeet : DynamicPointV1
  ExpectedDomain : String
  ExpectedShape : String
  deriving DecidableEq

namespace DynamicMepConnectorSelectorV1

def Validate (selector : DynamicMepConnectorSelectorV1) : Except SdkException Unit := do
  require (Hash selector.SourceIdentityHash ∧ Id selector.NativeConnectorId 64
      ∧ selector.ExpectedDomain ∈ ["DomainHvac", "DomainPiping"]
      ∧ selector.ExpectedShape ∈ ["Round", "Rectangular", "Oval"])
    (.argument "MEP connector selector identity, domain, or shape is invalid.")
  let origin ← Point runtime selector.ExpectedOriginFeet
  let _ ← ParsePoint runtime origin

def Canonical (selector : DynamicMepConnectorSelectorV1) : Except SdkException String := do
  selector.Validate runtime
  let origin ← Point runtime selector.ExpectedOriginFeet
  return JoinAll ["mep-connector-selector/v1", selector.SourceIdentityHash, selector.NativeConnectorId, origin,
    selector.ExpectedDomain, selector.ExpectedShape]

def ofParts : List String → Except SdkException DynamicMepConnectorSelectorV1
  | [source, native, origin, domain, shape] => do
    let origin ← ParsePoint runtime origin
    return ⟨source, native, origin, domain, shape⟩
  | _ => .error (.argument "MEP connector selector canonical field count is invalid.")

def ParseCanonical (value : String) : Except SdkException DynamicMepConnectorSelectorV1 :=
  parseCanonical 6 "MEP connector selector" "mep-connector-selector/v1"
    "MEP connector selector version is invalid." "MEP connector selector canonical bytes are not exact."
    (ofParts runtime) (Validate runtime) (Canonical runtime) value

def unsigned (selector : DynamicMepConnectorSelectorV1) : DynamicMepConnectorSelectorV1 :=
  { selector with ExpectedOriginFeet := selector.ExpectedOriginFeet.unsigned }

end DynamicMepConnectorSelectorV1

end connector

end revit_operator.dynamic_revit_sdk
