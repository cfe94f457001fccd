import RevitOperator.Library.Checked
import RevitOperator.Library.Utf

open checked utf16

/-! The strict JSON of the host: objects, strings and booleans without white space. -/

namespace revit_operator.safe_read_host

/-- A string of the host: UTF-16 code units, surrogates not necessarily in pairs. -/
abbrev Units := List UInt16

/-- The unit of an ASCII character. -/
def unit (c : Char) : UInt16 := .ofNat c.toNat

def ascii (s : String) : Units := s.toList.map unit

inductive StrictJsonValue where
  | Object (properties : List (Units × StrictJsonValue))
  | String (text : Units)
  | Boolean (value : Bool)

structure FormatException where
  message : String

namespace Protocol

def hexDigit (n : Nat) : UInt16 := .ofNat (if n < 10 then '0'.toNat + n else 'a'.toNat + (n - 10))

/-- `((int)c).ToString("x4")` -/
def hex4 (c : UInt16) : Units :=
  [hexDigit (c.toNat / 4096), hexDigit (c.toNat / 256 % 16), hexDigit (c.toNat / 16 % 16), hexDigit (c.toNat % 16)]

def quoteUnit (c : UInt16) : Units :=
  if c = unit '"' then ascii "\\\""
  else if c = unit '\\' then ascii "\\\\"
  else if c = 8 then ascii "\\b"
  else if c = 12 then ascii "\\f"
  else if c = unit '\n' then ascii "\\n"
  else if c = unit '\r' then ascii "\\r"
  else if c = unit '\t' then ascii "\\t"
  else if c < 32 then ascii "\\u" ++ hex4 c
  else [c]

def Quote (value : Units) : Units := unit '"' :: (value.flatMap quoteUnit ++ [unit '"'])

end Protocol

namespace StrictJson

def MaximumProperties : Nat := 64

def MaximumKeyCharacters : Nat := 128

def MaximumStringCharacters : Nat := 4096

def Require (value : Char) : Units → Except FormatException Units
  | [] => .error ⟨"Strict JSON punctuation is invalid."⟩
  | current :: rest =>
    if current = unit value then .ok rest else .error ⟨"Strict JSON punctuation is invalid."⟩

def nibble (c : UInt16) : Option Nat :=
  if unit '0' ≤ c ∧ c ≤ unit '9' then some (c.toNat - '0'.toNat)
  else if unit 'a' ≤ c ∧ c ≤ unit 'f' then some (c.toNat - 'a'.toNat + 10)
  else if unit 'A' ≤ c ∧ c ≤ unit 'F' then some (c.toNat - 'A'.toNat + 10)
  else none

def ReadHex4 : Units → Except FormatException (UInt16 × Units)
  | a :: b :: c :: d :: rest =>
    match nibble a, nibble b, nibble c, nibble d with
    | some a, some b, some c, some d => .ok (.ofNat (((a * 16 + b) * 16 + c) * 16 + d), rest)
    | _, _, _, _ => .error ⟨"Strict JSON Unicode escape is invalid."⟩
  | _ => .error ⟨"Strict JSON Unicode escape is incomplete."⟩

/-- The units an escape of four digits stands for, after its `\u`. -/
def AppendEscapedUnicode (source : Units) : Except FormatException (Units × Units) := do
  let (first, rest) ← ReadHex4 source
  if isHighSurrogate first then
    match rest with
    | backslash :: letter :: low =>
      require (backslash = unit '\\' ∧ letter = unit 'u' ∧ 4 ≤ low.length)
        ⟨"Strict JSON Unicode surrogate pair is incomplete."⟩
      let (second, rest) ← ReadHex4 low
      require (isLowSurrogate second = true) ⟨"Strict JSON Unicode surrogate pair is invalid."⟩
      return ([first, second], rest)
    | _ => .error ⟨"Strict JSON Unicode surrogate pair is incomplete."⟩
  else do
    require (isLowSurrogate first = false) ⟨"Strict JSON Unicode surrogate is invalid."⟩
    return ([first], rest)

def escapes : List (Char × UInt16) :=
  [('"', unit '"'), ('\\', unit '\\'), ('/', unit '/'), ('b', 8), ('f', 12), ('n', unit '\n'), ('r', unit '\r'),
    ('t', unit '\t')]

/-- The units the next part of a string stands for, behind the unit it starts with. -/
def readPiece (propertyName : Bool) (current : UInt16) (rest : Units) : Except FormatException (Units × Units) :=
  if current < 0x20 then .error ⟨"Strict JSON contains an unescaped control character."⟩
  else if current = unit '\\' then
    match propertyName, rest with
    | false, escaped :: rest =>
      if escaped = unit 'u' then AppendEscapedUnicode rest
      else
        match escapes.find? fun entry => unit entry.1 = escaped with
        | some entry => .ok ([entry.2], rest)
        | none => .error ⟨"Strict JSON escape is invalid."⟩
    | _, _ => .error ⟨"Strict JSON property names must be canonical."⟩
  else if isHighSurrogate current then
    match rest with
    | low :: rest =>
      if isLowSurrogate low then .ok ([current, low], rest) else .error ⟨"Strict JSON Unicode surrogate is invalid."⟩
    | [] => .error ⟨"Strict JSON Unicode surrogate is invalid."⟩
  else if isLowSurrogate current then .error ⟨"Strict JSON Unicode surrogate is invalid."⟩
  else .ok ([current], rest)

/-- The loop of `ReadString`. Every turn takes a unit, so there are at most as many as
    there are units. -/
def readUnits (propertyName : Bool) : Nat → Units → Units → Except FormatException (Units × Units)
  | turns + 1, output, current :: rest =>
    if current = unit '"' then .ok (output, rest)
    else do
      let (piece, rest) ← readPiece propertyName current rest
      require ((output ++ piece).length ≤ MaximumStringCharacters) ⟨"Strict JSON string bound exceeded."⟩
      readUnits propertyName turns (output ++ piece) rest
  | _, _, _ => .error ⟨"Strict JSON string is unterminated."⟩

def ReadString (propertyName : Bool) (source : Units) : Except FormatException (Units × Units) := do
  let rest ← Require '"' source
  readUnits propertyName rest.length [] rest

/-- The loop of `ReadObject`, with room for some more properties. -/
def readProperties (readValue : Units → Except FormatException (StrictJsonValue × Units)) :
    Nat → List (Units × StrictJsonValue) → Units →
      Except FormatException (List (Units × StrictJsonValue) × Units)
  | 0, _, _ => .error ⟨"Strict JSON property bound exceeded."⟩
  | room + 1, properties, source => do
    let (name, rest) ← ReadString true source
    require (name.length ≠ 0 ∧ name.length ≤ MaximumKeyCharacters ∧ name ∉ properties.map Prod.fst)
      ⟨"Strict JSON property name is invalid or duplicated."⟩
    let rest ← Require ':' rest
    let (value, rest) ← readValue rest
    let properties := properties ++ [(name, value)]
    match rest with
    | current :: after =>
      if current = unit '}' then return (properties, after)
      else do
        let rest ← Require ',' (current :: after)
        readProperties readValue room properties rest
    | [] => .error ⟨"Strict JSON punctuation is invalid."⟩

/-- `ReadObject`, behind the opening brace. -/
def ReadObject (readValue : Units → Except FormatException (StrictJsonValue × Units)) (source : Units) :
    Except FormatException (StrictJsonValue × Units) :=
  match source with
  | current :: rest =>
    if current = unit '}' then .ok (.Object [], rest)
    else do
      let (properties, rest) ← readProperties readValue MaximumProperties [] source
      return (.Object properties, rest)
  | [] => .error ⟨"Strict JSON punctuation is invalid."⟩

/-- `Match`, with what is left. -/
def Match (value : String) (source : Units) : Option Units :=
  if (ascii value).isPrefixOf source then some (source.drop (ascii value).length) else none

/-- `ReadValue`, where so many levels are left. -/
def ReadValue : Nat → Units → Except FormatException (StrictJsonValue × Units)
  | levels + 1, current :: rest =>
    if current = unit '{' then ReadObject (ReadValue levels) rest
    else if current = unit '"' then do
      let (value, rest) ← ReadString false (current :: rest)
      return (.String value, rest)
    else
      match Match "true" (current :: rest) with
      | some rest => .ok (.Boolean true, rest)
      | none =>
        match Match "false" (current :: rest) with
        | some rest => .ok (.Boolean false, rest)
        | none => .error ⟨"Strict JSON value type is unsupported."⟩
  | _, _ => .error ⟨"Strict JSON depth or value is invalid."⟩

def Parse (text : Units) (maximumCharacters maximumDepth : Nat) : Except FormatException StrictJsonValue := do
  require (text ≠ [] ∧ text.length ≤ maximumCharacters ∧ 1 ≤ maximumDepth ∧ maximumDepth ≤ 16)
    ⟨"Strict JSON bounds failed."⟩
  let (value, rest) ← ReadValue maximumDepth text
  match value with
  | .Object properties =>
    require (rest = []) ⟨"Strict JSON requires one object with no trailing content."⟩
    return .Object properties
  | _ => .error ⟨"Strict JSON requires one object with no trailing content."⟩

end StrictJson

end revit_operator.safe_read_host
