import QueryGate.Sql.Read.Basic
/-!
# Type names

How the built-in types are written. Any other name may stand for a type where
one is required.
-/

namespace QueryGate.Sql.Read

open Reader

/-- What may follow the keyword of a type. -/
inductive TypeShape where
  | plain
  /-- A length. -/
  | length
  /-- A length, then `SIGNED` or `UNSIGNED`. -/
  | integer
  /-- A precision and a scale. -/
  | scale
  /-- A precision and a scale, then `UNSIGNED`. -/
  | decimal
  /-- Only `UNSIGNED`. -/
  | sign
  /-- Either `PRECISION` or a precision and a scale, then `UNSIGNED`. -/
  | double
  /-- A length in characters or octets. -/
  | characters
  /-- The same, and also `VARYING` or `LARGE OBJECT`. -/
  | character
  /-- A length or `MAX`. -/
  | bytes
  /-- Possibly `VARYING`, then a length. -/
  | bits
  /-- A precision and a time zone. -/
  | zoned
  /-- A list of texts. -/
  | choice
  /-- The type of the elements in angle brackets. -/
  | array
  /-- Only `INTEGER`. -/
  | wholeNumber
  deriving Repr, DecidableEq

/-- The keywords of the built-in types, by what may follow them. -/
def typeGroups : List (TypeShape × List String) :=
  [(.plain,
    ["BOOLEAN", "BOOL", "DATE", "DATE32", "INT16", "INT32", "INT64", "INT128", "INT256",
     "HUGEINT", "UBIGINT", "UHUGEINT", "USMALLINT", "UTINYINT", "UINT8", "UINT16", "UINT32",
     "UINT64", "UINT128", "UINT256", "FLOAT4", "FLOAT8", "FLOAT32", "FLOAT64", "JSON", "JSONB",
     "REGCLASS", "UUID", "TEXT", "TINYTEXT", "MEDIUMTEXT", "LONGTEXT", "TINYBLOB", "MEDIUMBLOB",
     "LONGBLOB", "BYTEA", "TRIGGER", "INTERVAL"]),
   (.length,
    ["CLOB", "BINARY", "BLOB", "BYTES", "STRING", "DATETIME", "TIMESTAMPTZ", "TIMESTAMP_NTZ",
     "TIMETZ", "VARBIT"]),
   (.integer,
    ["TINYINT", "SMALLINT", "MEDIUMINT", "INT", "INTEGER", "BIGINT", "INT2", "INT4", "INT8"]),
   (.scale, ["NUMERIC", "BIGNUMERIC", "BIGDECIMAL"]),
   (.decimal, ["FLOAT", "DECIMAL", "DEC"]),
   (.characters, ["VARCHAR", "NVARCHAR"]),
   (.character, ["CHAR", "CHARACTER"]),
   (.zoned, ["TIMESTAMP", "TIME"]),
   (.choice, ["ENUM", "SET"]),
   (.wholeNumber, ["SIGNED", "UNSIGNED"]),
   (.sign, ["REAL"]),
   (.double, ["DOUBLE"]),
   (.bytes, ["VARBINARY"]),
   (.bits, ["BIT"]),
   (.array, ["ARRAY"])]

/-- What may follow the keyword of a built-in type; none if it is no such
keyword. -/
def shapeOf? (keyword : String) : Option TypeShape :=
  (typeGroups.find? fun (_, keywords) => keywords.contains keyword).map Prod.fst

def optionalCharacters : Reader Unit := do
  if ← acceptSymbol "(" then
    if !(← accept ["MAX"]) then
      unsigned
      let _ ← acceptOne ["CHARACTERS", "OCTETS"]
    requireSymbol ")"

def optionalBytes : Reader Unit := do
  if ← acceptSymbol "(" then
    if !(← accept ["MAX"]) then unsigned
    requireSymbol ")"

def optionalUnsigned : Reader Unit := do
  let _ ← accept ["UNSIGNED"]

def zone : Reader Unit := do
  optionalLength
  if (← acceptOne ["WITH", "WITHOUT"]).isSome then require ["TIME", "ZONE"]

/-- What follows the keyword of a type; `element` reads the type of an
element. -/
def typeTail (element : Reader Unit) : TypeShape → Reader Unit
  | .plain => return ()
  | .length => optionalLength
  | .integer => do
    optionalLength
    let _ ← acceptOne ["UNSIGNED", "SIGNED"]
  | .scale => optionalScale
  | .decimal => do
    optionalScale
    optionalUnsigned
  | .sign => optionalUnsigned
  | .double => do
    if !(← accept ["PRECISION"]) then optionalScale
    optionalUnsigned
  | .characters => optionalCharacters
  | .character => do
    if ← accept ["LARGE", "OBJECT"] then optionalLength
    else
      let _ ← accept ["VARYING"]
      optionalCharacters
  | .bytes => optionalBytes
  | .bits => do
    let _ ← accept ["VARYING"]
    optionalLength
  | .zoned => zone
  | .choice =>
    parenthesized do
      let _ ← list literal
  | .array => do
    requireSymbol "<"
    element
    requireSymbol ">"
  | .wholeNumber => do
    let _ ← accept ["INTEGER"]

/-- Units between the parentheses of a type that is not built in, up to the
closing one, at most `n`. -/
def modifiers : Nat → Reader Unit
  | 0 => fail
  | n + 1 => do
    match ← next with
    | .word .. | .number _ | .text .single _ | .symbol "," => modifiers n
    | .symbol ")" => return ()
    | _ => fail

def customType : Reader Unit := do
  let _ ← name
  if ← acceptSymbol "(" then
    let ts ← rest
    modifiers (ts.length + 1)

/-- A type; the answer is its keyword if it is built in. Arrays may be nested
`n` deep. -/
def typeWithin : Nat → Reader (Option String)
  | 0 => fail
  | n + 1 => fun ts =>
    match ts with
    | .word text key :: r =>
      match key.bind shapeOf? with
      | some shape =>
        (do
          typeTail (do let _ ← typeWithin n) shape
          return key) r
      | none => (do customType; return none) (.word text key :: r)
    | _ => .error .unexpected

def builtinType : Reader String := do
  let ts ← rest
  match ← typeWithin ts.length with
  | some keyword => return keyword
  | none => fail

def dataType : Reader Unit := do
  let ts ← rest
  let _ ← typeWithin ts.length

end QueryGate.Sql.Read
