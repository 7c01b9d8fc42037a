import Tablewright.Code.TypeExpr

/-!
# Column types

The SQL type of a column, chosen by the shape of the field's type.  References are looked through,
an option makes the column nullable, a vector adds an array dimension unless it holds bytes, and
any other path is judged by its last name.
-/

namespace Tablewright

/-- The SQL type of a column. -/
structure ColumnType where
  /-- Name of the type, array brackets left out. -/
  name : String
  /-- Whether the column may hold nothing. -/
  nullable : Bool := false
  /-- Number of array dimensions. -/
  dimensions : Nat := 0
  /-- Whether only values from zero on are meant. -/
  nonNegative : Bool := false
  deriving DecidableEq, Repr

namespace ColumnType

/-- Text without a bound on its length. -/
def text : ColumnType := { name := "TEXT" }

/-- Bytes. -/
def bytes : ColumnType := { name := "BYTEA" }

/-- Characters, up to the given length if there is one. -/
def characters : Option Nat → ColumnType
  | some length => { name := "VARCHAR(" ++ toString length ++ ")" }
  | none => text

/-- Names of scalar types with the SQL type of each, and whether it is unsigned. -/
def scalars : List (String × String × Bool) :=
  [("i8", "SMALLINT", false), ("i16", "SMALLINT", false), ("u8", "SMALLINT", true),
    ("i32", "INTEGER", false), ("u16", "INTEGER", true), ("i64", "BIGINT", false),
    ("isize", "BIGINT", false), ("u32", "BIGINT", true), ("u64", "BIGINT", true),
    ("usize", "BIGINT", true), ("f32", "REAL", false), ("f64", "DOUBLE PRECISION", false),
    ("bool", "BOOLEAN", false), ("char", "CHAR(1)", false), ("Uuid", "UUID", false),
    ("DateTime", "TIMESTAMPTZ", false), ("OffsetDateTime", "TIMESTAMPTZ", false),
    ("NaiveDateTime", "TIMESTAMP", false), ("PrimitiveDateTime", "TIMESTAMP", false),
    ("SystemTime", "TIMESTAMP", false), ("NaiveDate", "DATE", false), ("Date", "DATE", false),
    ("NaiveTime", "TIME", false), ("Time", "TIME", false), ("Value", "JSONB", false),
    ("Json", "JSONB", false), ("JsonValue", "JSONB", false), ("RawValue", "JSONB", false),
    ("Decimal", "DECIMAL", false), ("BigDecimal", "DECIMAL", false), ("IpAddr", "INET", false),
    ("Ipv4Addr", "INET", false), ("Ipv6Addr", "INET", false), ("IpNetwork", "INET", false),
    ("Bytes", "BYTEA", false)]

/-- The column type of a scalar type by its name; unknown names are text. -/
def ofName
    (length : Option Nat)
    (name : String) : ColumnType :=
  if name = "String" || name = "str" then characters length
  else
    match scalars.lookup name with
    | some (name, nonNegative) => { name, nonNegative }
    | none => text

/-- Whether the elements of a sequence are bytes. -/
def isByte (element : Code.Shape) : Bool :=
  element.lastName? = some "u8"

/-- The column type of a type of the given shape. -/
def ofShape (length : Option Nat) : Code.Shape → ColumnType
  | .reference target => ofShape length target
  | .applied name argument =>
    if name = "Option" then { ofShape length argument with nullable := true }
    else if name = "Vec" then
      if isByte argument then bytes
      else
        let element := ofShape length argument
        { element with dimensions := element.dimensions + 1 }
    else ofName length name
  | .named name => ofName length name
  | .slice element => if isByte element then bytes else text
  | .other => text

/-- The column type of a type as written, given how its shape is told; a text that is no type is
stored as text. -/
def ofTextBy
    (shape? : Code.ShapeReader)
    (length : Option Nat)
    (type : String) : ColumnType :=
  match shape? type with
  | some shape => ofShape length shape
  | none => text

/-- The column type of a type as written. -/
def ofText : Option Nat → String → ColumnType :=
  ofTextBy Code.TypeExpr.shape?

/-- The type as SQL spells it. -/
def spelling (type : ColumnType) : String :=
  type.name ++ String.join (List.replicate type.dimensions "[]")

/-- Whether the column holds one whole number. -/
def isInteger (type : ColumnType) : Bool :=
  type.dimensions = 0 && ["SMALLINT", "INTEGER", "BIGINT"].contains type.name

/-- Whether the column is checked to hold no negative number. -/
def needsCheck (type : ColumnType) : Bool :=
  type.nonNegative && type.dimensions = 0

/-- Length of character columns when no other is configured. -/
def defaultLength : Nat := 255

end ColumnType

/-- Whether a type as written is stored as one whole number that is always there, given how its
shape is told. -/
def isIntegerTypeBy
    (shape? : Code.ShapeReader)
    (type : String) : Bool :=
  let column := ColumnType.ofTextBy shape? (some ColumnType.defaultLength) type
  column.isInteger && !column.nullable

/-- Whether a type as written is stored as one whole number that is always there. -/
def isIntegerType : String → Bool :=
  isIntegerTypeBy Code.TypeExpr.shape?

end Tablewright
