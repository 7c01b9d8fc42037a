/-!
# Declarations

What a reader of host code hands over: records with tagged fields, and contracts with methods.
Nothing here is checked yet.
-/

namespace Tablewright

/-- A declared field. -/
structure FieldDecl where
  /-- Field name. -/
  name : String
  /-- Type, as written. -/
  type : String
  /-- Tag, perhaps empty. -/
  tag : String := ""
  deriving DecidableEq, Repr

/-- A declared record. -/
structure RecordDecl where
  /-- Record name. -/
  name : String
  /-- Fields in order. -/
  fields : List FieldDecl := []
  /-- Package that the record comes from. -/
  package : String := ""
  deriving DecidableEq, Repr

/-- A declared parameter. -/
structure ParamDecl where
  /-- Parameter name. -/
  name : String
  /-- Type, as written. -/
  type : String
  deriving DecidableEq, Repr

/-- A declared method of a contract. -/
structure MethodDecl where
  /-- Method name. -/
  name : String
  /-- Parameters, the receiver left out. -/
  params : List ParamDecl := []
  /-- Whether one value is returned rather than a collection. -/
  returnsSingle : Bool := false
  /-- Whether the result can carry an error. -/
  returnsError : Bool := true
  /-- SQL attached to the method. -/
  customSql : Option String := none
  /-- Whether the entity, or a collection of it, is returned. -/
  returnsEntity : Bool := true
  /-- Type of a scalar result, as written. -/
  scalarReturn : Option String := none
  deriving DecidableEq, Repr

/-- A declared repository contract. -/
structure ContractDecl where
  /-- Contract name. -/
  name : String
  /-- Name of the entity that the contract serves. -/
  entity : String
  /-- Methods in order. -/
  methods : List MethodDecl := []
  deriving DecidableEq, Repr

/-- All declarations of one run. -/
structure Batch where
  /-- Records in order. -/
  records : List RecordDecl := []
  /-- Contracts in order. -/
  contracts : List ContractDecl := []
  deriving DecidableEq, Repr

end Tablewright
