import Tablewright.Code.Lexeme
import Tablewright.Contract.Convention

/-!
# Building contracts

A declared contract is accepted if its names and types can stand in code, and every method carries
a statement or has a name that describes one.  The first defect in declaration order is reported.
-/

namespace Tablewright

/-- Passes if all names can stand in code. -/
def checkNames (names : List String) : Except Contract.Defect Unit :=
  match names.find? (!Code.isName ·) with
  | some name => .error (.invalidName name)
  | none => .ok ()

/-- The type that a text spells. -/
def checkedType (text : String) : Except Contract.Defect Code.TypeExpr :=
  match Code.TypeExpr.ofText? text with
  | some type => .ok type
  | none => .error (.invalidType text)

/-- The parameter that is declared. -/
def Param.ofDecl (decl : ParamDecl) : Except Contract.Defect Param := do
  checkNames [decl.name]
  let type ← checkedType decl.type
  return { name := decl.name, type }

namespace Method

/-- Name of the generated function. -/
def functionName (method : Method) : String :=
  Text.snakeCase method.name

/-- The statement attached to a method, unless it is blank. -/
def attached? (decl : MethodDecl) : Option String :=
  (decl.customSql.map Text.trimmed).filter (· ≠ "")

/-- The method that is declared, once its names and types are checked. -/
def ofChecked
    (entity : Entity)
    (decl : MethodDecl)
    (name : String)
    (params : List Param)
    (scalarReturn : Option Code.TypeExpr) : Except Contract.Defect Method :=
  let returnsEntity := decl.returnsEntity && scalarReturn.isNone
  let method : Method :=
    { name
      plan := .custom
      params
      returnsSingle := decl.returnsSingle
      returnsEntity
      scalarReturn
      customSql := attached? decl }
  match attached? decl with
  | some _ => .ok method
  | none =>
    match Convention.ofName? entity name with
    | none => .error (.unresolvedMethod name)
    | some convention =>
      if convention = .update ∧ entity.updatable.isEmpty then
        .error (.nothingToUpdate name entity.name)
      else if convention.accepts entity params.length then
        .ok
          { method with
            plan := convention.plan
            returnsEntity := returnsEntity && !convention.removes
            findByFields := convention.fields
            derivedSql := convention.derivedSql? entity }
      else .error (.paramCount name (convention.expectedParams entity).1 params.length)

/-- The method that is declared. -/
def ofDecl
    (entity : Entity)
    (decl : MethodDecl) : Except Contract.Defect Method := do
  let name := Text.pascalCase (Text.trimmed decl.name)
  if !decl.returnsError then throw (.infallibleMethod name)
  checkNames [Text.snakeCase name]
  let params ← decl.params.mapM Param.ofDecl
  let scalarReturn ← decl.scalarReturn.mapM checkedType
  ofChecked entity decl name params scalarReturn

end Method

namespace Contract

/-- The contract that is declared, for the entity given. -/
def ofDecl
    (entity : Entity)
    (decl : ContractDecl) : Except Defect Contract := do
  if decl.entity ≠ entity.name then
    throw (.entityMismatch decl.name decl.entity entity.name)
  checkNames (decl.name :: entity.name :: entity.stored.map (·.name))
  let methods ← decl.methods.mapM (Method.ofDecl entity)
  return { name := decl.name, entity := entity.name, methods }

end Contract
end Tablewright
