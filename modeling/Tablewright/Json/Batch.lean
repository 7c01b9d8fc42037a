import Tablewright.Declaration
import Tablewright.Json.Record

/-!
# Batches in JSON

The declarations of one run as a JSON text.
-/

namespace Tablewright

namespace Json

/-- A declared field. -/
def fieldDecl : Reader FieldDecl :=
  record
    [required "name" string fun decl name => { decl with name },
      required "type" string fun decl type => { decl with type },
      defaulted "tag" string fun decl tag => { decl with tag }]
    { name := "", type := "" }

/-- A declared record. -/
def recordDecl : Reader RecordDecl :=
  record
    [required "name" string fun decl name => { decl with name },
      defaulted "fields" (list fieldDecl) fun decl fields => { decl with fields },
      defaulted "package" string fun decl package => { decl with package }]
    { name := "" }

/-- A declared parameter. -/
def paramDecl : Reader ParamDecl :=
  record
    [required "name" string fun decl name => { decl with name },
      required "type" string fun decl type => { decl with type }]
    { name := "", type := "" }

/-- A declared method. -/
def methodDecl : Reader MethodDecl :=
  record
    [required "name" string fun decl name => { decl with name },
      defaulted "params" (list paramDecl) fun decl params => { decl with params },
      defaulted "returns_single" flag fun decl returnsSingle => { decl with returnsSingle },
      defaulted "returns_error" flag fun decl returnsError => { decl with returnsError },
      defaulted "custom_sql" (optional string) fun decl customSql => { decl with customSql },
      defaulted "returns_entity" flag fun decl returnsEntity => { decl with returnsEntity },
      defaulted "scalar_return" (optional string) fun decl scalarReturn =>
        { decl with scalarReturn }]
    { name := "" }

/-- A declared contract. -/
def contractDecl : Reader ContractDecl :=
  record
    [required "name" string fun decl name => { decl with name },
      required "entity" string fun decl entity => { decl with entity },
      defaulted "methods" (list methodDecl) fun decl methods => { decl with methods }]
    { name := "", entity := "" }

/-- A batch. -/
def batch : Reader Batch :=
  record
    [defaulted "records" (list recordDecl) fun batch records => { batch with records },
      defaulted "contracts" (list contractDecl) fun batch contracts => { batch with contracts }]
    {}

end Json

/-- The batch that a JSON text declares. -/
def Batch.ofJson (text : String) : Except Json.Fault Batch :=
  Json.document Json.batch text

end Tablewright
