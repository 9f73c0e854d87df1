import AccessControl.Policy.Registry

/-!
# An example: a small service for documents

The interface `DocumentApi` lets owners read, filters listings, and leaves deletion to administrators through a
template. `DocumentService` adds sharing, with a handler for denied calls, and `AuditedDocumentService` declares
reading once more without a policy of its own.
-/
namespace AccessControl.Example

/-- Administrators only. -/
def isAdmin : PolicyTemplate :=
  ⟨"IsAdmin", [.direct ⟨.preAuthorize, "'ROLE_ADMIN' in principal.authorities", none, none⟩]⟩

/-- The interface of the service. -/
def documentApi : TypeDeclaration :=
  (({ name := "DocumentApi", kind := .interface : TypeDeclaration }
    |>.withMethodUse "read" (.direct ⟨.preAuthorize, "args.owner == principal.name", none, none⟩))
    |>.withMethodUse "list" (.direct ⟨.postFilter, "filterObject.owner == principal.name", none, none⟩))
    |>.withMethodUse "delete" (.template "IsAdmin" ∅)

/-- The service. -/
def documentService : TypeDeclaration :=
  (((({ name := "DocumentService" : TypeDeclaration }.withInterface "DocumentApi").withMethod "read").withMethod
    "list").withMethod "delete").withMethodUse "share"
      (.direct ⟨.preAuthorize, "args.owner == principal.name", none, some "masked"⟩)

/-- The service with an audit trail. -/
def auditedDocumentService : TypeDeclaration :=
  ({ name := "AuditedDocumentService" : TypeDeclaration }.withSuperclass "DocumentService").withMethod "read"

/-- The types and templates of the service. -/
def documents : Registry :=
  (((({} : Registry).withTemplate isAdmin).withType documentApi).withType documentService).withType
    auditedDocumentService

end AccessControl.Example
