import TagWeave.Fault

/-!
# Faults of Jinja templates

A template that does not parse, a name that is not defined where a value is needed,
an operation that is not known, no name of a template to include, and the faults of the
operations that a template computes.
-/

namespace TagWeave.Jinja

/-- A value that is not there: a name, or a member of a value of the given type. -/
inductive Missing where
  | name (name : String)
  | member (typeName name : String)
  | element (typeName shown : String)
  deriving DecidableEq, Repr

/-- What is said of a missing value that is used. -/
def Missing.message : Missing → String
  | name n => Text.quoted n ++ " is undefined"
  | member typeName n => Text.quoted typeName ++ " has no attribute " ++ Text.quoted n
  | element typeName shown => typeName ++ " has no element " ++ shown

/-- Why a template is refused. An operation that is not known is noticed when the template is read,
or, inside a condition, when it is used. An engine may have other reasons. -/
inductive TemplateFault where
  | malformed
  | unknownFilter
  | filterNotFound (name : String)
  | undefined (missing : Missing)
  | noneGiven
  | other (kind message : String)
  deriving DecidableEq, Repr

/-- The wording of a fault. -/
def TemplateFault.message : TemplateFault → String
  | malformed | unknownFilter => "<syntax error>"
  | filterNotFound name => "No filter named " ++ Text.quoted name ++ " found."
  | undefined missing => missing.message
  | noneGiven => "Tried to select from an empty list of templates."
  | other _ message => message

/-- The kind of a fault. -/
def TemplateFault.kind : TemplateFault → String
  | malformed => "TemplateSyntaxError"
  | unknownFilter => "TemplateAssertionError"
  | filterNotFound _ => "TemplateRuntimeError"
  | undefined _ => "UndefinedError"
  | noneGiven => "TemplatesNotFound"
  | other kind _ => kind

/-- Why a template does not give a text: a fault of the template, or one of what it computes. -/
inductive Failure where
  | template (fault : TemplateFault)
  | runtime (fault : Fault)
  deriving Repr

end TagWeave.Jinja
