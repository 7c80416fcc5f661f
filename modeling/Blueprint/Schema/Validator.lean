import Blueprint.Pattern

/-!
# Validators

A validator is a semantic rule that is attached to a definition and checked on
every instance of it.  Four kinds of rule are data.  The fifth is supplied by a
host: the schema holds only its label and handle, and whoever validates a
document says what the check does.

A data validator reports failures under its code.
-/

namespace Blueprint

/-- A check supplied by a host, known by a label and a handle. -/
structure CustomCheck where
  /-- What the check is called. -/
  label : String
  /-- Which of the checks of that label it is. -/
  handle : Nat
deriving DecidableEq

/-- A rule for the instances of a definition. -/
inductive Validator where
  /-- A scalar must be one of some texts.  Messages name the closest enclosing
  instance of the owner, if one is given. -/
  | allowedValues (values : List String) (owner : Option String) (code : UInt32)
  /-- A string must match a pattern. -/
  | pattern (source : String) (code : UInt32)
  /-- A value must not be blank or empty. -/
  | nonEmpty (code : UInt32)
  /-- A string, or each string of a sequence, must name an entry of a section of
  the document. -/
  | referenceTo (part : String) (code : UInt32)
  /-- A check of the host. -/
  | custom (check : CustomCheck)
deriving DecidableEq

namespace Validator

/-- The code for values outside an allowed set. -/
def allowedValuesCode : UInt32 := 1

/-- The code for texts that do not match a pattern. -/
def patternCode : UInt32 := 2

/-- The code for empty values. -/
def nonEmptyCode : UInt32 := 3

/-- The code for references to entries that do not exist. -/
def danglingReferenceCode : UInt32 := 10

/-- The code for plugins with an executor that a profile does not allow. -/
def illegalPluginExecutorCode : UInt32 := 18

/-- One of some texts, under the usual code. -/
def oneOf (values : List String) : Validator :=
  .allowedValues values none allowedValuesCode

/-- A pattern, under the usual code. -/
def matching (source : String) : Validator :=
  .pattern source patternCode

/-- Not empty, under the usual code. -/
def filled : Validator :=
  .nonEmpty nonEmptyCode

/-- A reference into a section, under the usual code. -/
def namesEntryOf (part : String) : Validator :=
  .referenceTo part danglingReferenceCode

/-- The same rule with an owner.  Only allowed values have one. -/
def ownedBy (validator : Validator) (definition : String) : Validator :=
  match validator with
  | .allowedValues values _ code => .allowedValues values (some definition) code
  | other => other

/-- The same rule under another code.  Checks of the host have none. -/
def withCode (validator : Validator) (code : UInt32) : Validator :=
  match validator with
  | .allowedValues values owner _ => .allowedValues values owner code
  | .pattern source _ => .pattern source code
  | .nonEmpty _ => .nonEmpty code
  | .referenceTo part _ => .referenceTo part code
  | .custom check => .custom check

/-- The code of a data validator. -/
def code? : Validator → Option UInt32
  | .allowedValues _ _ code | .pattern _ code | .nonEmpty code | .referenceTo _ code => some code
  | .custom _ => none

/-- Why a validator cannot be used. -/
inductive Defect where
  /-- Its pattern is malformed. -/
  | malformedPattern
  /-- It allows no value at all. -/
  | nothingAllowed
deriving DecidableEq

/-- The reason given for a defect.  Malformed patterns are not described further. -/
def Defect.message : Defect → String
  | .malformedPattern => "<regex error>"
  | .nothingAllowed => "allowed values cannot be empty"

/-- Check that a validator can be used.  Answers its pattern, if it has one. -/
def prepare : Validator → Except Defect (Option Pattern)
  | .pattern source _ =>
      match Pattern.compile? source with
      | some prepared => .ok (some prepared)
      | none => .error .malformedPattern
  | .allowedValues values _ _ => if values.isEmpty then .error .nothingAllowed else .ok none
  | _ => .ok none

end Validator

end Blueprint
