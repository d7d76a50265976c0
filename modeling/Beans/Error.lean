import Beans.Number.Decimal
import Beans.Text.Debug
import Beans.Ty.Name
/-!
# Errors

`MemberError` is what a reader, writer or constructor of a bean reports, `TextError` what the reading
of a text reports, and `BeanError` what the library reports; it holds the cause where there is one.
Each has one text, and `chain` lists an error and its causes from the outside in.
-/

set_option autoImplicit false

namespace Beans

inductive TextError where
  | noConverter (type : Ty)
  | bool
  | char (isEmpty : Bool)
  | int (e : IntTextError)
  | float (e : FloatTextError)
  /-- The text is none of the names of a type. -/
  | name
deriving DecidableEq, Repr

def TextError.message : TextError → String
  | noConverter t => s!"no string converter registered for `{t.path}`"
  | bool => "provided string was not `true` or `false`"
  | char true => "cannot parse char from empty string"
  | char false => "too many characters in string"
  | int e => e.message
  | float e => e.message
  | name => "an error occurred when formatting an argument"

def TextError.kind : TextError → String
  | noConverter _ => "NoConverter"
  | _ => "other"

inductive MemberError where
  | wrongInstance (expected found : BeanType)
  | wrongValue (expected found : Ty)
  | wrongArgument (bean : String) (index : Nat) (expected found : Ty)
  | nullArgument (bean : String) (index : Nat)
  | missingArgument (bean : String) (index count : Nat)
  | nullValue (name : String)
  | validation (message : String)
  | other (message : String)
deriving DecidableEq, Repr

namespace MemberError

def message : MemberError → String
  | wrongInstance expected found =>
    s!"member invoked on `{found.path}`, expected `{expected.path}`"
  | wrongValue expected found => s!"member expects `{expected.path}`, found `{found.path}`"
  | wrongArgument bean index expected found =>
    s!"argument {index} of `{bean}` expects `{expected.path}`, found `{found.path}`"
  | nullArgument bean index => s!"argument {index} of `{bean}` is null"
  | missingArgument bean index count =>
    s!"`{bean}` was given {count} arguments, argument {index} is missing"
  | nullValue name => s!"{name} must not be null"
  | validation message => message
  | other message => message

def kind : MemberError → String
  | wrongInstance _ _ => "WrongInstance"
  | wrongValue _ _ => "WrongValue"
  | wrongArgument _ _ _ _ => "WrongArgument"
  | nullArgument _ _ => "NullArgument"
  | missingArgument _ _ _ => "MissingArgument"
  | nullValue _ => "NullValue"
  | validation _ => "Validation"
  | other _ => "Other"

end MemberError

inductive BeanError where
  | beanNotFound (path : String)
  | propertyNotFound (bean : BeanType) (property : String)
  | duplicateRegistration (bean : BeanType)
  | duplicateProperty (bean : BeanType) (property : String)
  | constructorNotFound (bean : BeanType)
  | accessorNotFound (bean : BeanType) (member : String)
  | ambiguousConstructor (bean : BeanType)
  | notReadable (bean : BeanType) (property : String)
  | notWritable (property : String)
  | typeMismatch (property : String) (expected found : Ty)
  /-- A value in the middle of a path is not a bean. -/
  | notABean (property : String) (found : Ty)
  | unreadableText (property text : String) (target : Ty) (cause : TextError)
  | unknownProperty (bean : BeanType) (property : String)
  | constructionFailed (bean : BeanType) (cause : MemberError)
  /-- A new instance refused one of its properties. -/
  | initializationFailed (bean : BeanType) (cause : BeanError)
  | invocationFailed (property : String) (cause : MemberError)
  | wrongBeanType (expected found : BeanType)
deriving DecidableEq, Repr

namespace BeanError

def message : BeanError → String
  | beanNotFound path => s!"bean type not found: {path}"
  | propertyNotFound bean property => s!"property not found: {bean.path}.{property}"
  | duplicateRegistration bean => s!"bean type already registered: {bean.path}"
  | duplicateProperty bean property => s!"property declared twice: {bean.path}.{property}"
  | constructorNotFound bean => s!"unable to find constructor: {bean.path}"
  | accessorNotFound bean member =>
    s!"unable to find property getter or setter: {bean.path}.{member}"
  | ambiguousConstructor bean =>
    s!"unable to find constructor: more than one matches for {bean.path}"
  | notReadable bean property => s!"property cannot be read: {bean.path}.{property}"
  | notWritable property => s!"property cannot be written: {property}"
  | typeMismatch property expected found =>
    s!"property {property} expects `{expected.path}`, found `{found.path}`"
  | notABean property found => s!"property {property} expects `a bean`, found `{found.path}`"
  | unreadableText property text target _ =>
    let quoted := Text.debugString text
    s!"property {property} cannot parse {quoted} as `{target.path}`"
  | unknownProperty bean property => s!"unknown property: {bean.path}.{property}"
  | constructionFailed bean _ | initializationFailed bean _ =>
    s!"bean cannot be created: {bean.path}"
  | invocationFailed property _ => s!"property {property} failed on invocation"
  | wrongBeanType expected found =>
    s!"wrong bean type: expected `{expected.path}`, found `{found.path}`"

def kind : BeanError → String
  | beanNotFound _ => "BeanNotFound"
  | propertyNotFound _ _ => "PropertyNotFound"
  | duplicateRegistration _ => "DuplicateRegistration"
  | duplicateProperty _ _ => "DuplicateProperty"
  | constructorNotFound _ => "ConstructorNotFound"
  | accessorNotFound _ _ => "ConstructorOrAccessorNotFound"
  | ambiguousConstructor _ => "AmbiguousConstructor"
  | notReadable _ _ => "NotReadable"
  | notWritable _ => "NotWritable"
  | typeMismatch _ _ _ | notABean _ _ => "TypeMismatch"
  | unreadableText _ _ _ _ => "ParseError"
  | unknownProperty _ _ => "UnknownProperty"
  | constructionFailed _ _ | initializationFailed _ _ => "ConstructionFailed"
  | invocationFailed _ _ => "InvocationFailed"
  | wrongBeanType _ _ => "WrongBeanType"

/-- The kinds and texts of an error and its causes, from the outside in. -/
def chain (e : BeanError) : List (String × String) :=
  (e.kind, e.message) :: match e with
    | constructionFailed _ cause | invocationFailed _ cause => [(cause.kind, cause.message)]
    | unreadableText _ _ _ cause => [(cause.kind, cause.message)]
    | initializationFailed _ cause => cause.chain
    | _ => []

end BeanError

end Beans
