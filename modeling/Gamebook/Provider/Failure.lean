import Gamebook.Number.Fault

/-!
# Failures of a provider and their classes

A failure has a class and a message. Classes form a hierarchy, which can be extended
below any of them: a failure of a class counts as one of every class above it. A
classifier sorts failures by rules that are tried in the order of their registration;
the first rule whose class covers the failure decides, and a standard category is left
for the others. Transient failures and rate limits are worth another attempt.
-/

namespace Gamebook

/-- The classes of failures. -/
inductive FailureClass
  | any
  | runtime
  | provider
  | rateLimit
  | system
  | connection
  | connectionReset
  | timeout
  | lookup
  | missingKey
  | badValue
  | badType
  | badShape
  | arithmetic
  | overflow
  /-- A class of a provider's own below two others; where it has only one above, the other is
  `any`. -/
  | derived (name : String) (first second : FailureClass)
  deriving DecidableEq, Repr

namespace FailureClass

/-- A class and all classes above it. -/
def lineage : FailureClass → List FailureClass
  | .any => [.any]
  | .runtime => [.runtime, .any]
  | .provider => [.provider, .runtime, .any]
  | .rateLimit => [.rateLimit, .provider, .runtime, .any]
  | .system => [.system, .any]
  | .connection => [.connection, .system, .any]
  | .connectionReset => [.connectionReset, .connection, .system, .any]
  | .timeout => [.timeout, .system, .any]
  | .lookup => [.lookup, .any]
  | .missingKey => [.missingKey, .lookup, .any]
  | .badValue => [.badValue, .any]
  | .badType => [.badType, .any]
  | .badShape => [.badShape, .any]
  | .arithmetic => [.arithmetic, .any]
  | .overflow => [.overflow, .arithmetic, .any]
  | .derived name first second => .derived name first second :: (first.lineage ++ second.lineage)

/-- Whether a failure of one class counts as one of another. -/
def isA (c above : FailureClass) : Bool := c.lineage.contains above

end FailureClass

/-- A failure of a provider, or of the work with its reply. -/
structure Failure where
  cls : FailureClass
  message : String
  deriving DecidableEq, Repr

/-- The message as it is reported: a missing key is quoted. -/
def Failure.text (failure : Failure) : String :=
  if failure.cls = .missingKey then Text.quoted failure.message else failure.message

/-- What a failure means for further attempts. -/
inductive FailureCategory
  | transient
  | rateLimit
  | fatal
  deriving DecidableEq, Repr

/-- The name of a category. -/
def FailureCategory.name : FailureCategory → String
  | .transient => "transient"
  | .rateLimit => "rate_limit"
  | .fatal => "fatal"

/-- The category with exactly this name. -/
def FailureCategory.ofName? (name : String) : Option FailureCategory :=
  [.transient, .rateLimit, .fatal].find? (·.name == name)

/-- Whether another attempt is worth making. -/
def FailureCategory.isRetryable : FailureCategory → Bool
  | .transient | .rateLimit => true
  | .fatal => false

/-- Rules in the order of registration, and the category for all other failures. -/
structure Classifier where
  rules : List (FailureClass × FailureCategory) := []
  standard : FailureCategory := .fatal
  deriving DecidableEq, Repr

/-- What a rule can be asked to cover: a class of failures, or something that is none. -/
inductive Registrant
  | failure (cls : FailureClass)
  | other (name : String)
  deriving DecidableEq, Repr

/-- Why a registration is refused. -/
inductive RegistrationFault
  | nothing
  | notFailure (name : String)
  deriving DecidableEq, Repr

/-- The fault as a sentence. -/
def RegistrationFault.message : RegistrationFault → String
  | .nothing => "at least one exception type must be provided"
  | .notFailure name => "exception_types must be Exception subclasses, got <class '" ++ name ++ "'>"

namespace Classifier

/-- The category of a failure class. -/
def classify (classifier : Classifier) (cls : FailureClass) : FailureCategory :=
  match classifier.rules.find? fun (above, _) => cls.isA above with
  | some (_, category) => category
  | none => classifier.standard

/-- Adds rules for registrants up to the first that is no class of failures. -/
def registerEach (classifier : Classifier) (category : FailureCategory) :
    List Registrant → Classifier × Except RegistrationFault Unit
  | [] => (classifier, .ok ())
  | .other name :: _ => (classifier, .error (.notFailure name))
  | .failure cls :: rest =>
    registerEach { classifier with rules := classifier.rules ++ [(cls, category)] } category rest

/-- Registers a category for some classes. The classifier is given back in any case, with the
rules that were added. -/
def register (classifier : Classifier) (category : FailureCategory)
    (registrants : List Registrant) : Classifier × Except RegistrationFault Unit :=
  if registrants.isEmpty then (classifier, .error .nothing)
  else classifier.registerEach category registrants

/-- A classifier with a standard category and rules for one class each. -/
def ofRules (standard : FailureCategory) (rules : List (FailureCategory × Registrant)) :
    Except RegistrationFault Classifier :=
  rules.foldl
    (fun built (category, registrant) =>
      match built with
      | .error fault => .error fault
      | .ok classifier =>
        match classifier.register category [registrant] with
        | (extended, .ok ()) => .ok extended
        | (_, .error fault) => .error fault)
    (.ok { standard := standard })

/-- Rate limits are rate limits; other failures of the provider, of the connection and of time
are transient. -/
def standardRules : Classifier :=
  { rules :=
      [(.rateLimit, .rateLimit), (.provider, .transient), (.connection, .transient),
        (.timeout, .transient)] }

end Classifier

end Gamebook
