import Mathlib.Tactic.Common

namespace Intelipump

/-!
# Exceptions the source raises

One constructor for each exception class that modelled code raises, with the
message it is raised with.  Code that can raise and has no state returns
`Except Raised`; code that also mutates an object returns
`EStateM Raised` over that object, so that what was written before the raise
stays written, as it does in the source.  `libraryError` stands for the classes
of the libraries under the transports.
-/

inductive Raised where
  | valueError (message : String)
  | frameBuildError (message : String)
  | dleEscapeError (message : String)
  | bcdError (message : String)
  | lookupError (message : String)
  | duplicateEntityError (message : String)
  | assertionError (message : String)
  | zeroDivisionError (message : String)
  | outboundRejectedError (reasons : List String)
  | outboundQueueFullError (message : String)
  | integrityError (message : String)
  | operationalError (message : String)
  | auditChainError (message : String)
  | topicError (message : String)
  | persistenceQueueFullError (message : String)
  | apiError (code message : String) (statusCode : Nat) (blockingReasons : List String)
  | transportNotOpenError (message : String)
  | libraryError (className message : String)
deriving DecidableEq, Repr

/-- `str(exc)`. -/
def Raised.message : Raised → String
  | .valueError message => message
  | .frameBuildError message => message
  | .dleEscapeError message => message
  | .bcdError message => message
  | .lookupError message => message
  | .duplicateEntityError message => message
  | .assertionError message => message
  | .zeroDivisionError message => message
  | .outboundRejectedError reasons => ",".intercalate reasons
  | .outboundQueueFullError message => message
  | .integrityError message => message
  | .operationalError message => message
  | .auditChainError message => message
  | .topicError message => message
  | .persistenceQueueFullError message => message
  | .apiError _ message _ _ => message
  | .transportNotOpenError message => message
  | .libraryError _ message => message

/-- `type(exc).__name__`. -/
def Raised.typeName : Raised → String
  | .valueError _ => "ValueError"
  | .frameBuildError _ => "FrameBuildError"
  | .dleEscapeError _ => "DleEscapeError"
  | .bcdError _ => "BcdError"
  | .lookupError _ => "LookupError"
  | .duplicateEntityError _ => "DuplicateEntityError"
  | .assertionError _ => "AssertionError"
  | .zeroDivisionError _ => "ZeroDivisionError"
  | .outboundRejectedError _ => "OutboundRejectedError"
  | .outboundQueueFullError _ => "OutboundQueueFullError"
  | .integrityError _ => "IntegrityError"
  | .operationalError _ => "OperationalError"
  | .auditChainError _ => "AuditChainError"
  | .topicError _ => "TopicError"
  | .persistenceQueueFullError _ => "PersistenceQueueFullError"
  | .apiError _ _ _ _ => "ApiError"
  | .transportNotOpenError _ => "TransportNotOpenError"
  | .libraryError className _ => className

end Intelipump
