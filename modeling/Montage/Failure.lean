/-! The stages of an export and the ways in which one fails. -/

namespace Montage

inductive Stage where
  | validating
  | preprocessing
  | audioAssembling
  | graphBuilding
  | composing
  | cleaningUp
  | done
  deriving DecidableEq, Repr

def Stage.name : Stage → String
  | .validating => "validating"
  | .preprocessing => "preprocessing"
  | .audioAssembling => "audio_assembling"
  | .graphBuilding => "graph_building"
  | .composing => "composing"
  | .cleaningUp => "cleaning_up"
  | .done => "done"

inductive FailureKind where
  | validation
  | workspace
  | toolInvocation
  | toolExecution (returnCode : Option Int) (stderr : String)
  | toolTimeout (returnCode : Option Int) (stderr : String)
  | cancelled
  | missingAudio
  deriving DecidableEq, Repr

namespace FailureKind

def name : FailureKind → String
  | .validation => "validation"
  | .workspace => "workspace"
  | .toolInvocation => "tool_invocation"
  | .toolExecution .. => "tool_execution"
  | .toolTimeout .. => "tool_timeout"
  | .cancelled => "cancelled"
  | .missingAudio => "missing_audio"

def isOfValues : FailureKind → Bool
  | .validation => true
  | _ => false

def isOfExecution : FailureKind → Bool
  | .toolExecution .. | .toolTimeout .. => true
  | _ => false

end FailureKind

structure Failure where
  kind : FailureKind
  message : String
  stage : Option String := none
  deriving DecidableEq, Repr

def Failure.during (failure : Failure) (stage : Stage) : Failure :=
  { failure with stage := some (failure.stage.getD stage.name) }

end Montage
