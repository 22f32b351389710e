/-!
# Misconfigurations

What can be wrong with a configuration or with the files that it names, each with its message.
-/

namespace GeneticRepair

inductive Place where
  | top (property : String)
  | within (sectionName property : String)
  deriving Repr, DecidableEq

def Place.text : Place → String
  | top p => "'" ++ p ++ "' property"
  | within s p => "'" ++ p ++ "' property in '" ++ s ++ "'"

inductive Expected where
  | number | int | string | bool
  deriving Repr, DecidableEq

def Expected.text : Expected → String
  | number => "a number"
  | int => "an int"
  | string => "a string"
  | bool => "a bool"

inductive Misconfiguration where
  | testFileUnparsable (filename : String)
  | testFileNotFound (path : String)
  | notAnObject
  | programMissing
  | moduleMissing
  | sectionShape (sectionName : String)
  | propertyShape (place : Place) (expected : Expected)
  | relativePath (property : String)
  | relativeDirectory
  | relativePatches (path : String)
  | notAModule (name : String)
  | timeLimit
  | negativeWeight
  | unknownMetric (name : String) (supported : List String)
  | unknownType (sectionName name : String) (supported : List String)
  | unknownAlgorithm (name : String) (supported : List String)
  | maxAttempts
  | negativeSeed
  | noThread
  | tooSmall (property : String) (least : Nat)
  | mutationRate
  deriving Repr, DecidableEq

namespace Misconfiguration

def among (supported : List String) : String :=
  " (expected one of: " ++ ", ".intercalate supported ++ ")"

def reason : Misconfiguration → String
  | testFileUnparsable filename => "failed to parse test file [" ++ filename ++ "]"
  | testFileNotFound path => "test file not found: " ++ path
  | notAnObject => "configuration should be an object"
  | programMissing => "'program' section is missing"
  | moduleMissing => "'module' property is missing from 'program' section"
  | sectionShape name => "'" ++ name ++ "' section should be an object"
  | propertyShape place expected => place.text ++ " should be " ++ expected.text
  | relativePath p => "'" ++ p ++ "' must be absolute for non-file-based configurations"
  | relativeDirectory => "program directory should be an absolute path"
  | relativePatches path => "patch directory is not an absolute path: " ++ path
  | notAModule name => "'module' property in 'program' is not a module name: " ++ name
  | timeLimit => "'time-limit' property in 'program' should be positive"
  | negativeWeight => "fitness weights should be non-negative"
  | unknownMetric name supported =>
    "suspiciousness metric not supported: " ++ name ++ among supported
  | unknownType name type supported =>
    "unsupported 'type' in '" ++ name ++ "' section: " ++ type ++ among supported
  | unknownAlgorithm name supported => "unknown search algorithm: " ++ name ++ among supported
  | maxAttempts => "'max-attempts' property in 'crossover' should be at least 1"
  | negativeSeed => "'seed' must not be negative"
  | noThread => "at least one thread is required"
  | tooSmall property least =>
    "'" ++ property ++ "' should be greater than or equal to " ++ toString least
  | mutationRate => "'mutation-rate' should be between 0 and 1"

def message (m : Misconfiguration) : String :=
  "bad configuration file: " ++ m.reason

end Misconfiguration

end GeneticRepair
