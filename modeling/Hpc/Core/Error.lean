import Mathlib.Data.List.Basic

set_option autoImplicit false

namespace Hpc.Core

-- Sources from other crates (I/O, TOML, serde_json) are kept as their texts.
inductive HpcError where
  | io (path : Option String) (source : String)
  | configParse (source : String)
  | configSerialize (source : String)
  | configInvalid (message : String)
  | serde (source : String)
  | store (message : String)
  | notFound (message : String)
  | invalidState (message : String)
  | rpc (message : String)
  | metrics (message : String)
  | bench (message : String)
  | command (message : String)
  | conversion (message : String)
  | ffi (message : String)
  | diag (message : String)
deriving DecidableEq, Repr

def HpcError.display : HpcError → String
  | .io path source => "i/o error" ++ (path.elim "" fun p => " at " ++ p) ++ ": " ++ source
  | .configParse source => "failed to parse configuration: " ++ source
  | .configSerialize source => "failed to serialize configuration: " ++ source
  | .configInvalid message => "invalid configuration: " ++ message
  | .serde source => "serialization error: " ++ source
  | .store message => "state store error: " ++ message
  | .notFound message => "not found: " ++ message
  | .invalidState message => "invalid state: " ++ message
  | .rpc message => "rpc error: " ++ message
  | .metrics message => "metrics collection error: " ++ message
  | .bench message => "benchmark error: " ++ message
  | .command message => "command execution failed: " ++ message
  | .conversion message => "protocol conversion error: " ++ message
  | .ffi message => "ffi error: " ++ message
  | .diag message => "diagnostics error: " ++ message

theorem passed_test {E A : Type} {refused : Prop} [Decidable refused] {error : E} {rest : Except E A} {result : A}
    (succeeded : (if refused then .error error else rest) = .ok result) : ¬ refused ∧ rest = .ok result := by
  by_cases refusal : refused
  · rw [if_pos refusal] at succeeded
    cases succeeded
  · rw [if_neg refusal] at succeeded
    exact ⟨refusal, succeeded⟩

end Hpc.Core
