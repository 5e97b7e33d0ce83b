import SkfService.Session.Auth
import SkfService.Text.Json

/-! The lifetime of a grant, as the environment gives it. -/

set_option autoImplicit false

namespace SkfService

open Text

def DEFAULT_TTL_SECONDS : Nat := 600

def TTL_ENV_VAR : String := "SKF_AUTH_TTL_SECONDS"

def Duration.fromSecs (seconds : Nat) : Duration := seconds * 1000000000

/-- An unsigned number of 64 bits: decimal digits, which one plus sign may come before. -/
def parseU64 (s : String) : Option Nat :=
  let digits := if s.toList.head? = some '+' then s.toList.tail else s.toList
  let value := digits.foldl (fun n c => 10 * n + (c.toNat - 48)) 0
  if isDigits digits ∧ value < 18446744073709551616 then some value else none

def ttlFromEnv (env : String → Option String) : Duration :=
  match (env TTL_ENV_VAR).bind fun raw => parseU64 (trim raw) with
  | none | some 0 => .fromSecs DEFAULT_TTL_SECONDS
  | some seconds => .fromSecs seconds

example :
    parseU64 "+0600" = some 600 ∧ parseU64 "+" = none ∧ parseU64 "18446744073709551616" = none := by
  decide

end SkfService
