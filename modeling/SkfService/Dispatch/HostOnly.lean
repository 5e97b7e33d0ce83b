import SkfService.Dispatch.IssueCertificate
import SkfService.Skf.Rules

/-! Issuing a certificate asks for nothing but the host, and answers under the request's id. -/

set_option autoImplicit false

namespace SkfService.IssueCertificate

open Interaction Program Handler

def LeavesUnder (id : Option Text.Json) : Exit → Prop
  | .reply response => response.id = id
  | .panic _ => True

variable {A B : Type} {ret : B → Unit → Prop} {id : Option Text.Json}

theorem bind_removeFiles {paths : List String} {k : Unit → Handler B} {exits : Exit → Unit → Prop}
    (goes : (k ()).Meets hostOnly ret exits ()) :
    (removeFiles paths >>= k).Meets hostOnly ret exits () := by
  induction paths with
  | nil => exact goes
  | cons path rest ih =>
    rw [removeFiles, bind_bind]
    exact bind_hostOnly fun _ => ih

theorem bind_encryptionKey {signPub : List UInt8 × List UInt8} {encPub encSk : List UInt8}
    {k : String → Handler B}
    (goes : ∀ key, (k key).Meets hostOnly ret (fun exit _ => LeavesUnder id exit) ()) :
    (encryptionKey signPub encPub encSk >>= k).Meets hostOnly ret
      (fun exit _ => LeavesUnder id exit) () := by
  rw [meets_bind, encryptionKey]
  refine bind_hostOnly fun sessionKey => bind_unwrap (fun plainSk _ => ?_) fun _ => trivial
  refine bind_hostOnly fun wrapped => bind_unwrap (fun encryptedKey _ => ?_) fun _ => trivial
  exact bind_hostOnly fun cipher => bind_unwrap (fun blob _ => goes _) fun _ => trivial

-- Unfolding the decoder of a key that is not known leads nowhere.
attribute [local irreducible] hexToBytes in
theorem meets_doubleCertificate {ctx : SkfContext} {paths : Paths}
    {reqId subject signCertPem : String} {signPub : List UInt8 × List UInt8} :
    (doubleCertificate ctx paths reqId subject signCertPem signPub id).Meets hostOnly
      (fun response _ => response.id = id) (fun exit _ => LeavesUnder id exit) () := by
  unfold doubleCertificate
  refine bind_hostOnly fun pair => ?_
  obtain ⟨encSkHex, encPkHex⟩ := pair
  refine bind_unwrap (fun encPub _ => bind_unwrap (fun encSk _ => ?_) fun _ => trivial) fun _ =>
    trivial
  refine bind_hostOnly fun _ => bind_hostOnly fun _ => bind_hostOnly fun _ => bind_removeFiles ?_
  refine bind_hostOnly fun _ =>
    bind_hostOnly fun _ => bind_hostOnly fun _ => bind_encryptionKey fun _ => ?_
  exact bind_removeFiles rfl

theorem bind_signCertificate {paths : Paths} {subject : String} {k : String → Handler B}
    (goes : ∀ pem, (k pem).Meets hostOnly ret (fun exit _ => LeavesUnder id exit) ()) :
    (signCertificate paths subject id >>= k).Meets hostOnly ret
      (fun exit _ => LeavesUnder id exit) () := by
  rw [meets_bind, signCertificate]
  refine bind_hostOnly fun present => meets_ite (fun _ => ?_) fun _ => bind_hostOnly fun _ => ?_
  -- With the authority's key made or found, the rest is the same.
  all_goals
    refine bind_hostOnly fun _ => bind_hostOnly fun _ => bind_hostOnly fun output => ?_
    cases output with
    | error reason => exact bind_removeFiles rfl
    | ok out =>
      exact meets_ite (fun _ => bind_hostOnly fun _ => goes _) fun _ => bind_removeFiles rfl

theorem meets_handle {ctx : SkfContext} {params : Params} :
    (handle ctx params).Meets hostOnly (fun response _ => response.id = params.id)
      (fun exit _ => LeavesUnder params.id exit) () := by
  unfold handle
  refine bind_expect (fun csrStr _ => ?_) fun _ => rfl
  refine bind_orReply (fun csrBytes _ => ?_) fun rejection refused => ?_
  · refine bind_hostOnly fun clock => bind_unwrap (fun nanos _ => ?_) fun _ => trivial
    refine bind_hostOnly fun written => ?_
    cases written with
    | error reason => exact rfl
    | ok done =>
      refine bind_hostOnly fun subjectOutput => bind_signCertificate fun pem => ?_
      refine meets_ite (fun _ => ?_) fun _ => bind_removeFiles rfl
      split
      · exact meets_doubleCertificate
      · exact bind_removeFiles rfl
  · split at refused
    · cases refused
    · cases decoded : decodeBase64 ctx.platform.base64Error csrStr with
      | ok bytes => simp [decoded, Except.mapError] at refused
      | error reason =>
        simp only [decoded, Except.mapError, Except.error.injEq] at refused
        rw [← refused]
        rfl

end SkfService.IssueCertificate
