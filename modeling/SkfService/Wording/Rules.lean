import SkfService.Interaction.Alike
import SkfService.Dispatch.Device

/-! What the session's language may change: the message of a response. -/

set_option autoImplicit false

namespace SkfService

open Text Interaction Program

/-- Two responses that say the same to a program, whatever they say to a person. -/
structure RpcResponse.SameButMessage (one two : RpcResponse) : Prop where
  error : one.error = two.error
  result : one.result = two.result
  id : one.id = two.id

def Exit.SameButMessage : Exit → Exit → Prop
  | .reply one, .reply two => one.SameButMessage two
  | .panic why, .panic why' => why = why'
  | _, _ => False

namespace RpcResponse.SameButMessage

variable {one : RpcResponse}

theorem refl (response : RpcResponse) : response.SameButMessage response := ⟨rfl, rfl, rfl⟩

theorem err (code : Int32) (message message' : String) (id : Option Json) :
    (RpcResponse.err code message id).SameButMessage (.err code message' id) :=
  ⟨rfl, rfl, rfl⟩

theorem loadLibFailed (code : Int32) (reason : String) (lang lang' : Language) (id : Option Json) :
    (loadLibFailed code reason lang id).SameButMessage (loadLibFailed code reason lang' id) :=
  err _ _ _ _

theorem loadFailedLocalized (reason : String) (lang lang' : Language) (id : Option Json) :
    (loadFailedLocalized reason lang id).SameButMessage (loadFailedLocalized reason lang' id) :=
  err _ _ _ _

theorem nativeOr (e : ProviderError) (message message' : ULONG → String) (lang lang' : Language)
    (id : Option Json) :
    (nativeOr e message lang id).SameButMessage (nativeOr e message' lang' id) := by
  cases e with
  | Native code context => exact err _ _ _ _
  | _ => exact loadLibFailed _ _ _ _ _

theorem nativeFailure (e : ProviderError) (message message' : ULONG → String) (id : Option Json) :
    (nativeFailure e message id).SameButMessage (nativeFailure e message' id) := by
  unfold SkfService.nativeFailure
  cases nativeCode e with
  | some code => exact err _ _ _ _
  | none => exact refl _

theorem concluded {A : Type} (outcome : Except ProviderError A) (result : A → Json)
    (message message' : ULONG → String) (id : Option Json) :
    (concluded outcome result message id).SameButMessage
      (concluded outcome result message' id) := by
  cases outcome with
  | ok value => exact refl _
  | error e => exact nativeFailure _ _ _ _

theorem codeReply (ret : ULONG) (message message' : ULONG → String) (id : Option Json) :
    (codeReply ret message id).SameButMessage (codeReply ret message' id) := by
  unfold SkfService.codeReply
  split
  · exact refl _
  · exact err _ _ _ _

end RpcResponse.SameButMessage

/-- The same steps with related values at the end, and early replies that differ in their message
only. -/
abbrev Reworded {A : Type} (values : A → A → Prop) (p q : Handler A) : Prop :=
  Alike values Exit.SameButMessage p q

/-- Two branches a client can only tell apart by their messages. -/
abbrev Handler.SameButMessage (p q : Handler RpcResponse) : Prop :=
  Reworded RpcResponse.SameButMessage p q

namespace Reworded

open Handler

variable {A B : Type} {values : A → A → Prop} {onward : B → B → Prop} {p q : Handler A}
  {k k' : A → Handler B}

theorem exits_refl (exit : Exit) : exit.SameButMessage exit := by
  cases exit with
  | reply response => exact .refl response
  | panic why => exact rfl

/-- A program that does not know the language. -/
theorem same (p : Handler A) : Reworded Eq p p := .refl (fun _ => rfl) exits_refl p

theorem branch (p : Handler RpcResponse) : p.SameButMessage p := .refl .refl exits_refl p

theorem after (p : Handler A) (goes : ∀ value, Reworded onward (k value) (k' value)) :
    Reworded onward (p >>= k) (p >>= k') := by
  apply (same p).bind
  intro value value' equal
  subst equal
  exact goes value

theorem andThen (steps : Reworded Eq p q) (goes : ∀ value, Reworded onward (k value) (k' value)) :
    Reworded onward (p >>= k) (q >>= k') := by
  apply steps.bind
  intro value value' equal
  subst equal
  exact goes value

theorem ite {c : Prop} [Decidable c] {p' q' : Handler A} (yes : c → Reworded values p p')
    (no : ¬c → Reworded values q q') :
    Reworded values (if c then p else q) (if c then p' else q') := by
  split
  · next holds => exact yes holds
  · next fails => exact no fails

theorem replies {one two : RpcResponse} (related : one.SameButMessage two) :
    Reworded values (reply one : Handler A) (reply two) :=
  .stop related

theorem answers {one two : RpcResponse} (related : one.SameButMessage two) :
    Handler.SameButMessage (.done one) (.done two) :=
  .done related

theorem expect (found : Option A) {one two : RpcResponse} (related : one.SameButMessage two) :
    Reworded Eq (Handler.expect found one) (Handler.expect found two) := by
  cases found with
  | some value => exact .done rfl
  | none => exact .stop related

theorem orReply (read : Except String A) {one two : String → RpcResponse}
    (related : ∀ reason, (one reason).SameButMessage (two reason)) :
    Reworded Eq (Handler.orReply (read.mapError one)) (Handler.orReply (read.mapError two)) := by
  cases read with
  | ok value => exact .done rfl
  | error reason => exact .stop (related reason)

theorem apiOr (ctx : SkfContext) (name : String) {one two : String → RpcResponse}
    (related : ∀ reason, (one reason).SameButMessage (two reason)) :
    Reworded Eq (apiOr ctx name one) (apiOr ctx name two) := by
  apply after
  intro found
  cases found with
  | ok api => exact .done rfl
  | error reason => exact replies (related reason)

theorem loadedApi (ctx : SkfContext) (name : String) (lang lang' : Language) (id : Option Json) :
    Reworded Eq (loadedApi ctx name lang id) (loadedApi ctx name lang' id) := by
  apply andThen (orReply _ fun reason => .loadLibFailed _ _ _ _ _)
  intro path
  exact same _

theorem resolveOr (ctx : SkfContext) (name : String) {one two : String → RpcResponse}
    (related : ∀ reason, (one reason).SameButMessage (two reason)) :
    Reworded Eq (resolveOr ctx name one) (resolveOr ctx name two) := by
  apply after
  intro found
  cases found with
  | ok library => exact .done rfl
  | error reason => exact replies (related reason)

theorem enumerated (query : Option ULONG → Handler Filled) (release : Handler Unit)
    (sizeFailed sizeFailed' listFailed listFailed' : String) (id : Option Json) :
    Handler.SameButMessage (enumerated query release sizeFailed listFailed id)
      (enumerated query release sizeFailed' listFailed' id) := by
  apply after
  intro sized
  apply ite
  · intro _
    apply after
    intro _
    exact ite (fun _ => answers (.refl _)) fun _ => answers (.err _ _ _ _)
  · intro _
    apply after
    intro filled
    apply after
    intro _
    exact ite (fun _ => answers (.refl _)) fun _ => answers (.err _ _ _ _)

section scopes

variable {library : Library} {provName devName appName contName : String} {id : Option Json}

theorem withDevice {body body' : Device → Handler A}
    (bodies : ∀ device, Reworded values (body device) (body' device)) :
    Reworded values (withDevice library provName devName id body)
      (withDevice library provName devName id body') := by
  apply after
  intro device
  exact (bodies device).ensuring (.refl (fun _ => trivial) exits_refl _)

theorem withApplication {device : Device} {failed : ProviderError → Handler Application}
    {body body' : Application → Handler A}
    (bodies : ∀ application, Reworded values (body application) (body' application)) :
    Reworded values (withApplication device appName failed body)
      (withApplication device appName failed body') := by
  apply after
  intro application
  exact (bodies application).ensuring (.refl (fun _ => trivial) exits_refl _)

theorem withContainer {application : Application} {body body' : Container → Handler A}
    (bodies : ∀ container, Reworded values (body container) (body' container)) :
    Reworded values (withContainer application contName id body)
      (withContainer application contName id body') := by
  apply after
  intro attempt
  apply after
  intro opened
  cases opened with
  | ok raw => exact (bodies _).ensuring (.refl (fun _ => trivial) exits_refl _)
  | error e => exact replies (.refl _)

theorem withDeviceApplication {body body' : Application → Handler A}
    (bodies : ∀ application, Reworded values (body application) (body' application)) :
    Reworded values (withDeviceApplication library provName devName appName id body)
      (withDeviceApplication library provName devName appName id body') := by
  apply withDevice
  intro device
  exact withApplication bodies

theorem withAuthorized {body body' : Application → Handler A}
    (bodies : ∀ application, Reworded values (body application) (body' application)) :
    Reworded values (withAuthorized library provName devName appName id body)
      (withAuthorized library provName devName appName id body') := by
  apply withDeviceApplication
  intro application
  exact after _ fun _ => bodies application

theorem withGrantedContainer {body body' : Container → Handler A}
    (bodies : ∀ container, Reworded values (body container) (body' container)) :
    Reworded values (withGrantedContainer library provName devName appName contName id body)
      (withGrantedContainer library provName devName appName contName id body') := by
  apply withAuthorized
  intro application
  exact withContainer bodies

end scopes

end Reworded
end SkfService
