import SkfService.Failures.Verdicts

/-! The native provider tells the failures of its calls, each one under the function that failed. -/

set_option autoImplicit false

namespace SkfService

open Text Interaction Program SkfApi

variable {A : Type} {tolerates : Symbol → Bool} {symbol : Symbol}

theorem fromNative_tells {ret : ULONG} (failed : ret ≠ SAR_OK) (context : String) :
    (ProviderError.fromNative ret context).FromLibrary ∧
      (ProviderError.fromNative ret context).code = failureOf ret := by
  rw [failureOf_failed failed, ProviderError.fromNative]
  split
  · next missing =>
    rw [missing]
    exact ⟨trivial, rfl⟩
  · exact ⟨failed, rfl⟩

def Reports (ret : ULONG) (outcome : Except ProviderError A) : Prop :=
  Attempt.FromLibrary (some outcome) ∧ Attempt.failure (some outcome) = failureOf ret

theorem reports_checked (ret : ULONG) (name : String) (value : A) :
    Reports ret (checked ret name value) := by
  unfold Reports checked
  split
  · next succeeded => exact ⟨trivial, (failureOf_ok succeeded).symm⟩
  · next failed => exact fromNative_tells failed name

theorem reports_written (room : Nat) (name : String) (filled : Filled) :
    Reports filled.ret (NativeContainer.written room name filled) := by
  unfold Reports NativeContainer.written
  split
  · next failed => exact fromNative_tells failed name
  · next succeeded => exact ⟨trivial, (failureOf_ok (not_not.mp succeeded)).symm⟩

/-- Whatever the library does, the outcome tells of the one call that failed, or of none. -/
def Relayed (tolerates : Symbol → Bool) (symbol : Symbol) (p : Calls (Except ProviderError A)) :
    Prop :=
  p.Meets (apiVerdicts tolerates).monitor
    (fun outcome s =>
      Attempt.FromLibrary (some outcome) ∧ s =
        counted tolerates symbol (Attempt.failure (some outcome)))
    (fun _ _ => True) none

theorem relayed_outcome {ret : ULONG} {outcome : Except ProviderError A}
    (reports : Reports ret outcome) :
    Attempt.FromLibrary (some outcome) ∧
      counted tolerates symbol (failureOf ret) =
        counted tolerates symbol (Attempt.failure (some outcome)) :=
  ⟨reports.1, congrArg (counted tolerates symbol) reports.2.symm⟩

theorem relayed_call {op : SymbolOp} {outcome : op.Reply → Except ProviderError A}
    (reports : ∀ reply, Reports (op.code reply) (outcome reply)) :
    Relayed tolerates op.symbol (SkfApi.symbol op >>= fun reply => .done (outcome reply)) :=
  ⟨.inl rfl, fun reply _ => relayed_outcome (reports reply)⟩

/-- A name that is refused is no failure of a call. -/
theorem relayed_named {value context : String} {go : CString → Calls (Except ProviderError A)}
    (goes : ∀ name, Relayed tolerates symbol (go name)) :
    Relayed tolerates symbol (named value context go) := by
  unfold named NativeSkfProvider.cstring
  split
  · exact goes _
  · next refused =>
    split at refused
    · cases refused
    · cases refused
      exact ⟨trivial, (counted_none _ _).symm⟩

theorem advance_succeeded {op : SymbolOp} {reply : op.Reply} (succeeded : op.code reply = SAR_OK) :
    (apiVerdicts tolerates).monitor.advance none (.symbol op) reply = none := by
  have unfailing : counted tolerates op.symbol (failureOf (op.code reply)) = none := by
    rw [failureOf_ok succeeded, counted_none]
  exact unfailing

theorem relayed_filled {impl : Implementation Devices SkfApi} {ret : ULONG} {name : String}
    {value : A} :
    (implement impl (if ret ≠ SAR_OK then pure (.error (.fromNative ret name))
      else pure (.ok value))).Meets
      (apiVerdicts tolerates).monitor
      (fun outcome s => Attempt.FromLibrary (some outcome) ∧
          s = counted tolerates symbol (Attempt.failure (some outcome)))
      (fun _ _ => True) (counted tolerates symbol (failureOf ret)) := by
  by_cases failed : ret ≠ SAR_OK
  · rw [if_pos failed]
    exact relayed_outcome (fromNative_tells failed name)
  · rw [if_neg failed]
    exact relayed_outcome ⟨trivial, (failureOf_ok (not_not.mp failed)).symm⟩

theorem relayed_enumDevices (library : Library) (presentOnly : Bool) :
    Relayed tolerates .EnumDev
      ((NativeSkfProvider.enumDevices presentOnly).implement (devices library)) := by
  refine ⟨.inl rfl, fun sized _ => ?_⟩
  dsimp only [Program.ask, Bind.bind, Program.bind]
  by_cases failed : sized.ret ≠ SAR_OK
  · rw [if_pos failed]
    exact relayed_outcome (fromNative_tells failed _)
  · have succeeded : (SymbolOp.direct (.enumDev library presentOnly none)).code sized = SAR_OK :=
      not_not.mp failed
    rw [if_neg failed, advance_succeeded succeeded]
    -- The list is fetched by a second call of the same function.
    by_cases empty : sized.size = 0
    · rw [if_pos empty]
      exact ⟨trivial, (counted_none _ _).symm⟩
    · rw [if_neg empty, NativeSkfProvider.readNameList, if_neg empty]
      exact ⟨.inl rfl, fun filled _ => relayed_filled⟩

theorem relayed_deviceState (library : Library) (name : String) :
    Relayed tolerates .GetDevState
      ((NativeSkfProvider.deviceState name).implement (devices library)) := by
  unfold NativeSkfProvider.deviceState NativeSkfProvider.cstring
  cases CString.new name with
  | none => exact ⟨trivial, (counted_none _ _).symm⟩
  | some cName =>
    refine ⟨.inl rfl, fun answer _ => ?_⟩
    obtain ⟨ret, state⟩ := answer
    dsimp only [Program.ask, Bind.bind, Program.bind]
    by_cases succeeded : ret = SAR_OK
    · rw [if_pos succeeded]
      exact relayed_outcome ⟨trivial, (failureOf_ok succeeded).symm⟩
    · rw [if_neg succeeded]
      exact relayed_outcome (fromNative_tells succeeded _)

theorem relayed_waitForEvent (library : Library) (bufLen : Nat) :
    Relayed tolerates .WaitForDevEvent
      ((NativeSkfProvider.waitForEvent bufLen).implement (devices library)) := by
  refine ⟨.inl rfl, fun waited _ => ?_⟩
  obtain ⟨filled, event⟩ := waited
  exact relayed_filled

theorem relayed_verifyPin (application : Application) (pin : String) :
    (NativeApplication.verifyPin application pin).Meets (apiVerdicts tolerates).monitor
      (fun outcome s => PinOutcome.FromLibrary (some outcome) ∧
        s = counted tolerates .VerifyPIN (PinOutcome.failure (some outcome)))
          (fun _ _ => True) none := by
  unfold NativeApplication.verifyPin named NativeSkfProvider.cstring
  cases CString.new pin with
  | none => exact ⟨trivial, (counted_none _ _).symm⟩
  | some cPin => exact ⟨.inl rfl, fun answer _ => ⟨rfl, rfl⟩⟩

theorem relayed_randomBytes (device : Device) (len : Nat) :
    (NativeDevice.randomBytes device len).Meets (apiVerdicts tolerates).monitor
      (fun attempt s =>
        Attempt.FromLibrary attempt ∧ s = counted tolerates .GenRandom (Attempt.failure attempt))
      (fun _ _ => True) none := by
  refine meets_ite (fun _ => ?_) fun _ => ?_
  · exact ⟨trivial, (counted_none _ _).symm⟩
  · exact ⟨.inl rfl, fun generated _ => relayed_outcome (reports_checked _ _ _)⟩

theorem meets_drop (resource : Resource) (s : Option ULONG) :
    resource.drop.Meets (apiVerdicts tolerates).monitor (fun _ after => after = s)
      (fun _ _ => True) s := by
  refine meets_ite (fun _ => rfl) fun _ => ⟨.inr resource.release_releases, fun reply _ => ?_⟩
  exact or_unfailing (counted_releases resource.release_releases _)

theorem relayed_attempt {p : Calls (Except ProviderError A)} (told : Relayed tolerates symbol p) :
    (some <$> p).Meets (apiVerdicts tolerates).monitor
      (fun attempt s =>
        Attempt.FromLibrary attempt ∧ s = counted tolerates symbol (Attempt.failure attempt))
      (fun _ _ => True) none := by
  rw [map_eq_pure_bind, meets_bind]
  exact told

theorem relayed_provider (op : ProviderOp) :
    op.native.Meets (apiVerdicts tolerates).monitor
      (fun reply s => op.FromLibrary reply ∧ s = counted tolerates op.symbol (op.failure reply))
        (fun _ _ => True)
      none := by
  -- Apart from the list, whose size is asked for first, every method makes one call at most.
  cases op with
  | enumDevices library presentOnly =>
    exact relayed_attempt (relayed_enumDevices library presentOnly)
  | deviceState library name => exact relayed_attempt (relayed_deviceState library name)
  | waitForEvent library bufLen => exact relayed_attempt (relayed_waitForEvent library bufLen)
  | random device len => exact relayed_randomBytes device len
  | verifyPin application pin =>
    rw [ProviderOp.native, map_eq_pure_bind, meets_bind]
    exact relayed_verifyPin application pin
  | openDevice | openApplication | openContainer | createContainer | deleteContainer =>
    exact relayed_attempt (relayed_named fun name =>
      relayed_call fun reply => reports_checked _ _ _)
  | cancelWaitForEvent | beginDigest | beginDigestWithKey | containerType | importCertificate
  | signEcc | genEccKeyPair | genRsaKeyPair | setSymmKey | update =>
    exact relayed_attempt (relayed_call fun reply => reports_checked _ _ _)
  | signRsa | finalize | encrypt | decrypt =>
    exact relayed_attempt (relayed_call fun reply => reports_written _ _ _)
  | close resource =>
    refine (meets_drop resource none).mono (fun _ s kept => ?_) fun _ _ _ => trivial
    exact ⟨trivial, kept.trans (counted_none _ _).symm⟩

/-- The native provider and the table below it tell the same failure. -/
theorem native_tells (tolerates : Symbol → Bool) :
    Verdicts.Tell (verdicts tolerates) (apiVerdicts tolerates) nativeProvider where
  told op := by
    cases op with
    | session op | host op => exact ⟨.inl rfl, fun reply _ => ⟨trivial, rfl⟩⟩
    | vendor op => exact ⟨.inl rfl, fun reply _ => ⟨trivial, rfl⟩⟩
    | provider op => exact relayed_provider op
  concluded op code concludes := by
    cases op with
    | session op =>
      cases op with
      | invalidateDevice => exact ⟨.inr rfl, fun reply _ => ⟨trivial, rfl⟩⟩
      | _ => cases concludes
    | host op => cases concludes
    | vendor op => exact ⟨.inr concludes, fun reply _ => ⟨trivial, rfl⟩⟩
    | provider op =>
      cases op with
      | close resource =>
        exact (meets_drop resource _).mono (fun _ _ kept => ⟨trivial, kept⟩) fun _ _ _ => trivial
      | _ => cases concludes

end SkfService
