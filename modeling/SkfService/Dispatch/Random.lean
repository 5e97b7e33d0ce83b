import SkfService.Streams.Requests

/-! `GenerateRandom` on a device of the native provider. The requested length is the length of the
buffer, and its lower 32 bits are what the vendor is told. -/

set_option autoImplicit false

namespace SkfService

open Text Interaction Program Handler

/-- The sizes there is memory for. Nothing is allocated for an empty buffer. -/
structure Memory where
  has : Nat → Bool
  empty : has 0 = true

def ISIZE_MAX : Nat := 9223372036854775807

/-- What a call of `SKF_GenRandom` leaves: its code, and the bytes it has written from the start of
the buffer. -/
structure Generated where
  ret : ULONG
  written : List UInt8

abbrev Generator := ULONG → Generated

def Generator.Exact (genRandom : Generator) : Prop :=
  ∀ told, (genRandom told).ret = SAR_OK → (genRandom told).written.length = told.toNat

def overwrite (buf written : List UInt8) : List UInt8 := written ++ buf.drop written.length

/-- `NativeDevice::random`. A capacity overflow unwinds, and without memory the process ends and
nothing comes back. -/
def NativeDevice.random (memory : Memory) (genRandom : Generator) (len : Nat) :
    Option (Attempt (List UInt8)) :=
  if ISIZE_MAX < len then some none
  else if memory.has len then
    let generated := genRandom (.ofNat len)
    if generated.ret = SAR_OK then
      some (some (.ok (overwrite (.replicate len 0) generated.written)))
    else some (some (.error (.fromNative generated.ret "GenRandom")))
  else none

def GenerateRandom.conclude (lang : Language) (id : Option Json) :
    Except ProviderError (List UInt8) → RpcResponse
  | .ok bytes => .ok (.string (Base64.encode bytes)) id
  | .error e => nativeOr e (fun _ => lang.pick "生成随机数失败" "GenRandom failed") lang id

section random

variable {memory : Memory} {genRandom : Generator} {params : Params} {lang : Language}
  {handle : String} {len : UInt64} {guard : Device}

theorem yields_generateRandom {reply : Attempt (List UInt8)} {response : RpcResponse}
    (named : params.str 0 = some handle) (asked : params.u64 1 = some len) :
    Yields (GenerateRandom.handle params lang)
        [⟨.session (.device handle), .ok guard⟩, ⟨.provider (.random guard len.toNat), reply⟩]
          response ↔
      ∃ result, reply = some result ∧ response = GenerateRandom.conclude lang params.id result := by
  rw [GenerateRandom.handle, named, asked]
  constructor
  · intro ran
    obtain ⟨found, rest, same, ran⟩ := yields_session ran
    cases same
    obtain ⟨answered, rest, same, ran⟩ := yields_provider ran
    cases same
    obtain ⟨result, rfl, ran⟩ := yields_settled ran
    refine ⟨result, rfl, ?_⟩
    cases result with
    | ok bytes => exact (yields_done ran).2
    | error e => exact (yields_done ran).2
  · rintro ⟨result, rfl, rfl⟩
    apply Or.inl
    apply Reaches.step
    apply Reaches.step
    cases result with
    | ok bytes => exact Reaches.refl _
    | error e => exact Reaches.refl _

theorem conclude_error {code : ULONG} (refused : code ≠ SAR_OK) (id : Option Json) :
    (GenerateRandom.conclude lang id (.error (.fromNative code "GenRandom"))).error ≠ 0 := by
  rw [GenerateRandom.conclude, ProviderError.fromNative]
  split
  · have missing : (-5 : Int32) ≠ 0 := by decide
    exact missing
  · intro zero
    apply refused
    exact congrArg Int32.toUInt32 zero

def GenerateRandom.Answers (genRandom : Generator) (len : UInt64) (response : RpcResponse) : Prop :=
  response.error ≠ 0 ∨ ∃ text bytes,
    response.result = .string text ∧ Base64.decode text = some bytes ∧
    bytes.length = len.toNat ∧ bytes = (genRandom (.ofNat len.toNat)).written

/-- In a buffer that was allocated, the vendor has written every byte if it was told the whole
length. -/
theorem answers_buffer_iff (exact : genRandom.Exact)
    (accepted : (genRandom (.ofNat len.toNat)).ret = SAR_OK) (id : Option Json) :
    GenerateRandom.Answers genRandom len (GenerateRandom.conclude lang id
        (.ok (overwrite (.replicate len.toNat 0) (genRandom (.ofNat len.toNat)).written))) ↔
      len.toNat < 4294967296 := by
  have filled := exact _ accepted
  have told : (UInt32.ofNat len.toNat).toNat = len.toNat % 4294967296 := UInt32.toNat_ofNat'
  rw [told] at filled
  unfold GenerateRandom.Answers
  generalize (genRandom (.ofNat len.toNat)).written = written at filled
  generalize len.toNat = length at filled
  constructor
  · rintro (failed | ⟨text, bytes, returned, decoded, full, rfl⟩)
    · exact absurd rfl failed
    · rw [full] at filled
      omega
  · intro small
    have whole : written.length = length := by omega
    have buffer : overwrite (.replicate length 0) written = written := by
      rw [overwrite, List.drop_eq_nil_of_le, List.append_nil]
      rw [List.length_replicate]
      omega
    rw [buffer]
    exact .inr ⟨_, written, rfl, Base64.decode_encode written, whole, rfl⟩

def GenerateRandom.Served (memory : Memory) (genRandom : Generator) (params : Params)
    (lang : Language) (handle : String) (guard : Device) (len : UInt64) : Prop :=
  ∃ reply response, NativeDevice.random memory genRandom len.toNat = some reply ∧
    Yields (GenerateRandom.handle params lang)
      [⟨.session (.device handle), .ok guard⟩, ⟨.provider (.random guard len.toNat), reply⟩]
        response ∧
    GenerateRandom.Answers genRandom len response

/-- Without an allocation, nothing the request waits for comes back. -/
theorem random_unallocated {size : Nat} {result : Except ProviderError (List UInt8)}
    (native : NativeDevice.random memory genRandom size = some (some result)) :
    size ≤ ISIZE_MAX ∧ memory.has size = true := by
  unfold NativeDevice.random at native
  split at native
  · cases native
  · next fits =>
    split at native
    · next held => exact ⟨Nat.le_of_not_lt fits, held⟩
    · cases native

theorem random_allocated {size : Nat} (fits : size ≤ ISIZE_MAX) (held : memory.has size = true) :
    NativeDevice.random memory genRandom size = some (some
      (if (genRandom (.ofNat size)).ret = SAR_OK then .ok
        (overwrite (.replicate size 0) (genRandom (.ofNat size)).written)
      else .error (.fromNative (genRandom (.ofNat size)).ret "GenRandom"))) := by
  rw [NativeDevice.random, if_neg (Nat.not_lt.mpr fits), if_pos held]
  dsimp only
  split <;> rfl

/-- The request is served just where the buffer can be allocated, and either its length is below
2^32 or the vendor refuses what is left of it. -/
theorem generate_random_iff (exact : genRandom.Exact) (named : params.str 0 = some handle)
    (asked : params.u64 1 = some len) :
    GenerateRandom.Served memory genRandom params lang handle guard len ↔
      len.toNat ≤ ISIZE_MAX ∧ memory.has len.toNat = true ∧
        (len.toNat < 4294967296 ∨ (genRandom (.ofNat len.toNat)).ret ≠ SAR_OK) := by
  constructor
  · rintro ⟨reply, response, native, ran, answers⟩
    obtain ⟨result, rfl, rfl⟩ := (yields_generateRandom named asked).mp ran
    obtain ⟨fits, held⟩ := random_unallocated native
    refine ⟨fits, held, ?_⟩
    rw [random_allocated fits held, Option.some.injEq, Option.some.injEq] at native
    subst native
    by_cases accepted : (genRandom (.ofNat len.toNat)).ret = SAR_OK
    · rw [if_pos accepted] at answers
      exact .inl ((answers_buffer_iff exact accepted params.id).mp answers)
    · exact .inr accepted
  · rintro ⟨fits, held, served⟩
    refine ⟨_, _, random_allocated fits held,
      (yields_generateRandom named asked).mpr ⟨_, rfl, rfl⟩, ?_⟩
    by_cases accepted : (genRandom (.ofNat len.toNat)).ret = SAR_OK
    · rw [if_pos accepted]
      exact (answers_buffer_iff exact accepted params.id).mpr
        (served.resolve_right fun refused => refused accepted)
    · rw [if_neg accepted]
      exact .inl (conclude_error accepted params.id)

end random

namespace Randomness

/-! A generator that writes the same byte everywhere, on a host with memory for anything. -/

def memory : Memory := ⟨fun _ => true, rfl⟩
def genRandom : Generator := fun told => ⟨SAR_OK, .replicate told.toNat 0xA5⟩
def guard : Device := ⟨⟨"GM3000", some 0⟩, "dev", 1⟩
def params (len : UInt64) : Params := ⟨[.string "dev-1", .number (.unsigned len)], none⟩

theorem accepted (told : ULONG) : (genRandom told).ret = SAR_OK := rfl

theorem exact : genRandom.Exact := by
  intro told _
  exact List.length_replicate

end Randomness

theorem generate_random_sixteen :
    GenerateRandom.Served Randomness.memory Randomness.genRandom
      (Randomness.params 16) .EN "dev-1" Randomness.guard 16 :=
  (generate_random_iff Randomness.exact rfl rfl).mpr ⟨by decide, rfl, .inl (by decide)⟩

/-- Sixteen bytes beyond 2^32, the vendor is told sixteen, and a success carries zeros. -/
theorem generate_random_zeros :
    ¬GenerateRandom.Served Randomness.memory Randomness.genRandom
      (Randomness.params 4294967312) .EN "dev-1"
      Randomness.guard 4294967312 := by
  rintro ⟨reply, response, native, ran, answers⟩
  have named : (Randomness.params 4294967312).str 0 = some "dev-1" := rfl
  have asked : (Randomness.params 4294967312).u64 1 = some 4294967312 := rfl
  obtain ⟨result, rfl, rfl⟩ := (yields_generateRandom named asked).mp ran
  obtain ⟨fits, held⟩ := random_unallocated native
  rw [random_allocated fits held, Option.some.injEq, Option.some.injEq] at native
  subst native
  rw [if_pos (Randomness.accepted _)] at answers
  exact absurd ((answers_buffer_iff Randomness.exact (Randomness.accepted _) none).mp answers)
    (by decide)

end SkfService
