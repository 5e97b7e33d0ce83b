import SkfService.Csr.RoundTrip
import SkfService.Interaction.Once

/-! The RSA keys that `CreatePKCS10` survives: with a bit length outside of the modulus array, or
one that leaves the modulus empty, the task unwinds after the key was generated. -/

set_option autoImplicit false

namespace SkfService

open Text Asn1 Interaction Program Handler

def Op.rsaKey : (op : Op) → op.Reply → Option RsaPublicKey
  | .provider (.genRsaKeyPair _ _), some (.ok key) => some key
  | _, _ => none

/-- Remembers the generated key, and allows no second one. -/
def keyed : Monitor Skf (Option RsaPublicKey) := once Op.rsaKey

/-- How a run may end that has generated this key: as the key's bit length decides. -/
def Decided (exit : Exit) (s : Option RsaPublicKey) : Prop :=
  ∀ key, s = some key → ((rsaBlob key).Sliceable → Settles exit) ∧
    (¬(rsaBlob key).Sliceable → exit = .panic .outOfRange)

/-- A run with a result has generated no key that panics. -/
def Survived (s : Option RsaPublicKey) : Prop := ∀ key, s = some key → (rsaBlob key).Sliceable

theorem decided_none (exit : Exit) : Decided exit none := by
  intro key impossible
  cases impossible

section unkeyed

variable {A : Type} {device : Device} {container : Container} {id : Option Json}
  {s : Option RsaPublicKey}

theorem keyed_scoped : Scoped keyed Decided none where
  allowed t op scopes := by
    right
    intro reply
    cases op with
    | provider op => cases op <;> first | rfl | cases scopes
    | session | host => rfl
    | vendor => cases scopes
  quiet t op reply scopes := by
    cases op with
    | provider op => cases op <;> first | rfl | cases scopes
    | session | host => rfl
    | vendor => cases scopes
  refuses _ _ := decided_none _
  panics _ := decided_none _

/-- The steps after the key only panic where a provider call does. -/
def Steady (p : Handler A) (s : Option RsaPublicKey) : Prop :=
  p.Meets keyed (fun _ t => t = s) (fun exit t => t = s ∧ Settles exit) s

theorem steady_settled {B : Type} {op : ProviderOp} {x : op.Reply → Attempt B}
    {k : op.Reply → Except ProviderError B → Handler A}
    (unkeyed : ∀ reply, Op.rsaKey (.provider op) reply = none)
    (goes : ∀ reply result, Steady (k reply result) s) :
    Steady (provider op >>= fun reply => settled (x reply) >>= k reply) s := by
  refine bind_call (.inr unkeyed) fun reply _ => ?_
  rw [keyed, once.advance_quiet (unkeyed reply)]
  exact bind_settled (fun result _ => goes reply result) fun _ => ⟨rfl, settles_unwound⟩

theorem steady_beginDigest (eccKey : Option EccPublicKey) :
    Steady (CreatePKCS10.beginDigest device eccKey id) s := by
  unfold CreatePKCS10.beginDigest
  cases eccKey with
  | none =>
    refine steady_settled (fun _ => rfl) fun _ result => ?_
    cases result with
    | error e => exact ⟨rfl, settles_reply _⟩
    | ok raw => exact rfl
  | some key =>
    refine steady_settled (fun _ => rfl) fun _ result => ?_
    cases result with
    | error e => exact ⟨rfl, settles_reply _⟩
    | ok raw => exact rfl

theorem steady_digestTbs (digest : Digest) (tbs : List UInt8) :
    Steady (CreatePKCS10.digestTbs digest tbs id) s := by
  refine steady_settled (fun _ => rfl) fun _ result => ?_
  cases result with
  | error e => exact ⟨rfl, settles_reply _⟩
  | ok updated =>
    refine steady_settled (fun _ => rfl) fun _ result => ?_
    cases result with
    | error e => exact ⟨rfl, settles_reply _⟩
    | ok hash => exact rfl

theorem steady_signDigest (hash : List UInt8) :
    Steady (CreatePKCS10.signDigest container false hash id) s := by
  refine steady_settled (fun _ => rfl) fun _ result => ?_
  cases result with
  | error e => exact ⟨rfl, settles_reply _⟩
  | ok signature => exact rfl

theorem Steady.bind {B : Type} {p : Handler B} {k : B → Handler A}
    {ret : A → Option RsaPublicKey → Prop} {exits : Exit → Option RsaPublicKey → Prop}
    (steady : Steady p s) (ends : ∀ exit, Settles exit → exits exit s)
    (goes : ∀ value, (k value).Meets keyed ret exits s) : (p >>= k).Meets keyed ret exits s := by
  rw [meets_bind]
  refine steady.mono (fun value t same => ?_) fun exit t left => ?_
  · subst same
    exact goes value
  · obtain ⟨rfl, settles⟩ := left
    exact ends exit settles

theorem survived_none : Survived none := by
  intro key impossible
  cases impossible

theorem decided_generateKey (isEcc : Bool) (keyLength : UInt32)
    {k : List UInt8 × Option EccPublicKey → Handler A} {ret : A → Option RsaPublicKey → Prop}
    (goes : ∀ value t, Survived t → (isEcc = true → t = none) →
      (k value).Meets keyed ret Decided t) :
    (CreatePKCS10.generateKey container isEcc keyLength id >>= k).Meets keyed ret Decided none := by
  rw [meets_bind, CreatePKCS10.generateKey]
  cases isEcc with
  | true =>
    refine bind_call (.inr fun _ => rfl) fun reply _ =>
      bind_settled (fun result settled => ?_) fun _ => decided_none _
    subst settled
    cases result with
    | error e => exact decided_none _
    | ok key => exact goes _ none survived_none fun _ => rfl
  | false =>
    refine bind_call (.inl rfl) fun reply _ =>
      bind_settled (fun result settled => ?_) fun unwound => ?_
    · subst settled
      cases result with
      | error e => exact decided_none _
      | ok key =>
        -- From here the monitor holds the key, and the encoder is the only step that may panic on
        -- it.
        refine bind_unwrap (fun spki built => ?_) fun failed => ?_
        · have sliceable : (rsaBlob key).Sliceable := by
            rw [← buildRsaSpki_isSome_iff, built]
            rfl
          refine goes _ (some key) ?_ fun impossible => by cases impossible
          intro other same
          cases same
          exact sliceable
        · intro other same
          cases same
          refine ⟨fun sliceable => ?_, fun _ => rfl⟩
          rw [← buildRsaSpki_isSome_iff, failed] at sliceable
          cases sliceable
    · subst unwound
      exact decided_none _

theorem Survived.decided {exit : Exit} (survived : Survived s) (settles : Settles exit) :
    Decided exit s := by
  intro key same
  exact ⟨fun _ => settles, fun outside => absurd (survived key same) outside⟩

theorem decided_signDigest {isEcc : Bool} {hash : List UInt8} {k : List UInt8 → Handler A}
    {ret : A → Option RsaPublicKey → Prop} (survived : Survived s)
    (eccFree : isEcc = true → s = none) (goes : ∀ value, (k value).Meets keyed ret Decided s) :
    (CreatePKCS10.signDigest container isEcc hash id >>= k).Meets keyed ret Decided s := by
  cases isEcc with
  | false => exact (steady_signDigest hash).bind (fun _ => survived.decided) goes
  | true =>
    obtain rfl := eccFree rfl
    rw [meets_bind]
    refine bind_call (.inr fun _ => rfl) fun reply _ =>
      bind_settled (fun result _ => ?_) fun _ => decided_none _
    cases result with
    | error e => exact decided_none _
    | ok signature =>
      refine bind_unwrap (fun r _ => bind_unwrap (fun rDer _ => bind_unwrap (fun sHalf _ =>
        bind_unwrap (fun sDer _ => ?_) fun _ => decided_none _) fun _ => decided_none _) fun _ =>
          decided_none _) fun _ => decided_none _
      exact (meets_done _).mpr (goes _)

theorem decided_withKey (ctx : SkfContext) (subject keyType : String) (keyLength : UInt32) :
    (CreatePKCS10.withKey ctx device container subject keyType keyLength id).Meets keyed
      (fun _ t => Survived t)
      Decided none := by
  unfold CreatePKCS10.withKey
  dsimp only
  generalize (decide (keyType = "SM2") || decide (keyType = "ECC")) = isEcc
  refine decided_generateKey isEcc keyLength fun value t survived eccFree => ?_
  obtain ⟨spki, eccKey⟩ := value
  dsimp only
  refine (steady_beginDigest eccKey).bind (fun _ => survived.decided) fun digest => ?_
  refine Scoped.closing keyed_scoped.allowed keyed_scoped.quiet ?_
  refine (steady_digestTbs digest _).bind (fun _ => survived.decided) fun hash => ?_
  refine decided_signDigest survived eccFree fun sigBits => ?_
  exact bind_call (.inr fun _ => rfl) fun _ _ => survived

end unkeyed

theorem decided_handle (ctx : SkfContext) (params : Params) (lang : Language) :
    (CreatePKCS10.handle ctx params lang).Meets keyed (fun _ t => Survived t) Decided none := by
  apply keyed_scoped.createPKCS10
  intro device container subject _
  apply decided_withKey

theorem reply_nonempty (op : Op) : Nonempty op.Reply := by
  have filled : Filled := ⟨0, 0, []⟩
  have info : DevInfo :=
    ⟨⟨0, 0⟩, [], [], [], [], ⟨0, 0⟩, ⟨0, 0⟩, [], 0, 0, 0, 0, 0, 0, 0, 0, [], []⟩
  cases op with
  | session op => cases op <;> first | exact ⟨default⟩ | exact ⟨.error .Unknown⟩
  | provider op => cases op <;> exact ⟨default⟩
  | vendor op =>
    cases op <;> first | exact ⟨filled⟩ | exact ⟨(filled, 0)⟩ | exact ⟨(0, info)⟩ | exact ⟨default⟩
  | host op => cases op <;> first | exact ⟨.error ""⟩ | exact ⟨default⟩

theorem finishes_some {A : Type} (p : Handler A) : ∃ trace outcome, p.Finishes trace outcome :=
  finishes_total (S := Unit) (fun s op => (s, Classical.choice (reply_nonempty op))) () p

/-- Once the key of a call is there, every continuation answers, and its encoder succeeds, just for
the keys of 8 to 2055 bits. -/
theorem rsa_key_returns_iff {ctx : SkfContext} {params : Params} {lang : Language}
    {front : List (Event Skf)} {container : Container} {bits : ULONG} {key : RsaPublicKey}
    {rest : Handler RpcResponse}
    (reached : Reaches (CreatePKCS10.handle ctx params lang)
      (front ++ [⟨.provider (.genRsaKeyPair container bits), some (.ok key)⟩]) rest) :
    ((∀ trace why, rest.Finishes trace (.error (.panic why)) → why = .callUnwound) ↔
        8 ≤ key.bitLen.toNat ∧ key.bitLen.toNat < 2056) ∧
      ((buildRsaSpki (rsaBlob key)).isSome ↔ 8 ≤ key.bitLen.toNat ∧ key.bitLen.toNat < 2056) := by
  obtain ⟨allows, met⟩ := (decided_handle ctx params lang).reaches reached (once.possible none _)
  -- The trace asks for one key pair, so that the key seen is the one in question.
  have seen : keyed.follow none
      (front ++ [⟨.provider (.genRsaKeyPair container bits), some (.ok key)⟩]) = some key :=
    once.follow_of_mem allows (List.mem_append_right _ (List.mem_singleton_self _)) rfl
  rw [seen] at met
  have ends {trace : List (Event Skf)} {exit : Exit} (ran : rest.Finishes trace (.error exit)) :
      Decided exit (some key) := by
    obtain ⟨stays, left⟩ := met.reaches ran (once.possible _ trace)
    rw [keyed, (once.follow_some stays).1] at left
    exact left
  refine ⟨⟨fun survives => ?_, fun sliceable trace why ran => ?_⟩,
    buildRsaSpki_isSome_iff (rsaBlob key)⟩
  · by_contra outside
    -- Some run goes on from here: it survives or leaves with the slice out of range.
    obtain ⟨trace, outcome, ran⟩ := finishes_some rest
    cases outcome with
    | ok response =>
      obtain ⟨stays, survived⟩ := met.reaches ran (once.possible _ trace)
      rw [keyed, (once.follow_some stays).1] at survived
      exact outside (survived key rfl)
    | error exit =>
      obtain rfl := (ends ran key rfl).2 outside
      cases survives trace .outOfRange ran
  · exact (ends ran key rfl).1 sliceable why rfl

namespace Oversized

/-! A request for a key of 4096 bits, which the provider reports as the client asked for it. -/

def device : Device := ⟨⟨"GM3000", some 0⟩, "dev", 1⟩
def container : Container := ⟨⟨device, "app", 2⟩, "c1", 3⟩
def key : RsaPublicKey := ⟨0, 4096, List.replicate 256 0x33, [1, 0, 1, 0]⟩
def params : Params :=
  ⟨[.string "GM3000", .string "dev", .string "app", .string "CN=Test", .string "RSA",
    .number (.unsigned 4096),
    .string "c1"], none⟩

def front : List (Event Skf) :=
  [⟨.provider (.openDevice ⟨"GM3000", some 0⟩ "dev"), some (.ok 1)⟩,
    ⟨.provider (.openApplication device "app"), some (.ok 2)⟩,
    ⟨.session (.authorize ⟨"GM3000", "dev", "app"⟩), (0, .ok ())⟩,
    ⟨.provider (.createContainer ⟨device, "app", 2⟩ "c1"), some (.ok 3)⟩]

def generated : Event Skf := ⟨.provider (.genRsaKeyPair container 4096), some (.ok key)⟩

def closed : List (Event Skf) :=
  [⟨.provider (.close (.container container)), ()⟩,
    ⟨.provider (.close (.application ⟨device, "app", 2⟩)), ()⟩,
    ⟨.provider (.close (.device device)), ()⟩]

theorem upper :
    (SkfContext.serving []).platform.toUppercase (params.optionalStr 4 "SM2") = "RSA" := by
  decide

theorem unsliceable : buildRsaSpki (rsaBlob key) = none := by
  rw [← Option.not_isSome_iff_eq_none, buildRsaSpki_isSome_iff]
  exact fun sliceable => absurd sliceable.2 (by decide)

theorem ran :
    (CreatePKCS10.handle (.serving []) params .EN).Finishes (front ++ [generated] ++ closed)
    (.error (.panic .outOfRange)) := by
  unfold front
  apply Reaches.step
  apply Reaches.step
  apply Reaches.step
  apply Reaches.step
  rw [upper]
  apply Reaches.step
  dsimp only [Program.bind, Handler.settled]
  rw [done_bind]
  dsimp only
  rw [unsliceable]
  apply Reaches.step
  apply Reaches.step
  apply Reaches.step
  exact Reaches.refl _

end Oversized

theorem rsa_key_returns_oversized :
    ∃ rest, Reaches (CreatePKCS10.handle (.serving []) Oversized.params .EN)
        (Oversized.front ++ [Oversized.generated]) rest ∧
      ¬∀ trace why, rest.Finishes trace (.error (.panic why)) → why = .callUnwound := by
  obtain ⟨rest, reached, -⟩ := Reaches.cut Oversized.ran
  exact ⟨rest, reached, fun survives =>
    absurd ((rsa_key_returns_iff reached).1.mp survives).2 (by decide)⟩

/-- The generated key unwinds the request. -/
theorem oversized_key_unwinds :
    ∃ params, ∃ trace, Oversized.generated ∈ trace ∧
      (CreatePKCS10.handle (.serving []) params .EN).Finishes trace (.error (.panic .outOfRange)) :=
  ⟨Oversized.params, _, List.mem_append_left _
    (List.mem_append_right _ (List.mem_singleton.mpr rfl)), Oversized.ran⟩

end SkfService
