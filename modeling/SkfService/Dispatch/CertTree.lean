import Mathlib.Data.List.Perm.Basic
import SkfService.Dispatch.CertBytes
import SkfService.Dispatch.CertKeys
import SkfService.Interaction.Gives
import SkfService.Text.Encoded

/-! The certificate search over a tree of names, whatever vendor calls fail.

The tree is what the vendors present; a node is the list of the names that lead to it. -/

set_option autoImplicit false

namespace SkfService.CertTree

open Text Interaction Program Handler

inductive Call
  | library (node : List String)
  | size (node : List String)
  | list (node : List String)
  | open_ (node : List String)
  | exportSize (node : List String) (isSign : Bool)
  | export_ (node : List String) (isSign : Bool)
  deriving DecidableEq

def Call.node : Call → List String
  | .library node | .size node | .list node | .open_ node | .exportSize node _ | .export_ node _ =>
    node

/-- The names below each node, what the export of either certificate of a container leaves in a
buffer of the queried size (nothing where there is none), and the calls that fail. `loads` tells the
library files that load. -/
structure Tree where
  names : List String → List String
  certificate : List String → Bool → List UInt8
  fails : Call → Bool
  loads : String → Bool
  named : ∀ node, ∀ name ∈ names node, name ≠ "" ∧ Char.ofNat 0 ∉ name.toList

def providerCalls (provName : String) : List Call :=
  [.library [provName], .size [provName], .list [provName]]

def deviceCalls (provName devName : String) : List Call :=
  providerCalls provName ++ [.open_ [provName, devName], .size [provName, devName],
    .list [provName, devName]]

def applicationCalls (provName devName appName : String) : List Call :=
  deviceCalls provName devName ++
    [.open_ [provName, devName, appName], .size [provName, devName, appName],
      .list [provName, devName, appName]]

def containerCalls (provName devName appName contName : String) : List Call :=
  applicationCalls provName devName appName ++ [.open_ [provName, devName, appName, contName]]

structure Place where
  provider : String
  device : String
  application : String
  container : String
  isSign : Bool

namespace Place

def path (place : Place) : List String :=
  [place.provider, place.device, place.application, place.container]

def calls (place : Place) : List Call :=
  containerCalls place.provider place.device place.application place.container ++
    [.exportSize place.path place.isSign, .export_ place.path place.isSign]

/-- A call is on the way only to what lies below its node. -/
theorem node_prefix_path (place : Place) : ∀ call ∈ place.calls, call.node <+: place.path := by
  simp [calls, containerCalls, applicationCalls, deviceCalls, providerCalls, path, Call.node]

def listing (place : Place) (der : List UInt8) (certificate : String × String) : Json :=
  .ofFields [("key", .string (String.intercalate "/" (place.path ++ [certificate.1]))),
    ("value", .string certificate.2), ("type", .string (if place.isSign then "Sign" else "Enc")),
    ("cert", .string (Base64.encode der))]

end Place

namespace Tree

/-- The places of a container's certificates, and those below the nodes above it, in the order of
the traversal. -/
def placesIn (provName devName appName contName : String) : List Place :=
  [⟨provName, devName, appName, contName, true⟩, ⟨provName, devName, appName, contName, false⟩]

def applicationPlaces (tree : Tree) (provName devName appName : String) : List Place :=
  (tree.names [provName, devName, appName]).flatMap (placesIn provName devName appName)

def devicePlaces (tree : Tree) (provName devName : String) : List Place :=
  (tree.names [provName, devName]).flatMap (tree.applicationPlaces provName devName)

def providerPlaces (tree : Tree) (provName : String) : List Place :=
  (tree.names [provName]).flatMap (tree.devicePlaces provName)

def places (tree : Tree) (providers : List String) : List Place :=
  providers.flatMap tree.providerPlaces

def reached (tree : Tree) (place : Place) : Bool := place.calls.all fun call => !tree.fails call

def entry (ctx : SkfContext) (tree : Tree) (place : Place) : Option Json :=
  if tree.certificate place.path place.isSign = [] then none
  else (ctx.platform.parseCertificate (tree.certificate place.path place.isSign)).map
    (place.listing (tree.certificate place.path place.isSign))

end Tree

def covers (want : FindCertificates.Wanted) (place : Place) : Bool :=
  if place.isSign then want.sign else want.enc

namespace Tree

def shown (ctx : SkfContext) (tree : Tree) (want : FindCertificates.Wanted) : List Place :=
  (tree.places (ctx.config.libs.map Prod.fst)).filter fun place =>
    covers want place && tree.reached place

def listed (ctx : SkfContext) (tree : Tree) (want : FindCertificates.Wanted) : List Json :=
  (tree.shown ctx want).filterMap (tree.entry ctx)

def failing (tree : Tree) (call : Call) : Tree :=
  { tree with fails := fun other => tree.fails other || other = call }

def spelled (names : List String) : List UInt8 := names.flatMap fun name => utf8 name ++ [0]

/-- The answer to a query for the names below a node: a size that has room for them, then the names,
after which the vendor may fill in NULs. -/
def Lists (tree : Tree) (node : List String) : Option ULONG → Filled → Prop
  | none, reply => if tree.fails (.size node) = true then reply.ret ≠ SAR_OK
    else reply.ret = SAR_OK ∧ (spelled (tree.names node)).length ≤ reply.size.toNat
  | some capacity, reply => if tree.fails (.list node) = true then reply.ret ≠ SAR_OK
    else reply.ret = SAR_OK ∧ reply.size ≤ capacity ∧
      ∃ n, reply.memory.take reply.size.toNat = spelled (tree.names node) ++ List.replicate n 0

def Opens (tree : Tree) (node : List String) (ret : ULONG) : Prop :=
  if tree.fails (.open_ node) = true then ret ≠ SAR_OK else ret = SAR_OK

def Exports (tree : Tree) (node : List String) (isSign : Bool) : Option ULONG → Filled → Prop
  | none, reply => if tree.fails (.exportSize node isSign) = true then reply.ret ≠ SAR_OK
    else reply.ret = SAR_OK ∧ reply.size.toNat = (tree.certificate node isSign).length
  | some capacity, reply => if tree.fails (.export_ node isSign) = true then reply.ret ≠ SAR_OK
    else reply.ret = SAR_OK ∧ reply.size ≤ capacity ∧
      reply.memory.take capacity.toNat = tree.certificate node isSign

def Available (ctx : SkfContext) (tree : Tree) (provName : String) : Prop :=
  ∃ raw, ctx.config.rawPath provName ctx.platform.os = some raw ∧
    tree.loads (expandEnvVars ctx.platform.env raw) = true

/-- The replies of vendors that present the tree. What else a call may answer is free, and so are
the closing calls. -/
def Answers (ctx : SkfContext) (tree : Tree) : (op : Skf.Op) → Skf.Reply op → Prop
  | .host (.readCache name), cached =>
    (cached = true → tree.fails (.library [name]) = false) ∧
      (cached = false → (tree.fails (.library [name]) = false ↔ tree.Available ctx name))
  | .host (.loadLibrary path), loaded => loaded.isOk = tree.loads path
  | .vendor (.enumDev library _ buffer), reply => tree.Lists [library.providerAlias] buffer reply
  | .vendor (.connectDev library name), reply =>
    tree.Opens [library.providerAlias, name.text] reply.1
  | .vendor (.enumApplication device buffer), reply =>
    tree.Lists [device.library.providerAlias, device.name] buffer reply
  | .vendor (.openApplication device name), reply =>
    tree.Opens [device.library.providerAlias, device.name, name.text] reply.1
  | .vendor (.enumContainer application buffer), reply =>
    tree.Lists [application.device.library.providerAlias, application.device.name, application.name]
      buffer reply
  | .vendor (.openContainer application name), reply =>
    tree.Opens [application.device.library.providerAlias, application.device.name, application.name,
      name.text] reply.1
  | .vendor (.exportCertificate container isSign buffer), reply =>
    tree.Exports [container.application.device.library.providerAlias,
      container.application.device.name,
      container.application.name, container.name] isSign buffer reply
  | _, _ => True

end Tree

section search

variable {ctx : SkfContext} {tree : Tree} {want : FindCertificates.Wanted}
  {provName devName appName contName : String}

namespace Tree

def shows (ctx : SkfContext) (tree : Tree) (want : FindCertificates.Wanted) (place : Place) :
    List Json :=
  if covers want place && tree.reached place then (tree.entry ctx place).toList else []

theorem listed_eq_flatMap : tree.listed ctx want =
    (tree.places (ctx.config.libs.map Prod.fst)).flatMap (tree.shows ctx want) := by
  unfold listed shown
  induction tree.places (ctx.config.libs.map Prod.fst) with
  | nil => rfl
  | cons place places ih =>
    rw [List.flatMap_cons, ← ih, List.filter_cons, shows]
    split
    · rw [List.filterMap_cons]
      cases tree.entry ctx place <;> rfl
    · rfl

/-- Nothing is listed below a call that fails. -/
theorem shows_blocked {places : List Place} {call : Call} (fails : tree.fails call = true)
    (below : ∀ place ∈ places, call ∈ place.calls) : places.flatMap (tree.shows ctx want) = [] := by
  rw [List.flatMap_eq_nil_iff]
  intro place member
  have blocked : tree.reached place = false := by
    rw [reached, List.all_eq_false]
    exact ⟨call, below place member, by simp [fails]⟩
  rw [shows, blocked, Bool.and_false, if_neg Bool.false_ne_true]

def Clear (tree : Tree) (calls : List Call) : Prop := ∀ call ∈ calls, tree.fails call = false

theorem Clear.append {calls more : List Call} (clear : tree.Clear calls)
    (clearMore : tree.Clear more) :
    tree.Clear (calls ++ more) := List.forall_mem_append.mpr ⟨clear, clearMore⟩

section within

variable {place : Place}

theorem calls_container (member : place ∈ placesIn provName devName appName contName) :
    ∀ call ∈ containerCalls provName devName appName contName, call ∈ place.calls := by
  intro call above
  rcases List.mem_pair.mp member with rfl | rfl <;> exact List.mem_append_left _ above

theorem calls_application (member : place ∈ tree.applicationPlaces provName devName appName) :
    ∀ call ∈ applicationCalls provName devName appName, call ∈ place.calls := by
  obtain ⟨contName, -, inside⟩ := List.mem_flatMap.mp member
  exact fun call above => calls_container inside call (List.mem_append_left _ above)

theorem calls_device (member : place ∈ tree.devicePlaces provName devName) :
    ∀ call ∈ deviceCalls provName devName, call ∈ place.calls := by
  obtain ⟨appName, -, inside⟩ := List.mem_flatMap.mp member
  exact fun call above => calls_application inside call (List.mem_append_left _ above)

theorem calls_provider (member : place ∈ tree.providerPlaces provName) :
    ∀ call ∈ providerCalls provName, call ∈ place.calls := by
  obtain ⟨devName, -, inside⟩ := List.mem_flatMap.mp member
  exact fun call above => calls_device inside call (List.mem_append_left _ above)

end within

/-- The split at the NULs of a spelled list, with more of them behind, are the names and empty
pieces. -/
theorem splitOn_spelled {names : List String}
    (plain : ∀ name ∈ names, name ≠ "" ∧ Char.ofNat 0 ∉ name.toList) (n : Nat) :
    ((spelled names ++ List.replicate n 0).splitOn 0).filter (· ≠ []) = names.map utf8 := by
  have noNul {name : String} (plain : Char.ofNat 0 ∉ name.toList) : (0 : UInt8) ∉ utf8 name := by
    intro inside
    obtain ⟨c, member, same⟩ := ascii_of_mem_utf8 inside (by decide)
    have nul : c = Char.ofNat 0 := Char.toNat_inj.mp same
    exact plain (nul ▸ member)
  have nonempty {name : String} (some : name ≠ "") : utf8 name ≠ [] := by
    intro none
    have length := length_le_utf8 name
    rw [none] at length
    exact some (String.toList_eq_nil_iff.mp (List.eq_nil_of_length_eq_zero (Nat.le_zero.mp length)))
  -- Each name ends at its null character, and the padding yields empty pieces only.
  induction names with
  | nil =>
    induction n with
    | zero => rfl
    | succ n ih =>
      rw [List.replicate_succ]
      have first :=
        List.splitOn_append_cons_self_of_not_mem (a := (0 : UInt8)) List.not_mem_nil
          (List.replicate n 0)
      simp only [spelled, List.flatMap_nil, List.nil_append] at first ih ⊢
      rw [first, List.filter_cons_of_neg (by simp), ih]
  | cons name names ih =>
    obtain ⟨some, whole⟩ := plain name List.mem_cons_self
    have spell : spelled (name :: names) ++ List.replicate n 0 =
        utf8 name ++ 0 :: (spelled names ++ List.replicate n 0) := by simp [spelled]
    rw [spell, List.splitOn_append_cons_self_of_not_mem (noNul whole),
      List.filter_cons_of_pos (by simpa using nonempty some),
      ih fun other member => plain other (List.mem_cons_of_mem _ member)]
    rfl

theorem namesOf_spelled {filled : Filled} {node : List String} {n : Nat}
    (spelling : filled.memory.take filled.size.toNat =
      spelled (tree.names node) ++ List.replicate n 0) :
    namesOf filled = tree.names node := by
  rw [namesOf, spelling, splitOn_spelled (tree.named node), List.map_map]
  refine (List.map_congr_left fun name _ => ?_).trans (List.map_id _)
  exact fromUtf8Lossy_utf8 name

def found (tree : Tree) (node : List String) : List String :=
  if tree.fails (.size node) || tree.fails (.list node) then [] else tree.names node

theorem two_le_spelled {names : List String} (plain : ∀ name ∈ names, name ≠ "")
    (some : names ≠ []) :
    1 < (spelled names).length := by
  cases names with
  | nil => exact absurd rfl some
  | cons name names =>
    have characters := length_le_utf8 name
    have positive : 0 < name.toList.length := by
      rw [List.length_pos_iff, ne_eq, String.toList_eq_nil_iff]
      exact plain name List.mem_cons_self
    simp only [spelled, List.flatMap_cons, List.length_append, List.length_cons, List.length_nil]
    omega

theorem found_blocked {node : List String}
    (fails : tree.fails (.size node) = true ∨ tree.fails (.list node) = true) :
    tree.found node = [] := by
  rw [found, if_pos (Bool.or_eq_true_iff.mpr fails)]

theorem found_clear {node : List String} (clear : tree.Clear [.size node, .list node]) :
    tree.found node = tree.names node := by
  rw [found, clear _ (by simp), clear _ (by simp), Bool.or_false, if_neg Bool.false_ne_true]

theorem found_unnamed {node : List String} (none : tree.names node = []) :
    tree.found node = [] := by
  rw [found, none, ite_self]

/-- The search for the names below a node. `asked` is what the query for them is answered. -/
theorem gives_listed {query : Option ULONG → Handler Filled} (node : List String)
    (asked : ∀ buffer (k : Filled → Handler (List String)) value,
      (∀ reply, tree.Lists node buffer reply → (k reply).Gives (tree.Answers ctx) value) →
      (query buffer >>= k).Gives (tree.Answers ctx) value) :
    (FindCertificates.listed query).Gives (tree.Answers ctx) (tree.found node) := by
  unfold FindCertificates.listed
  refine asked none _ _ fun sized sizing => ?_
  cases sizeFails : tree.fails (.size node) with
  | true =>
    rw [Lists, if_pos sizeFails] at sizing
    rw [found_blocked (.inl sizeFails), if_neg fun both => sizing both.1]
    exact gives_done
  | false =>
    rw [Lists, sizeFails, if_neg Bool.false_ne_true] at sizing
    by_cases room : 1 < sized.size
    · rw [if_pos ⟨sizing.1, room⟩]
      refine asked _ _ _ fun filled filling => ?_
      cases listFails : tree.fails (.list node) with
      | true =>
        rw [Lists, if_pos listFails] at filling
        rw [found_blocked (.inr listFails), if_neg filling]
        exact gives_done
      | false =>
        rw [Lists, listFails, if_neg Bool.false_ne_true] at filling
        obtain ⟨succeeds, -, n, spelling⟩ := filling
        have clear : tree.Clear [.size node, .list node] := by simp [Clear, sizeFails, listFails]
        rw [if_pos succeeds, found_clear clear, namesOf_spelled spelling]
        exact gives_done
    · -- A size of at most one byte has room for no name.
      have none : tree.names node = [] := by
        by_contra some
        have long := two_le_spelled (fun name member => (tree.named node name member).1) some
        have short : ¬1 < sized.size.toNat := room
        omega
      rw [found_unnamed none, if_neg fun both => room both.2]
      exact gives_done

/-- The search below a node, where `places` are those below each of its names. -/
theorem gives_below {step : String → Handler (List Json)} {places : String → List Place}
    {node : List String}
    (within : ∀ place ∈ (tree.names node).flatMap places,
      .size node ∈ place.calls ∧ .list node ∈ place.calls)
    (each : ∀ name ∈ tree.names node, tree.Clear [.size node, .list node] →
      (step name).Gives (tree.Answers ctx) ((places name).flatMap (tree.shows ctx want))) :
    (collect step (tree.found node)).Gives (tree.Answers ctx)
      (((tree.names node).flatMap places).flatMap (tree.shows ctx want)) := by
  by_cases sizeFails : tree.fails (.size node) = true
  · rw [found_blocked (.inl sizeFails),
      shows_blocked sizeFails fun place member => (within place member).1]
    exact gives_done
  by_cases listFails : tree.fails (.list node) = true
  · rw [found_blocked (.inr listFails),
      shows_blocked listFails fun place member => (within place member).2]
    exact gives_done
  have clear : tree.Clear [.size node, .list node] := by
    simpa [Clear] using And.intro sizeFails listFails
  rw [found_clear clear, List.flatMap_assoc]
  exact gives_collect _ fun name member => each name member clear

theorem gives_cString {node : List String} {name : String} (member : name ∈ tree.names node)
    {A : Type} {k : CString → Handler A} {value : A}
    (then_ : ∀ text : CString, text.text = name → (k text).Gives (tree.Answers ctx) value) :
    (cString name >>= k).Gives (tree.Answers ctx) value := by
  have plain := (tree.named node name member).2
  have made : CString.new name = some ⟨name, plain⟩ := dif_pos plain
  rw [cString, made]
  exact then_ _ rfl

theorem reached_iff {place : Place} (clear : tree.Clear
    (containerCalls place.provider place.device place.application place.container)) :
    tree.reached place = true ↔ tree.fails (.exportSize place.path place.isSign) = false ∧
      tree.fails (.export_ place.path place.isSign) = false := by
  rw [reached, Place.calls, List.all_append, Bool.and_eq_true, List.all_eq_true]
  constructor
  · intro both
    simpa using both.2
  · intro both
    exact ⟨fun call member => by rw [clear call member]; rfl, by simpa using both⟩

def reported (ctx : SkfContext) (tree : Tree) (place : Place) : List Json :=
  if tree.reached place then (tree.entry ctx place).toList else []

theorem reported_blocked {place : Place} {call : Call} (fails : tree.fails call = true)
    (below : call ∈ place.calls) :
    tree.reported ctx place = [] := by
  have blocked : tree.reached place = false := by
    rw [reached, List.all_eq_false]
    exact ⟨call, below, by simp [fails]⟩
  rw [reported, blocked, if_neg Bool.false_ne_true]

/-- The key of a certificate joins the names on its path and its serial number. -/
theorem join_names (a b c d e : String) :
    a ++ "/" ++ b ++ "/" ++ c ++ "/" ++ d ++ "/" ++ e =
      String.intercalate "/" ([a, b, c, d] ++ [e]) := rfl

theorem gives_processCert {raw raw' raw'' : Nat} {isSign : Bool}
    (clear : tree.Clear (containerCalls provName devName appName contName)) :
    (FindCertificates.processCert ctx
      (provName ++ "/" ++ devName ++ "/" ++ appName ++ "/" ++ contName)
      ⟨⟨⟨⟨provName, none⟩, devName, raw⟩, appName, raw'⟩, contName, raw''⟩ isSign).Gives
        (tree.Answers ctx)
      (tree.reported ctx ⟨provName, devName, appName, contName, isSign⟩) := by
  unfold FindCertificates.processCert
  refine gives_ask_bind fun (sized : Filled) sizing => ?_
  change tree.Exports [provName, devName, appName, contName] isSign none sized at sizing
  -- A certificate is listed when both calls succeed; the first of them asks for its size.
  cases sizeFails : tree.fails (.exportSize [provName, devName, appName, contName] isSign) with
  | true =>
    rw [Exports, if_pos sizeFails] at sizing
    rw [reported_blocked sizeFails (by simp [Place.calls, Place.path]),
      if_neg fun both => sizing both.1]
    exact gives_done
  | false =>
    rw [Exports, sizeFails, if_neg Bool.false_ne_true] at sizing
    by_cases present : 0 < sized.size
    · rw [if_pos ⟨sizing.1, present⟩]
      refine gives_ask_bind fun (filled : Filled) filling => ?_
      change tree.Exports [provName, devName, appName, contName] isSign (some sized.size) filled
        at filling
      cases fails : tree.fails (.export_ [provName, devName, appName, contName] isSign) with
      | true =>
        rw [Exports, if_pos fails] at filling
        rw [reported_blocked fails (by simp [Place.calls, Place.path]), if_neg filling]
        exact gives_done
      | false =>
        rw [Exports, fails, if_neg Bool.false_ne_true] at filling
        obtain ⟨succeeds, -, held⟩ := filling
        have reached : tree.reached ⟨provName, devName, appName, contName, isSign⟩ = true :=
          (reached_iff clear).mpr ⟨sizeFails, fails⟩
        have certified : tree.certificate [provName, devName, appName, contName] isSign ≠ [] := by
          intro none
          rw [none] at sizing
          exact absurd (show 0 < sized.size.toNat from present) (by rw [sizing.2]; decide)
        have entered : tree.entry ctx ⟨provName, devName, appName, contName, isSign⟩ = _ :=
          if_neg certified
        rw [reported, if_pos reached, entered, if_pos succeeds, held]
        dsimp only [Place.path]
        cases ctx.platform.parseCertificate
          (tree.certificate [provName, devName, appName, contName] isSign) with
        | none => exact gives_done
        | some certificate =>
          rw [Option.map_some, Place.listing, Place.path, ← join_names]
          exact gives_done
    · -- A container without the certificate answers a size of zero.
      have none : tree.certificate [provName, devName, appName, contName] isSign = [] := by
        have zero : ¬0 < sized.size.toNat := present
        rw [sizing.2] at zero
        exact List.eq_nil_of_length_eq_zero (Nat.eq_zero_of_not_pos zero)
      have unlisted : tree.entry ctx ⟨provName, devName, appName, contName, isSign⟩ = .none :=
        if_pos none
      rw [reported, unlisted, Option.toList_none, ite_self, if_neg fun both => present both.2]
      exact gives_done

/-- A container's two certificates, each where it is asked for. -/
theorem shows_placesIn :
    (placesIn provName devName appName contName).flatMap (tree.shows ctx want) =
    (if want.sign then tree.reported ctx ⟨provName, devName, appName, contName, true⟩ else []) ++
      if want.enc then tree.reported ctx ⟨provName, devName, appName, contName, false⟩ else [] := by
  cases sign : want.sign <;> cases enc : want.enc <;>
    simp [placesIn, shows, reported, covers, sign, enc]

theorem gives_inContainer {raw raw' : Nat}
    (member : contName ∈ tree.names [provName, devName, appName])
    (clear : tree.Clear (applicationCalls provName devName appName)) :
    (FindCertificates.inContainer ctx want (provName ++ "/" ++ devName ++ "/" ++ appName)
      ⟨⟨⟨provName, none⟩, devName, raw⟩, appName, raw'⟩ contName).Gives (tree.Answers ctx)
      ((placesIn provName devName appName contName).flatMap (tree.shows ctx want)) := by
  unfold FindCertificates.inContainer
  refine gives_cString member fun cCont named => ?_
  refine gives_ask_bind fun (reply : ULONG × Nat) opening => ?_
  change tree.Opens [provName, devName, appName, cCont.text] reply.1 at opening
  rw [named] at opening
  obtain ⟨ret, raw''⟩ := reply
  dsimp only
  -- A container that cannot be opened shows nothing and hides nothing else.
  cases fails : tree.fails (.open_ [provName, devName, appName, contName]) with
  | true =>
    rw [Opens, if_pos fails] at opening
    rw [shows_blocked fails fun place inside => calls_container inside _ (by simp [containerCalls]),
      if_neg opening]
    exact gives_done
  | false =>
    rw [Opens, fails, if_neg Bool.false_ne_true] at opening
    have clear : tree.Clear (containerCalls provName devName appName contName) :=
      clear.append (by simpa [Clear] using fails)
    have processed (asked isSign : Bool) : (if asked then FindCertificates.processCert ctx
        (provName ++ "/" ++ devName ++ "/" ++ appName ++ "/" ++ contName)
        ⟨⟨⟨⟨provName, none⟩, devName, raw⟩, appName, raw'⟩, contName, raw''⟩ isSign
        else .done []).Gives
        (tree.Answers ctx)
        (if asked then tree.reported ctx ⟨provName, devName, appName, contName, isSign⟩
        else []) := by
      cases asked with
      | true => exact gives_processCert clear
      | false => exact gives_done
    rw [if_pos opening, shows_placesIn]
    simp only [bind_ite]
    refine gives_bind (processed want.sign true) (gives_bind (processed want.enc false) ?_)
    exact gives_ask_bind fun _ _ => gives_done

theorem gives_inApplication {raw : Nat} (member : appName ∈ tree.names [provName, devName])
    (clear : tree.Clear (deviceCalls provName devName)) :
    (FindCertificates.inApplication ctx want (provName ++ "/" ++ devName)
      ⟨⟨provName, none⟩, devName, raw⟩
      appName).Gives (tree.Answers ctx)
      ((tree.applicationPlaces provName devName appName).flatMap (tree.shows ctx want)) := by
  unfold FindCertificates.inApplication
  refine gives_cString member fun cApp named => ?_
  refine gives_ask_bind fun (reply : ULONG × Nat) opening => ?_
  change tree.Opens [provName, devName, cApp.text] reply.1 at opening
  rw [named] at opening
  obtain ⟨ret, raw'⟩ := reply
  dsimp only
  -- An application that cannot be opened takes its containers with it, and nothing else.
  cases fails : tree.fails (.open_ [provName, devName, appName]) with
  | true =>
    rw [Opens, if_pos fails] at opening
    rw [shows_blocked fails fun place inside =>
      calls_application inside _ (by simp [applicationCalls]),
      if_neg opening]
    exact gives_done
  | false =>
    rw [Opens, fails, if_neg Bool.false_ne_true] at opening
    have searched : (collect
        (FindCertificates.inContainer ctx want (provName ++ "/" ++ devName ++ "/" ++ appName)
        ⟨⟨⟨provName, none⟩, devName, raw⟩, appName, raw'⟩)
          (tree.found [provName, devName, appName])).Gives
        (tree.Answers ctx)
          ((tree.applicationPlaces provName devName appName).flatMap (tree.shows ctx want)) := by
      refine gives_below (fun place inside => ?_) fun contName member listing => ?_
      · have above := calls_application inside
        exact ⟨above _ (by simp [applicationCalls]), above _ (by simp [applicationCalls])⟩
      · exact gives_inContainer member (clear.append (List.forall_mem_cons.mpr ⟨fails, listing⟩))
    rw [if_pos opening]
    refine gives_bind (gives_listed [provName, devName, appName] fun _ _ _ each => each)
      (gives_bind searched ?_)
    exact gives_ask_bind fun _ _ => gives_done

theorem gives_inDevice (member : devName ∈ tree.names [provName])
    (clear : tree.Clear (providerCalls provName)) :
    (FindCertificates.inDevice ctx want ⟨provName, none⟩ provName devName).Gives (tree.Answers ctx)
      ((tree.devicePlaces provName devName).flatMap (tree.shows ctx want)) := by
  unfold FindCertificates.inDevice
  refine gives_cString member fun cDev named => ?_
  refine gives_ask_bind fun (reply : ULONG × Nat) opening => ?_
  change tree.Opens [provName, cDev.text] reply.1 at opening
  rw [named] at opening
  obtain ⟨ret, raw⟩ := reply
  dsimp only
  -- A device that cannot be opened takes its applications with it, and nothing else.
  cases fails : tree.fails (.open_ [provName, devName]) with
  | true =>
    rw [Opens, if_pos fails] at opening
    rw [shows_blocked fails fun place inside => calls_device inside _ (by simp [deviceCalls]),
      if_neg opening]
    exact gives_done
  | false =>
    rw [Opens, fails, if_neg Bool.false_ne_true] at opening
    have searched : (collect (FindCertificates.inApplication ctx want (provName ++ "/" ++ devName)
        ⟨⟨provName, none⟩, devName, raw⟩) (tree.found [provName, devName])).Gives (tree.Answers ctx)
        ((tree.devicePlaces provName devName).flatMap (tree.shows ctx want)) := by
      refine gives_below (fun place inside => ?_) fun appName member listing => ?_
      · have above := calls_device inside
        exact ⟨above _ (by simp [deviceCalls]), above _ (by simp [deviceCalls])⟩
      · exact gives_inApplication member (clear.append (List.forall_mem_cons.mpr ⟨fails, listing⟩))
    rw [if_pos opening]
    refine gives_bind (gives_listed [provName, devName] fun _ _ _ each => each)
      (gives_bind searched ?_)
    exact gives_ask_bind fun _ _ => gives_done

theorem gives_getApi {B : Type} {k : Except String Library → Handler B} {value : B}
    (there : tree.fails (.library [provName]) = false →
      (k (.ok ⟨provName, none⟩)).Gives (tree.Answers ctx) value)
    (missing : tree.fails (.library [provName]) = true →
      ∀ reason, (k (.error reason)).Gives (tree.Answers ctx) value) :
    (ctx.getApi provName >>= k).Gives (tree.Answers ctx) value := by
  -- A tree lists the libraries that fail: those that are not cached and cannot be loaded.
  have failing (unavailable : ¬tree.Available ctx provName)
      (exactly : tree.fails (.library [provName]) = false ↔ tree.Available ctx provName) :
      tree.fails (.library [provName]) = true := by
    rw [← Bool.not_eq_false, exactly]
    exact unavailable
  unfold SkfContext.getApi
  rw [bind_bind]
  refine gives_ask_bind fun (cached : Bool) reading => ?_
  obtain ⟨held, uncached⟩ := reading
  cases cached with
  | true => exact there (held rfl)
  | false =>
    dsimp only
    cases configured : ctx.config.rawPath provName ctx.platform.os with
    | none =>
      refine missing (failing ?_ (uncached rfl)) _
      rintro ⟨raw, found, -⟩
      rw [configured] at found
      cases found
    | some raw =>
      dsimp only
      rw [bind_bind]
      refine gives_ask_bind fun (loaded : Except String Unit) loading => ?_
      change loaded.isOk = tree.loads _ at loading
      cases loaded with
      | ok ready =>
        refine gives_ask_bind fun _ _ => there ((uncached rfl).mpr ⟨raw, configured, ?_⟩)
        rw [← loading]
        rfl
      | error reason =>
        refine missing (failing ?_ (uncached rfl)) _
        rintro ⟨other, found, loads⟩
        rw [configured] at found
        cases found
        rw [← loading] at loads
        cases loads

theorem gives_inProvider : (FindCertificates.inProvider ctx want provName).Gives (tree.Answers ctx)
    ((tree.providerPlaces provName).flatMap (tree.shows ctx want)) := by
  unfold FindCertificates.inProvider
  refine gives_getApi (fun there => ?_) fun fails reason => ?_
  · refine gives_bind (gives_listed [provName] fun _ _ _ each => each) ?_
    refine gives_below (fun place inside => ?_) fun devName member listing => ?_
    · have above := calls_provider inside
      exact ⟨above _ (by simp [providerCalls]), above _ (by simp [providerCalls])⟩
    · exact gives_inDevice member (List.forall_mem_cons.mpr ⟨there, listing⟩)
  · rw [shows_blocked fails fun place inside => calls_provider inside _ (by simp [providerCalls])]
    exact gives_done

theorem gives_handle (params : Params) :
    (FindCertificates.handle ctx params).Gives (tree.Answers ctx)
    (RpcResponse.ok (.array (tree.listed ctx (FindCertificates.wanted (params.optionalStr 0 ""))))
      params.id) := by
  unfold FindCertificates.handle
  rw [listed_eq_flatMap, places, List.flatMap_assoc]
  exact gives_bind (gives_collect _ fun provName _ => gives_inProvider) gives_done

theorem reached_failing (call : Call) (place : Place) :
    (tree.failing call).reached place = (tree.reached place && decide (call ∉ place.calls)) := by
  rw [Bool.eq_iff_iff, Bool.and_eq_true, decide_eq_true_eq]
  simp only [reached, failing, List.all_eq_true, Bool.not_eq_true', Bool.or_eq_false_iff,
    decide_eq_false_iff_not]
  constructor
  · intro both
    exact ⟨fun other member => (both other member).1, fun member => (both call member).2 rfl⟩
  · rintro ⟨clear, apart⟩ other member
    exact ⟨clear other member, fun same => apart (same ▸ member)⟩

/-- One more failing call takes away what lies behind it. -/
theorem listed_failing (call : Call) : (tree.failing call).listed ctx want =
    ((tree.shown ctx want).filter fun place => call ∉ place.calls).filterMap (tree.entry ctx) := by
  have shown : (tree.failing call).shown ctx want = (tree.shown ctx want).filter fun place =>
    call ∉ place.calls := by
    unfold Tree.shown
    rw [List.filter_filter]
    apply List.filter_congr
    intro place _
    rw [reached_failing]
    grind
  rw [listed, shown]
  rfl

/-- Without a filter both kinds are listed. -/
theorem listed_perm : (tree.listed ctx (FindCertificates.wanted "")).Perm
    (tree.listed ctx (FindCertificates.wanted "Sign") ++
      tree.listed ctx (FindCertificates.wanted "Enc")) := by
  have all : FindCertificates.wanted "" = ⟨true, true⟩ := rfl
  have sign : FindCertificates.wanted "Sign" = ⟨true, false⟩ := rfl
  have enc : FindCertificates.wanted "Enc" = ⟨false, true⟩ := rfl
  have either := List.filter_append_perm (fun place : Place => place.isSign)
    (tree.shown ctx (FindCertificates.wanted ""))
  rw [all] at either
  have signs : ((tree.shown ctx ⟨true, true⟩).filter fun place => place.isSign) =
      tree.shown ctx ⟨true, false⟩ := by
    unfold shown
    rw [List.filter_filter]
    apply List.filter_congr
    intro place _
    cases kind : place.isSign <;> simp [covers, kind]
  have encs : ((tree.shown ctx ⟨true, true⟩).filter fun place => !place.isSign) =
      tree.shown ctx ⟨false, true⟩ := by
    unfold shown
    rw [List.filter_filter]
    apply List.filter_congr
    intro place _
    cases kind : place.isSign <;> simp [covers, kind]
  rw [signs, encs] at either
  rw [all, sign, enc, listed, listed, listed, ← List.filterMap_append]
  exact (either.filterMap _).symm

end Tree

end search

/-- Whatever the vendors present and whatever calls fail, a search lists exactly the certificates
that are asked for and reached, in the order of the traversal; a failing call takes away what lies
below its node; and without a filter the two kinds are listed. -/
theorem find_certificates_lists {ctx : SkfContext} {tree : Tree} {params : Params}
    {trace : List (Event Skf)} {outcome : Except Exit RpcResponse}
    (ran : (FindCertificates.handle ctx params).Finishes trace outcome)
    (answers : ∀ event ∈ trace, tree.Answers ctx event.op event.reply) :
    outcome = .ok (.ok
      (.array (tree.listed ctx (FindCertificates.wanted (params.optionalStr 0 "")))) params.id) ∧
      (∀ call want, (tree.failing call).listed ctx want =
        ((tree.shown ctx want).filter fun place => call ∉ place.calls).filterMap (tree.entry ctx)) ∧
      (∀ place : Place, ∀ call ∈ place.calls, call.node <+: place.path) ∧
      (tree.listed ctx (FindCertificates.wanted "")).Perm
        (tree.listed ctx (FindCertificates.wanted "Sign") ++
          tree.listed ctx (FindCertificates.wanted "Enc")) :=
  ⟨(Tree.gives_handle params).finishes ran answers, fun _ _ =>
    Tree.listed_failing _, Place.node_prefix_path,
    Tree.listed_perm⟩

namespace Siblings

/-! Three containers of one application: the first one has both certificates, the second one does
not open, and the third one has no certificate for encryption. -/

def ctx : SkfContext :=
  { ShorterThanQueried.ctx with
    config := { (SkfContext.serving []).config with
      libs := [("GM3000", [("linux", "native/libgm3000.so")])] } }

def shut : Call := .open_ ["GM3000", "A", "A", "B"]

def tree : Tree where
  names :=
    fun node => if node.length ≤ 2 then ["A"] else if node.length = 3 then ["A", "B", "C"] else []
  certificate :=
    fun node isSign =>
      if isSign || node.getLast? == some "A" then ShorterThanQueried.certificate else []
  fails := fun call => call == shut
  loads := fun _ => true
  named := by
    intro node name member
    split at member
    · rw [List.mem_singleton.mp member]
      decide
    · split at member
      · rcases List.mem_cons.mp member with rfl | member
        · decide
        · rcases List.mem_cons.mp member with rfl | member
          · decide
          · rw [List.mem_singleton.mp member]
            decide
      · cases member

def params : Params := ⟨[], none⟩

theorem plainA : Char.ofNat 0 ∉ "A".toList := by decide

theorem plainB : Char.ofNat 0 ∉ "B".toList := by decide

theorem plainC : Char.ofNat 0 ∉ "C".toList := by decide

def device : Device := ⟨⟨"GM3000", none⟩, "A", 1⟩
def application : Application := ⟨device, "A", 2⟩
def containerA : Container := ⟨application, "A", 3⟩
def containerC : Container := ⟨application, "C", 4⟩

def sized : Filled := ⟨SAR_OK, 2, []⟩
def filled : Filled := ⟨SAR_OK, 2, [65, 0]⟩
def certSized : Filled := ⟨SAR_OK, 193, []⟩
def certFilled : Filled := ⟨SAR_OK, 193, ShorterThanQueried.certificate⟩

def trace : List (Event Skf) := [
  ⟨.host (.readCache "GM3000"), true⟩,
  ⟨.vendor (.enumDev ⟨"GM3000", none⟩ true none), sized⟩,
  ⟨.vendor (.enumDev ⟨"GM3000", none⟩ true (some 2)), filled⟩,
  ⟨.vendor (.connectDev ⟨"GM3000", none⟩ ⟨"A", plainA⟩), (SAR_OK, 1)⟩,
  ⟨.vendor (.enumApplication device none), sized⟩,
  ⟨.vendor (.enumApplication device (some 2)), filled⟩,
  ⟨.vendor (.openApplication device ⟨"A", plainA⟩), (SAR_OK, 2)⟩,
  ⟨.vendor (.enumContainer application none), ⟨SAR_OK, 6, []⟩⟩,
  ⟨.vendor (.enumContainer application (some 6)), ⟨SAR_OK, 6, [65, 0, 66, 0, 67, 0]⟩⟩,
  ⟨.vendor (.openContainer application ⟨"A", plainA⟩), (SAR_OK, 3)⟩,
  ⟨.vendor (.exportCertificate containerA true none), certSized⟩,
  ⟨.vendor (.exportCertificate containerA true (some 193)), certFilled⟩,
  ⟨.vendor (.exportCertificate containerA false none), certSized⟩,
  ⟨.vendor (.exportCertificate containerA false (some 193)), certFilled⟩,
  ⟨.vendor (.closeContainer containerA), SAR_OK⟩,
  ⟨.vendor (.openContainer application ⟨"B", plainB⟩), (0x0A000001, 0)⟩,
  ⟨.vendor (.openContainer application ⟨"C", plainC⟩), (SAR_OK, 4)⟩,
  ⟨.vendor (.exportCertificate containerC true none), certSized⟩,
  ⟨.vendor (.exportCertificate containerC true (some 193)), certFilled⟩,
  ⟨.vendor (.exportCertificate containerC false none), ⟨SAR_OK, 0, []⟩⟩,
  ⟨.vendor (.closeContainer containerC), SAR_OK⟩,
  ⟨.vendor (.closeApplication application), SAR_OK⟩,
  ⟨.vendor (.disConnectDev device), SAR_OK⟩]

def entry (contName : String) (isSign : Bool) : Json :=
  Place.listing ⟨"GM3000", "A", "A", contName, isSign⟩ ShorterThanQueried.certificate ("1", "CN=A")

def entries : List Json := [entry "A" true, entry "A" false, entry "C" true]

set_option maxRecDepth 4000 in
theorem ran :
    (FindCertificates.handle ctx params).Finishes trace (.ok (.ok (.array entries) none)) := by
  unfold trace
  refine .step _ (.step _ (.step _ ?_))
  refine .step _ (.step _ (.step _ ?_))
  refine .step _ (.step _ (.step _ ?_))
  refine .step _ ?_
  refine .step _ (.step _ ?_)
  refine .step _ (.step _ (.step _ ?_))
  refine .step _ ?_
  refine .step _ ?_
  refine .step _ (.step _ ?_)
  refine .step _ (.step _ ?_)
  refine .step _ (.step _ ?_)
  exact .refl _

theorem succeeds {call : Call} (other : call ≠ shut) : ¬tree.fails call = true := by
  intro fails
  exact other (beq_iff_eq.mp fails)

theorem lists_sized {node : List String} (above : node.length ≤ 2) :
    tree.Lists node none sized := by
  have names : tree.names node = ["A"] := if_pos above
  rw [Tree.Lists, names, if_neg (succeeds Call.noConfusion)]
  exact ⟨rfl, by decide⟩

theorem lists_filled {node : List String} (above : node.length ≤ 2) :
    tree.Lists node (some 2) filled := by
  have names : tree.names node = ["A"] := if_pos above
  rw [Tree.Lists, names, if_neg (succeeds Call.noConfusion)]
  exact ⟨rfl, by decide, 0, by decide⟩

theorem opens {node : List String} (other : node ≠ ["GM3000", "A", "A", "B"]) :
    tree.Opens node SAR_OK := by
  rw [Tree.Opens, if_neg (succeeds fun same => other (Call.open_.inj same))]

theorem exports_sized {node : List String} {isSign : Bool}
    (there : tree.certificate node isSign = ShorterThanQueried.certificate) :
    tree.Exports node isSign none certSized := by
  rw [Tree.Exports, if_neg (succeeds Call.noConfusion), there]
  exact ⟨rfl, ShorterThanQueried.certificate_length.symm⟩

theorem exports_filled {node : List String} {isSign : Bool}
    (there : tree.certificate node isSign = ShorterThanQueried.certificate) :
    tree.Exports node isSign (some 193) certFilled := by
  rw [Tree.Exports, if_neg (succeeds Call.noConfusion), there]
  exact ⟨rfl, Nat.le_refl _, List.take_of_length_le
    (Nat.le_of_eq ShorterThanQueried.certificate_length)⟩

theorem answers : ∀ event ∈ trace, tree.Answers ctx event.op event.reply := by
  have cached : tree.Answers ctx (.host (.readCache "GM3000")) true :=
    ⟨fun _ => rfl, fun uncached => by cases uncached⟩
  have containers_sized : tree.Lists ["GM3000", "A", "A"] none ⟨SAR_OK, 6, []⟩ := by
    rw [Tree.Lists, if_neg (succeeds Call.noConfusion)]
    exact ⟨rfl, by decide⟩
  have containers_filled :
      tree.Lists ["GM3000", "A", "A"] (some 6) ⟨SAR_OK, 6, [65, 0, 66, 0, 67, 0]⟩ := by
    rw [Tree.Lists, if_neg (succeeds Call.noConfusion)]
    exact ⟨rfl, by decide, 0, by decide⟩
  have refused : tree.Opens ["GM3000", "A", "A", "B"] 0x0A000001 := by
    have fails : tree.fails (.open_ ["GM3000", "A", "A", "B"]) = true := beq_self_eq_true _
    rw [Tree.Opens, if_pos fails]
    decide
  have without : tree.Exports ["GM3000", "A", "A", "C"] false none ⟨SAR_OK, 0, []⟩ := by
    rw [Tree.Exports, if_neg (succeeds Call.noConfusion)]
    exact ⟨rfl, rfl⟩
  simp only [trace, List.forall_mem_cons]
  refine ⟨cached, lists_sized (by decide), lists_filled (by decide), opens (by decide),
    lists_sized (by decide),
    lists_filled (by decide), opens (by decide), containers_sized, containers_filled,
    opens (by decide), ?_⟩
  refine ⟨exports_sized rfl, exports_filled rfl, exports_sized rfl, exports_filled rfl,
    trivial, refused,
    opens (by decide), exports_sized rfl, exports_filled rfl, without, trivial, trivial, trivial,
    List.forall_mem_nil _⟩

end Siblings

/-- Both certificates of the first container and the one of the third are listed, in that order. -/
theorem find_certificates_siblings :
    (FindCertificates.handle Siblings.ctx Siblings.params).Finishes Siblings.trace
        (.ok (.ok (.array Siblings.entries) none)) ∧
      Siblings.tree.listed Siblings.ctx (FindCertificates.wanted "") = Siblings.entries ∧
        Siblings.entries.Perm (Siblings.tree.listed Siblings.ctx (FindCertificates.wanted "Sign") ++
          Siblings.tree.listed Siblings.ctx (FindCertificates.wanted "Enc")) := by
  obtain ⟨answered, -, -, kinds⟩ := find_certificates_lists Siblings.ran Siblings.answers
  have listed : Siblings.tree.listed Siblings.ctx (FindCertificates.wanted "") = Siblings.entries :=
    (Json.array.inj (RpcResponse.mk.inj (Except.ok.inj answered)).2.1).symm
  rw [listed] at kinds
  exact ⟨Siblings.ran, listed, kinds⟩

end SkfService.CertTree
