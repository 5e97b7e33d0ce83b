import SkfService.Provider.GuardAccounts

/-! One step of a thread keeps the accounts of the guards. -/

set_option autoImplicit false

namespace SkfService.Native

section steps

variable {log : List Entry} {guards after : List Guard} {gate : Option Nat}
  {front back : List (List Instr)} {thread thread' : List Instr} {entry : Entry}

theorem closings_append (log : List Entry) (entry : Entry) :
    closings (log ++ [entry]) = closings log ++ entry.happened.closing?.toList := by
  cases found : entry.happened.closing? <;> simp [closings, found]

theorem endings_append (log : List Entry) (entry : Entry) :
    endings (log ++ [entry]) = endings log ++ entry.happened.ending?.toList := by
  cases found : entry.happened.ending? <;> simp [endings, found]

theorem getElem?_moved (i : Nat) : (front ++ thread' :: back)[i]? =
    if i = front.length then some thread' else (front ++ thread :: back)[i]? := by
  rcases Nat.lt_trichotomy i front.length with before | rfl | behind
  · rw [if_neg (by omega), List.getElem?_append_left before, List.getElem?_append_left before]
  · simp
  · rw [if_neg (by omega), List.getElem?_append_right (by omega),
      List.getElem?_append_right (by omega), List.getElem?_cons, List.getElem?_cons,
      if_neg (by omega), if_neg (by omega)]

theorem moved (found : (front ++ thread :: back)[front.length]? = some thread') :
    thread = thread' := by
  simpa using found

/-- A log that ends with anything but a close has its closes before the end. -/
theorem closed_earlier {first last : List Entry} {by' n : Nat}
    (quiet : entry.happened.closing? = none)
    (same : log ++ [entry] = first ++ ⟨by', .closed n⟩ :: last) :
    ∃ last', log = first ++ ⟨by', .closed n⟩ :: last' := by
  rcases List.eq_nil_or_concat last with rfl | ⟨last', final, rfl⟩
  · obtain ⟨-, tail⟩ := List.append_inj' same rfl
    cases tail
    cases quiet
  · rw [List.concat_eq_append, ← List.cons_append, ← List.append_assoc] at same
    obtain ⟨whole, -⟩ := List.append_inj' same rfl
    exact ⟨last', whole⟩

/-- An entry that closes nothing keeps the order, where a new guard is on one that has not been
closed. -/
theorem Ordered.quiet (ordered : Ordered log guards) (quiet : entry.happened.closing? = none)
    (known : ∀ (c : Nat) (guard : Guard), after[c]? = some guard → (∃ earlier : Guard,
      guards[c]? = some earlier ∧ guard.parent = earlier.parent ∧ guard.raw = earlier.raw) ∨ ∀ n,
        guard.parent = some n → n ∉ closings log) : Ordered (log ++ [entry]) after := by
  intro first by' n last same c guard found parent raw
  obtain ⟨last', whole⟩ := closed_earlier quiet same
  rcases known c guard found with ⟨earlier, there, parent', raw'⟩ | unclosed
  · exact ordered first by' n last' whole c earlier there (parent' ▸ parent) (raw' ▸ raw)
  · have member : n ∈ closings log := by
      rw [whole, closings]
      simp [Happened.closing?]
    exact absurd member (unclosed n parent)

theorem Ordered.next (ordered : Ordered log guards)
    (last : ∀ n, entry.happened = .closed n → ∀ (c : Nat) (guard : Guard), guards[c]? = some guard →
      guard.parent = some n → guard.raw ≠ 0 → c ∈ closings log) :
    Ordered (log ++ [entry]) guards := by
  intro first by' n rest same c guard found parent raw
  rcases List.eq_nil_or_concat rest with rfl | ⟨rest', final, rfl⟩
  · obtain ⟨rfl, tail⟩ := List.append_inj' same rfl
    cases tail
    exact last n rfl c guard found parent raw
  · rw [List.concat_eq_append, ← List.cons_append, ← List.append_assoc] at same
    obtain ⟨whole, -⟩ := List.append_inj' same rfl
    exact ordered first by' n rest' whole c guard found parent raw

theorem Ordered.kept (ordered : Ordered log guards) (quiet : entry.happened.closing? = none) :
    Ordered (log ++ [entry]) guards :=
  ordered.quiet quiet fun _ guard found => .inl ⟨guard, found, rfl, rfl⟩

theorem Ordered.modify {f : Guard → Guard} {m : Nat} (ordered : Ordered log guards)
    (quiet : entry.happened.closing? = none)
    (kept : ∀ guard, (f guard).parent = guard.parent ∧ (f guard).raw = guard.raw) :
    Ordered (log ++ [entry]) (guards.modify m f) := by
  refine ordered.quiet quiet fun c guard found => .inl ?_
  rw [List.getElem?_modify] at found
  cases there : guards[c]? with
  | none =>
    rw [there] at found
    cases found
  | some earlier =>
    rw [there] at found
    by_cases same : m = c
    · simp only [same, if_true, Option.map_eq_map, Option.map_some, Option.some.injEq] at found
      subst found
      exact ⟨earlier, rfl, kept earlier⟩
    · simp only [same, if_false, Option.map_eq_map, Option.map_some, Option.some.injEq] at found
      subst found
      exact ⟨earlier, rfl, rfl, rfl⟩

/-- The threads that did not move keep their shape, whether or not the gate changed hands. -/
theorem Sound.others (sound : Sound log ⟨guards, gate, front ++ thread :: back⟩)
    {gate' : Option Nat} (here : Shape after (gate' == some front.length) thread')
    (ext : Extends guards after)
    (kept : ∀ other ∈ front ++ back, ∀ instr ∈ other, ∀ n, instr.borrows = some n →
      boxes guards n ≤ boxes after n)
    (elsewhere : ∀ i, i ≠ front.length → (gate' == some i) = (gate == some i)) :
    ∀ i other, (front ++ thread' :: back)[i]? = some other →
      Shape after (gate' == some i) other := by
  intro i other found
  have moved := @getElem?_moved front back thread thread' i
  rw [moved] at found
  by_cases same : i = front.length
  · rw [if_pos same] at found
    cases found
    rw [same]
    exact here
  · rw [if_neg same] at found
    rw [elsewhere i same]
    refine (sound.shapes i other found).mono ext (kept other ?_)
    rcases Nat.lt_or_ge i front.length with before | behind
    · rw [List.getElem?_append_left before] at found
      exact List.mem_append_left _ (List.mem_of_getElem? found)
    · rw [List.getElem?_append_right behind, List.getElem?_cons, if_neg (by omega)] at found
      exact List.mem_append_right _ (List.mem_of_getElem? found)

theorem closing?_quiet (quiet : entry.happened.ending? = none) :
    entry.happened.closing? = none := by
  cases same : entry.happened <;> rw [same] at quiet <;> first | rfl | cases quiet

theorem Sound.same (sound : Sound log ⟨guards, gate, front ++ thread :: back⟩) {gate' : Option Nat}
    (quiet : entry.happened.ending? = none)
    (here : Shape guards (gate' == some front.length) thread')
    (drops : ∀ n, thread'.count (.dropArc n) = thread.count (.dropArc n))
    (closes : ∀ n, thread'.count (.close n) = thread.count (.close n))
    (holder : ∀ i, gate' = some i → i < (front ++ thread' :: back).length)
    (elsewhere : ∀ i, i ≠ front.length → (gate' == some i) = (gate == some i)) :
    Sound (log ++ [entry]) ⟨guards, gate', front ++ thread' :: back⟩ := by
  have silent := closing?_quiet quiet
  refine ⟨?_, holder, ?_, ?_, ?_, sound.ordered.kept silent⟩
  · exact sound.others here (extends_refl guards) (fun _ _ _ _ _ _ => Nat.le_refl _) elsewhere
  · intro n
    have counted := sound.strong n
    rw [pending_append] at counted ⊢
    rw [drops n]
    exact counted
  · intro n
    have counted := sound.ended n
    rw [pending_append] at counted ⊢
    rw [closes n, endings_append, quiet]
    simpa using counted
  · intro n
    rw [closings_append, endings_append, silent, quiet]
    simpa using sound.told n

theorem Sound.shape (sound : Sound log ⟨guards, gate, front ++ thread :: back⟩) :
    Shape guards (gate == some front.length) thread :=
  sound.shapes front.length thread (by simp)

theorem Sound.holder_moved (sound : Sound log ⟨guards, gate, front ++ thread :: back⟩) (i : Nat)
    (held : gate = some i) :
    i < (front ++ thread' :: back).length := by
  have bound := sound.holder i held
  simp only [List.length_append, List.length_cons] at bound ⊢
  exact bound

theorem Sound.invoke {vendor : Instr} (sound : Sound log ⟨guards, gate, front ++ [] :: back⟩)
    (callable : Callable guards vendor) (quiet : entry.happened.ending? = none) :
    Sound (log ++ [entry]) ⟨guards, gate, front ++ method vendor :: back⟩ := by
  have resting := sound.shape
  generalize held : (gate == some front.length) = holds at resting
  cases resting
  have silent : ∀ n,
      (method vendor).count (.dropArc n) = 0 ∧ (method vendor).count (.close n) = 0 := by
    intro n
    cases callable <;> exact ⟨rfl, rfl⟩
  refine sound.same quiet ?_ (fun n => (silent n).1) (fun n => (silent n).2) sound.holder_moved
    fun _ _ => rfl
  rw [held]
  exact .entering callable

theorem Sound.lock {rest : List Instr}
    (sound : Sound log ⟨guards, none, front ++ (.gateLock :: rest) :: back⟩)
    (quiet : entry.happened.ending? = none) :
    Sound (log ++ [entry]) ⟨guards, some front.length, front ++ rest :: back⟩ := by
  have here : Shape guards true rest := by
    have shape := sound.shape
    generalize spelled : Instr.gateLock :: rest = thread at shape
    generalize held : ((none : Option Nat) == some front.length) = holds at shape
    cases shape with
    | idle => cases spelled
    | entering callable =>
      cases spelled
      exact .inside callable
    | inside => cases held
    | leaving => cases held
    | dropping => cases spelled
    | destroying found =>
      cases spelled
      exact .closing found
    | closing => cases held
  refine sound.same quiet ?_ (fun _ => by simp) (fun _ => by simp) ?_ ?_
  · simpa using here
  · intro i same
    cases same
    simp
  · intro i differs
    simp [Ne.symm differs]

theorem shape_drops (guards : List Guard) (parent : Option Nat) :
    Shape guards false (parent.toList.map .dropArc) := by
  cases parent with
  | none => exact .idle
  | some n => exact .dropping n

theorem Sound.unlock {rest : List Instr}
    (sound : Sound log ⟨guards, some front.length, front ++ (.gateUnlock :: rest) :: back⟩)
    (quiet : entry.happened.ending? = none) :
    Sound (log ++ [entry]) ⟨guards, none, front ++ rest :: back⟩ := by
  have here : Shape guards false rest := by
    have shape := sound.shape
    generalize spelled : Instr.gateUnlock :: rest = thread at shape
    generalize held : (some front.length == some front.length) = holds at shape
    cases shape with
    | idle => cases spelled
    | entering => simp at held
    | inside callable =>
      cases spelled
      cases callable
    | leaving parent =>
      cases spelled
      exact shape_drops guards parent
    | dropping => cases spelled
    | destroying => simp at held
    | closing => cases spelled
  refine sound.same quiet ?_ (fun _ => by simp) (fun _ => by simp) ?_ ?_
  · simpa using here
  · intro i same
    cases same
  · intro i differs
    simp [Ne.symm differs]

/-- A vendor call other than a close is made inside a method, with the gate. -/
theorem Shape.calling {holds : Bool} {vendor : Instr} {rest : List Instr}
    (shape : Shape guards holds (vendor :: rest))
    (calls : (∃ kind parent, vendor = .openOn kind parent) ∨ ∃ n, vendor = .call n) :
    holds = true ∧ rest = [.gateUnlock] ∧ Callable guards vendor := by
  generalize spelled : vendor :: rest = thread at shape
  cases shape with
  | inside callable =>
    cases spelled
    exact ⟨rfl, rfl, callable⟩
  | idle => cases spelled
  | entering => cases spelled; simp at calls
  | leaving => cases spelled; simp at calls
  | dropping => cases spelled; simp at calls
  | destroying => cases spelled; simp at calls
  | closing => cases spelled; simp at calls

theorem Shape.closes {holds : Bool} {n : Nat} {rest : List Instr}
    (shape : Shape guards holds (.close n :: rest)) :
    holds = true ∧ ∃ guard,
      guards[n]? = some guard ∧ rest = .gateUnlock :: guard.parent.toList.map .dropArc := by
  generalize spelled : Instr.close n :: rest = thread at shape
  cases shape with
  | @closing _ guard found =>
    cases spelled
    exact ⟨rfl, guard, found, rfl⟩
  | inside callable =>
    cases spelled
    cases callable
  | idle => cases spelled
  | entering => cases spelled
  | leaving => cases spelled
  | dropping => cases spelled
  | destroying => cases spelled

/-- A thread about to close a guard drops the guard's reference of its parent after that. -/
theorem Shape.close_mem {holds : Bool} {c : Nat} (shape : Shape guards holds thread)
    (member : .close c ∈ thread) :
    ∃ guard, guards[c]? = some guard ∧ ∀ n, guard.parent = some n → .dropArc n ∈ thread := by
  cases shape with
  | idle => cases member
  | entering callable => cases callable <;> simp [method] at member
  | inside callable => cases callable <;> simp at member
  | leaving parent => simp at member
  | dropping n => simp at member
  | @destroying n guard found =>
    have same : c = n := by simpa [Guard.drop] using member
    subst same
    refine ⟨guard, found, fun n parent => ?_⟩
    simp [Guard.drop, parent]
  | @closing n guard found =>
    have same : c = n := by simpa using member
    subst same
    refine ⟨guard, found, fun n parent => ?_⟩
    simp [parent]

theorem Shape.drops {holds : Bool} {n : Nat} {rest : List Instr}
    (shape : Shape guards holds (.dropArc n :: rest)) :
    holds = false ∧ rest = [] := by
  generalize spelled : Instr.dropArc n :: rest = thread at shape
  cases shape with
  | dropping =>
    cases spelled
    exact ⟨rfl, rfl⟩
  | inside callable =>
    cases spelled
    cases callable
  | idle => cases spelled
  | entering => cases spelled
  | leaving => cases spelled
  | destroying => cases spelled
  | closing => cases spelled

theorem Sound.call {vendor : Instr} {rest : List Instr}
    (sound : Sound log ⟨guards, gate, front ++ (vendor :: rest) :: back⟩)
    (calls : (∃ kind parent, vendor = .openOn kind parent) ∨ ∃ n, vendor = .call n)
    (quiet : entry.happened.ending? = none) :
    Sound (log ++ [entry]) ⟨guards, gate, front ++ rest :: back⟩ := by
  obtain ⟨held, rfl, callable⟩ := sound.shape.calling calls
  refine sound.same quiet ?_ ?_ ?_ sound.holder_moved fun _ _ => rfl
  · rw [held]
    exact .leaving none
  · intro n
    rcases calls with ⟨kind, parent, rfl⟩ | ⟨m, rfl⟩ <;> rfl
  · intro n
    rcases calls with ⟨kind, parent, rfl⟩ | ⟨m, rfl⟩ <;> rfl

/-- A guard with a box is referred to, and has not been closed. -/
theorem Sound.boxed_alive {s : State} {n : Nat} {guard : Guard} (sound : Sound log s)
    (found : s.guards[n]? = some guard) (boxed : guard.boxed = true) :
    0 < guard.strong ∧ n ∉ closings log := by
  have strong := sound.strong n
  have held : boxes s.guards n = 1 := by
    rw [boxes, reading_found found, boxed]
    rfl
  have count : strongOf s.guards n = guard.strong := reading_found found
  have alive : 0 < guard.strong := by omega
  refine ⟨alive, ?_⟩
  have living : dead s.guards n = 0 := by
    rw [dead, reading_found found]
    exact if_neg (by omega)
  have ended := sound.ended n
  have told := sound.told n
  intro member
  have counted := List.count_pos_iff.mpr member
  split at told <;> omega

theorem length_clone (parent : Option Nat) : (clone guards parent).length = guards.length := by
  cases parent with
  | none => rfl
  | some n => exact List.length_modify ..

/-- The guard that another is opened on is there, and gets one reference more. -/
theorem Sound.cloned {s : State} {kind : GuardKind} {parent : Option Nat} (sound : Sound log s)
    (callable : Callable s.guards (.openOn kind parent)) (m : Nat) :
    strongOf (clone s.guards parent) m = strongOf s.guards m + (if parent = some m then 1 else 0) ∧
      children (clone s.guards parent) m = children s.guards m ∧
      dead (clone s.guards parent) m = dead s.guards m ∧
      boxes (clone s.guards parent) m = boxes s.guards m ∧
        rawOf (clone s.guards parent) m = rawOf s.guards m := by
  cases callable with
  | openDevice => exact ⟨rfl, rfl, rfl, rfl, rfl⟩
  | @openOn _ n guard found boxed fits =>
    have alive := (sound.boxed_alive found boxed).1
    refine ⟨?_, children_clone found alive, dead_clone found alive, reading_kept fun _ => rfl,
      reading_kept fun _ => rfl⟩
    rw [strongOf_clone found]
    simp only [Option.some.injEq]

/-- Nothing has ended under a number that is not yet taken. -/
theorem Sound.unnumbered {s : State} {n : Nat} (sound : Sound log s)
    (absent : s.guards[n]? = none) :
    (closings log).count n = 0 ∧ (endings log).count n = 0 := by
  have told := sound.told n
  have ended := sound.ended n
  rw [rawOf, reading, absent] at told
  rw [dead, reading, absent] at ended
  simp only [Option.map_none, Option.getD_none] at told ended
  exact ⟨told, by omega⟩

section opening

variable {kind : GuardKind} {parent : Option Nat} {raw : Nat} {s : State}

/-- The new guard refers to its parent, and its own one reference is its box. -/
theorem Sound.opened_strong (sound : Sound log s)
    (callable : Callable s.guards (.openOn kind parent)) (m : Nat) :
    strongOf (clone s.guards parent ++ [⟨kind, parent, raw, 1, true⟩]) m + boxes s.guards m +
      children s.guards m =
      boxes (clone s.guards parent ++ [⟨kind, parent, raw, 1, true⟩]) m +
        children (clone s.guards parent ++ [⟨kind, parent, raw, 1, true⟩]) m +
          strongOf s.guards m := by
  obtain ⟨strongs, kids, -, boxeds, -⟩ := sound.cloned callable m
  have owned : children (clone s.guards parent ++ [⟨kind, parent, raw, 1, true⟩]) m =
      children (clone s.guards parent) m + if parent = some m then 1 else 0 := by
    simp [children, List.countP_append]
  rw [strongOf, reading_append, ← strongOf, boxes, reading_append, ← boxes, owned, strongs, kids,
    boxeds]
  simp only [Bool.toNat_true]
  omega

theorem Sound.opened_told (sound : Sound log s) (callable : Callable s.guards (.openOn kind parent))
    (m : Nat) :
    (closings log).count m =
      if rawOf (clone s.guards parent ++ [⟨kind, parent, raw, 1, true⟩]) m = 0 then 0
        else (endings log).count m := by
  rw [rawOf, reading_append, ← rawOf, (sound.cloned callable m).2.2.2.2]
  by_cases fresh : m = (clone s.guards parent).length
  · subst fresh
    have absent : s.guards[(clone s.guards parent).length]? = none := by
      rw [length_clone]
      exact List.getElem?_eq_none (Nat.le_refl _)
    obtain ⟨unclosed, unended⟩ := sound.unnumbered absent
    rw [unclosed, unended, ite_self]
  · rw [if_neg fresh, Nat.add_zero]
    exact sound.told m

/-- The parent of the new guard has a box, so it has not been closed. -/
theorem Sound.opened_ordered (sound : Sound log s)
    (callable : Callable s.guards (.openOn kind parent)) (silent : entry.happened.closing? = none) :
    Ordered (log ++ [entry]) (clone s.guards parent ++ [⟨kind, parent, raw, 1, true⟩]) := by
  refine sound.ordered.quiet silent fun c guard found => ?_
  rcases Nat.lt_or_ge c (clone s.guards parent).length with before | behind
  · left
    rw [List.getElem?_append_left before] at found
    rw [length_clone] at before
    obtain ⟨guard', there, -, parent', raw'⟩ :=
      @extends_clone s.guards parent c _ (List.getElem?_eq_getElem before)
    cases there.symm.trans found
    exact ⟨s.guards[c], List.getElem?_eq_getElem before, parent', raw'⟩
  · right
    rw [List.getElem?_append_right behind] at found
    have last := List.mem_of_getElem? found
    rw [List.mem_singleton.mp last]
    intro n same
    cases callable with
    | openDevice => cases same
    | openOn there boxed fits =>
      cases same
      exact (sound.boxed_alive there boxed).2

end opening

theorem Sound.opened {kind : GuardKind} {parent : Option Nat} {rest : List Instr} {raw : Nat}
    (sound : Sound log ⟨guards, gate, front ++ (.openOn kind parent :: rest) :: back⟩)
    (quiet : entry.happened.ending? = none) :
    Sound (log ++ [entry]) ⟨clone guards parent ++ [⟨kind, parent, raw, 1, true⟩], gate,
      front ++ rest :: back⟩ := by
  -- The new guard comes after all others and refers to its parent.
  obtain ⟨held, rfl, callable⟩ := sound.shape.calling (.inl ⟨kind, parent, rfl⟩)
  have silent := closing?_quiet quiet
  refine ⟨?_, sound.holder_moved, ?_, ?_, ?_, sound.opened_ordered callable silent⟩
  · refine sound.others ?_ (extends_append (extends_clone parent) _) ?_ fun _ _ => rfl
    · rw [held]
      exact .leaving none
    · intro _ _ _ _ n _
      rw [boxes, reading_append, ← boxes, (sound.cloned callable n).2.2.2.1]
      exact Nat.le_add_right _ _
  · intro m
    have strong := sound.strong m
    have opened := @Sound.opened_strong log kind parent raw _ sound callable m
    rw [pending_append] at strong ⊢
    simp only [List.count_cons, List.count_nil, beq_iff_eq, reduceCtorEq,
      if_false] at strong opened ⊢
    omega
  · intro m
    have ended := sound.ended m
    rw [pending_append] at ended ⊢
    rw [endings_append, quiet, dead, reading_append, ← dead, (sound.cloned callable m).2.2.1]
    simpa using ended
  · intro m
    rw [closings_append, endings_append, silent, quiet]
    simp only [Option.toList, List.append_nil]
    exact sound.opened_told callable m

theorem Sound.dropBox {n : Nat} {guard : Guard}
    (sound : Sound log ⟨guards, gate, front ++ [] :: back⟩) (found : guards[n]? = some guard)
    (boxed : guard.boxed = true)
    (unborrowed : ∀ thread ∈ front ++ back, ∀ instr ∈ thread, instr.borrows ≠ some n)
    (quiet : entry.happened.ending? = none) :
    Sound (log ++ [entry]) ⟨unbox guards n, gate, front ++ [.dropArc n] :: back⟩ := by
  have silent := closing?_quiet quiet
  have resting := sound.shape
  generalize held : (gate == some front.length) = holds at resting
  cases resting
  -- The box of the guard is gone; the reference it held is the drop that is still to come.
  have unboxed : ∀ m, boxes (unbox guards n) m + (if n = m then 1 else 0) = boxes guards m :=
    fun m => boxes_unbox found boxed
  refine ⟨?_, sound.holder_moved, ?_, ?_, ?_, sound.ordered.modify silent fun _ => ⟨rfl, rfl⟩⟩
  · refine sound.others ?_ (extends_modify fun _ => ⟨rfl, rfl, rfl⟩) ?_ fun _ _ => rfl
    · rw [held]
      exact .dropping n
    · intro other member instr inside m borrowed
      have elsewhere : n ≠ m := by
        intro same
        subst same
        exact unborrowed other member instr inside borrowed
      have same := unboxed m
      rw [if_neg elsewhere] at same
      exact Nat.le_of_eq same.symm
  · intro m
    have strong := sound.strong m
    have same := unboxed m
    have kids : children (unbox guards n) m = children guards m := by
      have counted := countP_modify (f := fun guard => { guard with boxed := false })
        (p := fun guard => guard.parent == some m && decide (0 < guard.strong)) found
      exact Nat.add_right_cancel counted
    have count : strongOf (unbox guards n) m = strongOf guards m := reading_kept fun _ => rfl
    have references : [Instr.dropArc n].count (.dropArc m) = if n = m then 1 else 0 := by
      rw [List.count_singleton]
      simp
    rw [pending_append] at strong ⊢
    rw [kids, count, references]
    simp only [List.count_nil, Nat.add_zero] at strong ⊢
    omega
  · intro m
    have ended := sound.ended m
    have same : dead (unbox guards n) m = dead guards m := reading_kept fun _ => rfl
    rw [pending_append] at ended ⊢
    rw [endings_append, quiet, same]
    simpa using ended
  · intro m
    have told := sound.told m
    have same : rawOf (unbox guards n) m = rawOf guards m := reading_kept fun _ => rfl
    rw [closings_append, endings_append, silent, quiet, same]
    simpa using told

theorem Sound.unreferenced_close {n : Nat} {guard : Guard} {rest : List Instr}
    (sound : Sound log ⟨guards, gate, front ++ (.close n :: rest) :: back⟩)
    (found : guards[n]? = some guard) :
    strongOf guards n = 0 := by
  have ended := sound.ended n
  rw [pending_append, List.count_cons_self, dead, reading_found found] at ended
  rw [strongOf, reading_found found]
  split at ended
  · assumption
  · omega

/-- A child that has not been closed would still refer to the guard, or be about to. -/
theorem Sound.children_closed {s : State} {n c : Nat} {child : Guard} (sound : Sound log s)
    (unreferenced : strongOf s.guards n = 0) (there : s.guards[c]? = some child)
    (parent : child.parent = some n) (some : child.raw ≠ 0) : c ∈ closings log := by
  have strong := sound.strong n
  have childless : children s.guards n = 0 := by omega
  have undropped : pending s.threads (.dropArc n) = 0 := by omega
  have unalive : child.strong = 0 := by
    have all := List.countP_eq_zero.mp childless child (List.mem_of_getElem? there)
    simpa [parent] using all
  have closed : pending s.threads (.close c) = 0 := by
    by_contra unclosed
    obtain ⟨thread, inside, close⟩ :=
      List.mem_flatten.mp (List.count_pos_iff.mp (Nat.pos_of_ne_zero unclosed))
    obtain ⟨i, bound, at_i⟩ := List.getElem_of_mem inside
    obtain ⟨child', there', later⟩ :=
      (sound.shapes i thread (at_i ▸ List.getElem?_eq_getElem bound)).close_mem close
    cases there.symm.trans there'
    have referred := List.count_pos_iff.mpr (List.mem_flatten.mpr ⟨thread, inside, later n parent⟩)
    exact Nat.ne_of_gt referred undropped
  have ended := sound.ended c
  have told := sound.told c
  rw [dead, reading_found there, if_pos unalive, closed] at ended
  rw [rawOf, reading_found there, if_neg some] at told
  exact List.count_pos_iff.mp (by omega)

/-- What the destructor does at the end of a guard: a null handle is passed over. -/
theorem Sound.told_close {s : State} {n by' : Nat} {guard : Guard} (sound : Sound log s)
    (found : s.guards[n]? = some guard) (m : Nat) :
    (closings (log ++ [⟨by', if guard.raw = 0 then .skipped n else .closed n⟩])).count m =
      if rawOf s.guards m = 0 then 0
      else (endings (log ++ [⟨by', if guard.raw = 0 then .skipped n else .closed n⟩])).count m := by
  have told := sound.told m
  have raw : rawOf s.guards n = guard.raw := by rw [rawOf, reading_found found]
  rw [closings_append, endings_append, List.count_append, List.count_append]
  by_cases same : n = m
  · subst same
    rw [raw] at told ⊢
    by_cases null : guard.raw = 0
    · simpa [null, Happened.closing?] using told
    · simpa [null, Happened.closing?, Happened.ending?] using told
  · by_cases null : guard.raw = 0
    · simpa [null, same, Happened.closing?, Happened.ending?] using told
    · simpa [null, same, Happened.closing?, Happened.ending?] using told

theorem Sound.close {n by' : Nat} {guard : Guard} {rest : List Instr}
    (sound : Sound log ⟨guards, gate, front ++ (.close n :: rest) :: back⟩)
    (found : guards[n]? = some guard) :
    Sound (log ++ [⟨by', if guard.raw = 0 then .skipped n else .closed n⟩])
      ⟨guards, gate, front ++ rest :: back⟩ := by
  obtain ⟨held, guard', found', rfl⟩ := sound.shape.closes
  cases found.symm.trans found'
  have unreferenced := sound.unreferenced_close found
  have ending : (if guard.raw = 0 then Happened.skipped n else .closed n).ending? = some n := by
    split <;> rfl
  refine ⟨?_, sound.holder_moved, ?_, ?_, sound.told_close found, ?_⟩
  · refine sound.others ?_ (extends_refl guards) (fun _ _ _ _ _ _ => Nat.le_refl _) fun _ _ => rfl
    rw [held]
    exact .leaving guard.parent
  · intro m
    have strong := sound.strong m
    rw [pending_append] at strong ⊢
    simpa using strong
  · intro m
    have ended := sound.ended m
    rw [pending_append, List.count_cons] at ended
    rw [pending_append, endings_append, ending, List.count_append]
    simp only [Option.toList, List.count_singleton, beq_iff_eq, Instr.close.injEq] at ended ⊢
    omega
  · refine sound.ordered.next fun m closed c child there parent some => ?_
    -- A null handle is skipped, which closes nothing that an order could be asked of.
    by_cases null : guard.raw = 0
    · rw [if_pos null] at closed
      cases closed
    · rw [if_neg null] at closed
      cases closed
      exact sound.children_closed unreferenced there parent some

theorem Guard.count_dropArc (guard : Guard) (n m : Nat) :
    (if guard.strong = 1 then guard.drop n else []).count (.dropArc m) =
      if guard.strong = 1 ∧ guard.parent = some m then 1 else 0 := by
  by_cases last : guard.strong = 1
  · rw [if_pos last]
    cases parent : guard.parent with
    | none => simp [Guard.drop, parent, last]
    | some p => simp [Guard.drop, parent, last, List.count_singleton]
  · simp [last]

theorem Guard.count_close (guard : Guard) (n m : Nat) :
    (if guard.strong = 1 then guard.drop n else []).count (.close m) =
      if guard.strong = 1 ∧ n = m then 1 else 0 := by
  by_cases last : guard.strong = 1
  · rw [if_pos last]
    cases parent : guard.parent with
    | none => simp [Guard.drop, parent, last, List.count_cons]
    | some p => simp [Guard.drop, parent, last, List.count_cons]
  · simp [last]

theorem Sound.dropArc {n : Nat} {guard : Guard} {rest : List Instr}
    (sound : Sound log ⟨guards, gate, front ++ (.dropArc n :: rest) :: back⟩)
    (found : guards[n]? = some guard) (quiet : entry.happened.ending? = none) :
    Sound (log ++ [entry]) ⟨release guards n, gate,
      front ++ ((if guard.strong = 1 then guard.drop n else []) ++ rest) :: back⟩ := by
  obtain ⟨held, rfl⟩ := sound.shape.drops
  have silent := closing?_quiet quiet
  -- The drop that is about to run is itself counted among the references.
  have alive : 0 < guard.strong := by
    have strong := sound.strong n
    rw [pending_append, List.count_cons_self, strongOf, reading_found found] at strong
    omega
  rw [List.append_nil]
  have still : Extends guards (release guards n) := extends_modify fun _ => ⟨rfl, rfl, rfl⟩
  refine ⟨?_, sound.holder_moved, ?_, ?_, ?_, sound.ordered.modify silent fun _ => ⟨rfl, rfl⟩⟩
  · refine sound.others ?_ still ?_ fun _ _ => rfl
    · rw [held]
      split
      · obtain ⟨guard', there, -, parent, -⟩ := still n guard found
        have same : guard.drop n = guard'.drop n := by rw [Guard.drop, Guard.drop, parent]
        rw [same]
        exact .destroying there
      · exact .idle
    · intro _ _ _ _ m _
      have same : boxes (release guards n) m = boxes guards m := reading_kept fun _ => rfl
      exact Nat.le_of_eq same.symm
  · intro m
    have strong := sound.strong m
    have fewer := strongOf_release (m := m) found alive
    have kids := children_release (m := m) found alive
    have same : boxes (release guards n) m = boxes guards m := reading_kept fun _ => rfl
    rw [pending_append, List.count_singleton] at strong
    rw [pending_append, guard.count_dropArc, same]
    simp only [beq_iff_eq, Instr.dropArc.injEq] at strong
    dsimp only
    omega
  · intro m
    have ended := sound.ended m
    have more := dead_release (m := m) found alive
    rw [pending_append] at ended
    rw [pending_append, endings_append, quiet, guard.count_close]
    simp only [List.count_cons, List.count_nil, beq_iff_eq, reduceCtorEq, if_false, Option.toList,
      List.append_nil]
      at ended ⊢
    omega
  · intro m
    have told := sound.told m
    have same : rawOf (release guards n) m = rawOf guards m := reading_kept fun _ => rfl
    rw [closings_append, endings_append, silent, quiet, same]
    simpa using told

end steps

end SkfService.Native
